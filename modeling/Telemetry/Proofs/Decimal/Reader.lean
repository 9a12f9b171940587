import Telemetry.Decimal.Reader
import Telemetry.Proofs.Decimal.Digits
import Telemetry.Proofs.Json.Nearby

namespace Telemetry.Decimal

open Telemetry Binary64 Json

/-! The double nearest to a numeral. How its zeros are written makes no difference to it, and digits
behind the first seventeen move it by two doubles at most. -/

variable {decimal : Decimal}

theorem power_add (exponent other : Nat) :
    Nat.pow 10 (exponent + other) = Nat.pow 10 exponent * Nat.pow 10 other :=
  Nat.pow_add 10 exponent other

theorem exists_tiny : ∃ exponent, exponent = 330 ∧ nearest 1 (Nat.pow 10 exponent) = 0 :=
  ⟨330, rfl, by decide +kernel⟩

theorem nearest_of_far_behind
    (far : (digits decimal.coefficient).length + decimal.exponent < -330) :
    nearest (decimal.coefficient * Nat.pow 10 decimal.exponent.toNat)
      (Nat.pow 10 (-decimal.exponent).toNat) = 0 := by
  obtain ⟨tiny, isTiny, zero⟩ := exists_tiny
  have width := lt_pow_length_digits decimal.coefficient
  have unscaled : decimal.exponent.toNat = 0 := by omega
  have one : Nat.pow 10 0 = 1 := rfl
  have places : (digits decimal.coefficient).length + tiny ≤ (-decimal.exponent).toNat := by omega
  rw [unscaled, one, Nat.mul_one]
  refine Nat.le_zero.mp (le_trans ?_ zero.le)
  refine nearest_le_of_mul_le (powerOfTen_pos _) (powerOfTen_pos _) ?_
  calc decimal.coefficient * Nat.pow 10 tiny
      ≤ Nat.pow 10 (digits decimal.coefficient).length * Nat.pow 10 tiny :=
        Nat.mul_le_mul_right _ width.le
    _ = Nat.pow 10 ((digits decimal.coefficient).length + tiny) := (power_add _ _).symm
    _ ≤ Nat.pow 10 (-decimal.exponent).toNat := pow_mono places
    _ = 1 * Nat.pow 10 (-decimal.exponent).toNat := (Nat.one_mul _).symm

theorem nearest_of_far_before (positive : decimal.coefficient ≠ 0)
    (far : 320 < (digits decimal.coefficient).length + decimal.exponent) :
    nearest (decimal.coefficient * Nat.pow 10 decimal.exponent.toNat)
      (Nat.pow 10 (-decimal.exponent).toNat) = infinityMagnitude := by
  obtain ⟨first, isFirst⟩ : ∃ first, first = 309 := ⟨309, rfl⟩
  have infinite := nearest_infinite Nat.one_pos (by omega : 308 < first)
  rw [Nat.one_mul] at infinite
  have width := pow_length_digits_le positive
  have places : first + (-decimal.exponent).toNat ≤
      (digits decimal.coefficient).length - 1 + decimal.exponent.toNat := by omega
  refine Nat.le_antisymm (nearest_le _ _) (infinite.ge.trans ?_)
  refine nearest_le_of_mul_le Nat.one_pos (powerOfTen_pos _) ?_
  calc Nat.pow 10 first * Nat.pow 10 (-decimal.exponent).toNat
      = Nat.pow 10 (first + (-decimal.exponent).toNat) := (power_add _ _).symm
    _ ≤ Nat.pow 10 ((digits decimal.coefficient).length - 1 + decimal.exponent.toNat) :=
        pow_mono places
    _ = Nat.pow 10 ((digits decimal.coefficient).length - 1) *
          Nat.pow 10 decimal.exponent.toNat := power_add _ _
    _ ≤ decimal.coefficient * Nat.pow 10 decimal.exponent.toNat := Nat.mul_le_mul_right _ width
    _ = decimal.coefficient * Nat.pow 10 decimal.exponent.toNat * 1 := (Nat.mul_one _).symm

theorem toMagnitude_eq (decimal : Decimal) : toMagnitude decimal =
    nearest (decimal.coefficient * Nat.pow 10 decimal.exponent.toNat)
      (Nat.pow 10 (-decimal.exponent).toNat) := by
  have one : Nat.pow 10 0 = 1 := rfl
  rw [toMagnitude]
  split
  · next small =>
      rcases small with zero | far
      · rw [zero, Nat.zero_mul, nearest_zero (powerOfTen_pos _)]
      · exact (nearest_of_far_behind far).symm
  · next large =>
      obtain ⟨positive, -⟩ := not_or.mp large
      split
      · next far => exact (nearest_of_far_before positive far).symm
      · split
        · next up =>
            have unscaled : (-decimal.exponent).toNat = 0 := by omega
            rw [unscaled, one]
        · next down =>
            have unscaled : decimal.exponent.toNat = 0 := by omega
            rw [unscaled, one, Nat.mul_one]

theorem toMagnitude_of_zero (zero : decimal.coefficient = 0) : toMagnitude decimal = 0 := by
  rw [toMagnitude, if_pos (.inl zero)]

theorem toMagnitude_le (decimal : Decimal) : toMagnitude decimal ≤ infinityMagnitude := by
  rw [toMagnitude_eq]
  exact nearest_le _ _

/-- Zeros at the end of the coefficient count as a power of ten. -/
theorem toMagnitude_shift (coefficient places : Nat) (exponent : Int) :
    toMagnitude ⟨coefficient * Nat.pow 10 places, exponent⟩ =
      toMagnitude ⟨coefficient, exponent + places⟩ := by
  have powers : places + exponent.toNat + (-(exponent + places)).toNat =
      (exponent + places).toNat + (-exponent).toNat := by omega
  have same : coefficient * Nat.pow 10 places * Nat.pow 10 exponent.toNat *
        Nat.pow 10 (-(exponent + places)).toNat =
      coefficient * Nat.pow 10 (exponent + places).toNat * Nat.pow 10 (-exponent).toNat := by
    rw [Nat.mul_assoc coefficient, ← power_add, Nat.mul_assoc coefficient, ← power_add, powers,
      Nat.mul_assoc coefficient, ← power_add]
  rw [toMagnitude_eq, toMagnitude_eq]
  exact Nat.le_antisymm (nearest_le_of_mul_le (powerOfTen_pos _) (powerOfTen_pos _) same.le)
    (nearest_le_of_mul_le (powerOfTen_pos _) (powerOfTen_pos _) same.ge)

/-- Two coefficients that begin with the same digits, and with at least as many as a double
holds. -/
structure SharesLead (coefficient other : Nat) : Prop where
  exists_lead : ∃ lead unit, 2 * leastNormal ≤ lead ∧
    lead * unit ≤ coefficient ∧ coefficient ≤ (lead + 1) * unit ∧
    lead * unit ≤ other ∧ other ≤ (lead + 1) * unit

namespace SharesLead

variable {coefficient other : Nat}

theorem symm (shares : SharesLead coefficient other) : SharesLead other coefficient := by
  obtain ⟨lead, unit, large, below, above, otherBelow, otherAbove⟩ := shares.exists_lead
  exact ⟨lead, unit, large, otherBelow, otherAbove, below, above⟩

theorem eq_zero (shares : SharesLead coefficient other) (zero : coefficient = 0) : other = 0 := by
  obtain ⟨lead, unit, large, below, -, -, otherAbove⟩ := shares.exists_lead
  have positive : 0 < 2 * leastNormal := by decide
  have none : unit = 0 := by
    rw [zero] at below
    exact (Nat.mul_eq_zero.mp (Nat.le_zero.mp below)).resolve_left (by omega)
  rw [none, Nat.mul_zero] at otherAbove
  exact Nat.le_zero.mp otherAbove

theorem rounded_le (shares : SharesLead coefficient other) :
    (2 * leastNormal - 1) * coefficient ≤ 2 * leastNormal * other := by
  obtain ⟨lead, unit, large, -, above, otherBelow, -⟩ := shares.exists_lead
  have step : (2 * leastNormal - 1) * (lead + 1) ≤ 2 * leastNormal * lead := by
    rw [leastNormal] at large ⊢
    omega
  calc (2 * leastNormal - 1) * coefficient
      ≤ (2 * leastNormal - 1) * ((lead + 1) * unit) := Nat.mul_le_mul_left _ above
    _ = (2 * leastNormal - 1) * (lead + 1) * unit := (Nat.mul_assoc _ _ _).symm
    _ ≤ 2 * leastNormal * lead * unit := Nat.mul_le_mul_right _ step
    _ = 2 * leastNormal * (lead * unit) := Nat.mul_assoc _ _ _
    _ ≤ 2 * leastNormal * other := Nat.mul_le_mul_left _ otherBelow

theorem close (shares : SharesLead coefficient other) :
    Close 1 (coefficient : Rat) (other : Rat) where
  below := by
    rw [pow_one, rounded_mul_le]
    exact_mod_cast shares.rounded_le
  above := by
    rw [pow_one, rounded_mul_le]
    exact_mod_cast shares.symm.rounded_le

theorem toMagnitude_le (shares : SharesLead coefficient other) (exponent : Int) :
    toMagnitude ⟨other, exponent⟩ ≤ toMagnitude ⟨coefficient, exponent⟩ + 2 := by
  have scaledClose : Close 1
      (((coefficient * Nat.pow 10 exponent.toNat : Nat) : Rat) /
        (Nat.pow 10 (-exponent).toNat : Nat))
      (((other * Nat.pow 10 exponent.toNat : Nat) : Rat) /
        (Nat.pow 10 (-exponent).toNat : Nat)) := by
    rw [Nat.cast_mul, Nat.cast_mul, mul_div_assoc, mul_div_assoc]
    exact shares.close.mul_right (div_nonneg (Nat.cast_nonneg _) (Nat.cast_nonneg _))
  have near := nearest_le_of_close (powerOfTen_pos _) (powerOfTen_pos _) scaledClose
  rwa [← toMagnitude_eq ⟨coefficient, exponent⟩, ← toMagnitude_eq ⟨other, exponent⟩] at near

end SharesLead

end Telemetry.Decimal
