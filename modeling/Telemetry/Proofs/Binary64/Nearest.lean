import Mathlib.Tactic.Ring
import Telemetry.Proofs.Binary64.Rounding

namespace Telemetry.Binary64

/-! Rounding goes to the nearer of two neighbouring doubles, and from the middle between them to the
even one. -/

variable {x y : Binary64}

/-- The low bits of a double as a significand and the number of zeros behind it. -/
structure Digits (magnitude significand shift : Nat) : Prop where
  whole : magnitude = shift * leastNormal + significand
  below : significand < 2 * leastNormal
  normal : shift = 0 ∨ leastNormal ≤ significand

theorem exists_digits (magnitude : Nat) :
    ∃ significand shift, Digits magnitude significand shift := by
  have wholes := Nat.div_add_mod magnitude leastNormal
  have fraction : magnitude % leastNormal < leastNormal := Nat.mod_lt _ (by decide)
  by_cases subnormal : magnitude / leastNormal = 0
  · rw [subnormal] at wholes
    exact ⟨magnitude % leastNormal, 0, by omega, by omega, .inl rfl⟩
  · obtain ⟨shift, isShift⟩ := Nat.exists_eq_succ_of_ne_zero subnormal
    rw [isShift, Nat.succ_eq_add_one, Nat.mul_succ, Nat.mul_comm] at wholes
    exact ⟨leastNormal + magnitude % leastNormal, shift, by omega, by omega, .inr (by omega)⟩

namespace Digits

variable {magnitude significand shift : Nat}

theorem units (digits : Digits magnitude significand shift) :
    unitsOf magnitude = significand <<< shift := by
  obtain ⟨rfl, below, normal⟩ := digits
  by_cases small : significand < leastNormal
  · obtain rfl : shift = 0 := normal.resolve_right (Nat.not_le.mpr small)
    rw [Nat.zero_mul, Nat.zero_add, unitsOf, if_pos (Nat.div_eq_of_lt small),
      Nat.mod_eq_of_lt small]
    rfl
  · obtain ⟨fraction, rfl⟩ := Nat.exists_eq_add_of_le (Nat.not_lt.mp small)
    have positive : 0 < leastNormal := by decide
    have whole : shift * leastNormal + (leastNormal + fraction) =
        fraction + leastNormal * (shift + 1) := by ring
    rw [whole, unitsOf, Nat.add_mul_div_left _ _ positive, Nat.add_mul_mod_self_left,
      Nat.div_eq_of_lt (by omega), Nat.mod_eq_of_lt (by omega), Nat.zero_add]
    rfl

/-- The next double is one more in the last digit. -/
theorem units_succ (digits : Digits magnitude significand shift) :
    unitsOf (magnitude + 1) = (significand + 1) <<< shift := by
  obtain ⟨rfl, below, normal⟩ := digits
  by_cases last : significand + 1 < 2 * leastNormal
  · exact units ⟨Nat.add_assoc _ _ _, last, normal.imp_right Nat.le_succ_of_le⟩
  · obtain isLast : significand + 1 = 2 * leastNormal := by omega
    have carried : Digits (shift * leastNormal + significand + 1) leastNormal (shift + 1) :=
      ⟨by rw [Nat.add_assoc, isLast]; ring, by decide, .inr (Nat.le_refl _)⟩
    rw [carried.units, isLast, Nat.shiftLeft_eq, Nat.shiftLeft_eq, Nat.pow_succ]
    ring

end Digits

theorem unitsOf_lt_succ (magnitude : Nat) : unitsOf magnitude < unitsOf (magnitude + 1) := by
  obtain ⟨significand, shift, digits⟩ := exists_digits magnitude
  rw [digits.units, digits.units_succ, Nat.shiftLeft_eq, Nat.shiftLeft_eq]
  exact Nat.mul_lt_mul_of_pos_right (Nat.lt_succ_self _) (Nat.two_pow_pos _)

theorem droppedDigits_eq {quotient shift : Nat} (below : quotient < (2 * leastNormal) <<< shift)
    (normal : shift = 0 ∨ leastNormal <<< shift ≤ quotient) : droppedDigits quotient = shift := by
  rw [Nat.shiftLeft_eq] at below normal
  have width : quotient < 2 ^ (53 + shift) := by
    rw [Nat.pow_add]
    exact below
  rw [droppedDigits]
  rcases normal with rfl | above
  · by_cases none : quotient = 0
    · rw [none]
      decide
    · have small := (Nat.log2_lt none).mpr width
      omega
  · have least : 2 ^ (52 + shift) ≤ quotient := by
      rw [Nat.pow_add]
      exact above
    have notZero : quotient ≠ 0 := Nat.ne_of_gt (Nat.lt_of_lt_of_le (Nat.two_pow_pos _) least)
    have logarithm : quotient.log2 = 52 + shift :=
      (Nat.log2_eq_iff notZero).mpr ⟨least, by rw [Nat.add_right_comm]; exact width⟩
    omega

namespace Digits

variable {magnitude significand shift : Nat}

theorem droppedDigits_eq (digits : Digits magnitude significand shift) {quotient : Nat}
    (above : significand <<< shift ≤ quotient) (below : quotient < (significand + 1) <<< shift) :
    droppedDigits quotient = shift := by
  rw [Nat.shiftLeft_eq] at above below
  refine Binary64.droppedDigits_eq (Nat.lt_of_lt_of_le below ?_) (digits.normal.imp_right ?_)
  · rw [Nat.shiftLeft_eq]
    exact Nat.mul_le_mul_right _ digits.below
  · intro normal
    rw [Nat.shiftLeft_eq]
    exact Nat.le_trans (Nat.mul_le_mul_right _ normal) above

theorem mod_two (digits : Digits magnitude significand shift) :
    magnitude % 2 = significand % 2 := by
  have even : leastNormal % 2 = 0 := by decide
  rw [digits.whole, Nat.add_mod, Nat.mul_mod, even, Nat.mul_zero, Nat.zero_mod, Nat.zero_add,
    Nat.mod_mod]

end Digits

theorem roundHalfEven_eq {numerator denominator quotient : Nat}
    (above : quotient * denominator ≤ numerator)
    (below : numerator < (quotient + 1) * denominator) :
    roundHalfEven numerator denominator =
      if 2 * numerator < (2 * quotient + 1) * denominator then quotient
      else if (2 * quotient + 1) * denominator < 2 * numerator then quotient + 1
      else quotient + quotient % 2 := by
  have whole : numerator / denominator = quotient := Nat.div_eq_of_lt_le above below
  have rest := Nat.div_add_mod numerator denominator
  rw [whole, Nat.mul_comm] at rest
  have middle : (2 * quotient + 1) * denominator = 2 * (quotient * denominator) + denominator := by
    ring
  simp only [roundHalfEven, whole]
  split <;> split <;> (try split) <;> (try split) <;> omega

/-- Between a double and the next one a quotient goes to the nearer of them, and from the middle to
the one that is even. -/
theorem nearest_eq {numerator denominator magnitude : Nat} (positive : 0 < denominator)
    (bounded : magnitude < infinityMagnitude)
    (above : unitsOf magnitude * denominator ≤ numerator * unitsInOne)
    (below : numerator * unitsInOne < unitsOf (magnitude + 1) * denominator) :
    nearest numerator denominator =
      if 2 * (numerator * unitsInOne) < (unitsOf magnitude + unitsOf (magnitude + 1)) * denominator
      then magnitude
      else if (unitsOf magnitude + unitsOf (magnitude + 1)) * denominator <
        2 * (numerator * unitsInOne) then magnitude + 1
      else magnitude + magnitude % 2 := by
  obtain ⟨significand, shift, digits⟩ := exists_digits magnitude
  have middle : (significand <<< shift + (significand + 1) <<< shift) * denominator =
      (2 * significand + 1) * (denominator <<< shift) := by
    rw [Nat.shiftLeft_eq, Nat.shiftLeft_eq, Nat.shiftLeft_eq]
    ring
  have regroup : ∀ number, number <<< shift * denominator = number * (denominator <<< shift) := by
    intro number
    rw [Nat.shiftLeft_eq, Nat.shiftLeft_eq]
    ring
  rw [digits.units, digits.units_succ] at *
  rw [middle]
  have dropped : (numerator * unitsInOne / denominator).log2 - 52 = shift :=
    digits.droppedDigits_eq ((Nat.le_div_iff_mul_le positive).mpr above)
      ((Nat.div_lt_iff_lt_mul positive).mpr below)
  rw [regroup] at above below
  have rounded := roundHalfEven_eq above below
  have whole := digits.whole
  have early : magnitude ≤ infinityMagnitude := Nat.le_of_lt bounded
  have late : magnitude + 1 ≤ infinityMagnitude := bounded
  simp only [nearest, dropped, rounded, digits.mod_two]
  -- Both sides make the same three cases.
  by_cases before : 2 * (numerator * unitsInOne) < (2 * significand + 1) * (denominator <<< shift)
  · rw [if_pos before, if_pos before, ← whole, Nat.min_eq_left early]
  · by_cases behind : (2 * significand + 1) * (denominator <<< shift) <
        2 * (numerator * unitsInOne)
    · rw [if_neg before, if_neg before, if_pos behind, if_pos behind, ← Nat.add_assoc, ← whole,
        Nat.min_eq_left late]
    · have toEven : magnitude + significand % 2 ≤ infinityMagnitude :=
        Nat.le_trans (Nat.add_le_add_left (Nat.lt_succ_iff.mp (Nat.mod_lt _ Nat.two_pos)) _) late
      rw [if_neg before, if_neg before, if_neg behind, if_neg behind, ← Nat.add_assoc, ← whole,
        Nat.min_eq_left toEven]

/-- What lies between the middles to the neighbours of a double goes to that double, the middles
included if it is even. -/
theorem nearest_of_between {numerator denominator magnitude : Nat} (positive : 0 < denominator)
    (notZero : 0 < magnitude) (bounded : magnitude < infinityMagnitude)
    (above : (unitsOf (magnitude - 1) + unitsOf magnitude) * denominator ≤
      2 * (numerator * unitsInOne))
    (below : 2 * (numerator * unitsInOne) ≤
      (unitsOf magnitude + unitsOf (magnitude + 1)) * denominator)
    (inside : magnitude % 2 = 1 →
      (unitsOf (magnitude - 1) + unitsOf magnitude) * denominator <
          2 * (numerator * unitsInOne) ∧
        2 * (numerator * unitsInOne) <
          (unitsOf magnitude + unitsOf (magnitude + 1)) * denominator) :
    nearest numerator denominator = magnitude := by
  obtain ⟨previous, rfl⟩ := Nat.exists_eq_succ_of_ne_zero (Nat.ne_of_gt notZero)
  rw [Nat.succ_eq_add_one, Nat.add_sub_cancel] at *
  have less := Nat.mul_le_mul_right denominator (unitsOf_mono (Nat.le_succ previous))
  have more := Nat.mul_le_mul_right denominator (unitsOf_mono (Nat.le_succ (previous + 1)))
  rw [Nat.succ_eq_add_one] at less more
  rw [Nat.add_mul] at above below inside
  rw [Nat.add_mul] at inside
  rcases Nat.lt_or_ge (numerator * unitsInOne) (unitsOf (previous + 1) * denominator) with
    early | late
  · rw [nearest_eq positive (Nat.lt_of_succ_lt bounded) (by omega) early, Nat.add_mul]
    split
    · omega
    · split <;> omega
  · rcases Nat.lt_or_ge (numerator * unitsInOne) (unitsOf (previous + 1 + 1) * denominator) with
      early | later
    · rw [nearest_eq positive bounded late early, Nat.add_mul]
      split
      · rfl
      · split <;> omega
    · have beyond := Nat.mul_lt_mul_of_pos_right (unitsOf_lt_succ (previous + 1)) positive
      omega

/-- A double is the one nearest to itself. -/
theorem nearest_unitsOf {magnitude : Nat} (bounded : magnitude < infinityMagnitude) :
    nearest (unitsOf magnitude) unitsInOne = magnitude := by
  have below := Nat.mul_lt_mul_of_pos_right (unitsOf_lt_succ magnitude) unitsInOne_pos
  have early : 2 * (unitsOf magnitude * unitsInOne) <
      (unitsOf magnitude + unitsOf (magnitude + 1)) * unitsInOne := by
    rw [Nat.add_mul]
    omega
  rw [nearest_eq unitsInOne_pos bounded (Nat.le_refl _) below, if_pos early]

/-- Dividing by what is not less than one makes nothing greater. -/
theorem magnitude_div_le (isFinite : x.isFinite = true) (otherIsFinite : y.isFinite = true)
    (large : unitsInOne ≤ y.units) : (x.div y).magnitude ≤ x.magnitude := by
  have positive : 0 < y.units := Nat.lt_of_lt_of_le unitsInOne_pos large
  have finite : x.magnitude < infinityMagnitude := of_decide_eq_true isFinite
  rw [magnitude_div isFinite otherIsFinite (isZero_of_units_pos positive)]
  calc nearest x.units y.units
      ≤ nearest x.units unitsInOne :=
        nearest_le_of_mul_le positive unitsInOne_pos (Nat.mul_le_mul_left _ large)
    _ = x.magnitude := nearest_unitsOf finite

end Telemetry.Binary64
