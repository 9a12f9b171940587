import Telemetry.Proofs.Binary64.Arithmetic

namespace Telemetry.Binary64

/-! What a calculation with doubles comes to. Each operation adds a rounding to those of its
operands, as long as no number is so great or so small that digits are lost. -/

theorem rounded_le_one : rounded ≤ 1 := by
  rw [rounded, div_le_one (Nat.cast_pos.mpr (by decide))]
  exact Nat.cast_le.mpr (by decide)

theorem half_le_rounded_pow {steps : Nat} (few : steps ≤ 8) : 1 / 2 ≤ rounded ^ steps := by
  have least : (1 / 2 : Rat) ≤ rounded ^ 8 := by norm_num [rounded, leastNormal]
  exact least.trans (pow_le_pow_of_le_one rounded_pos.le rounded_le_one few)

/-- Zero, or neither very great nor very small. -/
def IsModerate (bits : Nat) (number : Rat) : Prop :=
  number = 0 ∨ 1 ≤ number * 2 ^ bits ∧ number ≤ 2 ^ bits

theorem isModerate_div {numerator denominator : Nat} (positive : 0 < denominator)
    (small : numerator ≤ 2 ^ 127) (divisorSmall : denominator ≤ 2 ^ 127) :
    IsModerate 127 (numerator / denominator) := by
  have isPositive : (0 : Rat) < denominator := Nat.cast_pos.mpr positive
  rcases Nat.eq_zero_or_pos numerator with rfl | some
  · exact .inl (by rw [Nat.cast_zero, zero_div])
  · refine .inr ⟨?_, ?_⟩
    · rw [div_mul_eq_mul_div, le_div_iff₀ isPositive, one_mul]
      exact_mod_cast divisorSmall.trans (Nat.le_mul_of_pos_left _ some)
    · rw [div_le_iff₀ isPositive]
      exact_mod_cast small.trans (Nat.le_mul_of_pos_right _ positive)

theorem isModerate_natCast {number : Nat} (small : number ≤ 2 ^ 127) :
    IsModerate 127 number := by
  rw [← div_one (number : Rat), ← Nat.cast_one]
  exact isModerate_div Nat.one_pos small (by decide)

theorem Close.mono {steps more : Nat} {x y : Rat} (close : Close steps x y) (le : steps ≤ more)
    (nonneg : 0 ≤ x) (alsoNonneg : 0 ≤ y) : Close more x y := by
  have shrinks : rounded ^ more ≤ rounded ^ steps :=
    pow_le_pow_of_le_one rounded_pos.le rounded_le_one le
  exact ⟨(mul_le_mul_of_nonneg_right shrinks nonneg).trans close.below,
    (mul_le_mul_of_nonneg_right shrinks alsoNonneg).trans close.above⟩

theorem Close.add {steps : Nat} {x y z w : Rat} (close : Close steps x y)
    (other : Close steps z w) : Close steps (x + z) (y + w) where
  below := by
    rw [mul_add]
    exact add_le_add close.below other.below
  above := by
    rw [mul_add]
    exact add_le_add close.above other.above

theorem close_refl (number : Rat) : Close 0 number number := ⟨by simp, by simp⟩

theorem IsModerate.of_close {bits steps : Nat} {x y : Rat} (moderate : IsModerate bits x)
    (close : Close steps x y) (few : steps ≤ 8) (nonneg : 0 ≤ y) : IsModerate (bits + 1) y := by
  have half := half_le_rounded_pow few
  have above : y ≤ 2 * x := by linarith [mul_le_mul_of_nonneg_right half nonneg, close.above]
  rcases moderate with rfl | ⟨large, small⟩
  · exact .inl (by linarith)
  · have power : (0 : Rat) < 2 ^ bits := by positivity
    have positive : 0 < x := by
      by_contra notPositive
      have := mul_nonpos_of_nonpos_of_nonneg (not_lt.mp notPositive) power.le
      linarith
    have below : x ≤ 2 * y := by
      linarith [mul_le_mul_of_nonneg_right half positive.le, close.below]
    refine .inr ⟨?_, ?_⟩
    · calc 1 ≤ x * 2 ^ bits := large
        _ ≤ 2 * y * 2 ^ bits := mul_le_mul_of_nonneg_right below power.le
        _ = y * 2 ^ (bits + 1) := by ring
    · calc y ≤ 2 * x := above
        _ ≤ 2 * 2 ^ bits := by linarith
        _ = 2 ^ (bits + 1) := by ring

theorem close_nearest_of_isModerate {numerator denominator : Nat} (positive : 0 < denominator)
    (moderate : IsModerate 128 (numerator / denominator)) :
    nearest numerator denominator < infinityMagnitude ∧
      Close 1 (numerator / denominator) (value (nearest numerator denominator)) := by
  have isPositive : (0 : Rat) < denominator := Nat.cast_pos.mpr positive
  rcases moderate with zero | ⟨large, small⟩
  · have noNumerator : numerator = 0 := by
      rcases div_eq_zero_iff.mp zero with zero | zero
      · exact Nat.cast_eq_zero.mp zero
      · exact absurd zero isPositive.ne'
    subst noNumerator
    rw [nearest_zero positive, Nat.cast_zero, zero_div]
    exact ⟨by decide, by simp [value, unitsOf], by simp [value, unitsOf]⟩
  · have finite : nearest numerator denominator < infinityMagnitude := by
      have bounded : numerator * 1 ≤ 2 ^ 128 * denominator := by
        rw [div_le_iff₀ isPositive] at small
        rw [Nat.mul_one]
        exact_mod_cast small
      exact Nat.lt_of_le_of_lt (nearest_le_of_mul_le positive Nat.one_pos bounded)
        (by decide +kernel)
    have normal : leastNormal * denominator ≤ numerator * unitsInOne := by
      have bounded : denominator ≤ numerator * 2 ^ 128 := by
        rw [div_mul_eq_mul_div, le_div_iff₀ isPositive, one_mul] at large
        exact_mod_cast large
      calc leastNormal * denominator
          ≤ leastNormal * (numerator * 2 ^ 128) := Nat.mul_le_mul_left _ bounded
        _ = numerator * (leastNormal * 2 ^ 128) := by ring
        _ ≤ numerator * unitsInOne := Nat.mul_le_mul_left _ (by decide +kernel)
    exact ⟨finite, close_nearest positive finite normal⟩

/-- A double that so many roundings lead to from a number. -/
structure Approximates (steps : Nat) (number : Rat) (x : Binary64) : Prop where
  nonneg : x.negative = false
  finite : x.isFinite = true
  close : Close steps number (value x.magnitude)

theorem approximates_ofRatio {steps numerator denominator : Nat} {number : Rat}
    (positive : 0 < denominator) (moderate : IsModerate 127 number) (few : steps ≤ 8)
    (close : Close steps number (numerator / denominator)) :
    Approximates (steps + 1) number (ofRatio false numerator denominator) := by
  obtain ⟨finite, near⟩ := close_nearest_of_isModerate positive
    (moderate.of_close close few (div_nonneg (Nat.cast_nonneg _) (Nat.cast_nonneg _)))
  refine ⟨negative_ofRatio _ _ _, ?_, ?_⟩
  · rw [isFinite, magnitude_ofRatio]
    exact decide_eq_true finite
  · rw [magnitude_ofRatio]
    exact close.trans near

theorem approximates_ofNat {number : Nat} (moderate : IsModerate 127 number) :
    Approximates 1 number (ofNat number) := by
  refine @approximates_ofRatio 0 number 1 _ Nat.one_pos moderate (Nat.zero_le _) ?_
  rw [Nat.cast_one, div_one]
  exact close_refl _

theorem approximates_ofNat_of_lt {number : Nat} (small : number < 2 * leastNormal) :
    Approximates 0 number (ofNat number) := by
  refine ⟨negative_ofRatio _ _ _, isFinite_ofNat_of_lt small, ?_⟩
  have exact : value (ofNat number).magnitude = number := by
    show ((ofNat number).units : Rat) / unitsInOne = number
    rw [units_ofNat small, Nat.cast_mul, mul_div_cancel_right₀ _ unitsInOne_pos'.ne']
  rw [exact]
  exact close_refl _

namespace Approximates

variable {steps more : Nat} {number other : Rat} {x y : Binary64}

theorem mono (approximates : Approximates steps number x) (le : steps ≤ more)
    (nonneg : 0 ≤ number) : Approximates more number x :=
  ⟨approximates.nonneg, approximates.finite, approximates.close.mono le nonneg (value_nonneg _)⟩

theorem value_pos (approximates : Approximates steps number x) (positive : 0 < number) :
    0 < value x.magnitude :=
  lt_of_lt_of_le (mul_pos (pow_pos rounded_pos _) positive) approximates.close.below

theorem units_pos (approximates : Approximates steps number x) (positive : 0 < number) :
    0 < x.units := by
  have isPositive := approximates.value_pos positive
  rw [value, div_pos_iff_of_pos_right unitsInOne_pos'] at isPositive
  exact_mod_cast isPositive

theorem mul (approximates : Approximates steps number x) (also : Approximates more other y)
    (nonneg : 0 ≤ number) (otherNonneg : 0 ≤ other) (moderate : IsModerate 127 (number * other))
    (few : steps + more ≤ 8) : Approximates (steps + more + 1) (number * other) (x.mul y) := by
  rw [mul_eq approximates.finite also.finite, approximates.nonneg, also.nonneg]
  refine approximates_ofRatio (Nat.mul_pos unitsInOne_pos unitsInOne_pos) moderate few ?_
  rw [value_mul]
  exact approximates.close.mul also.close nonneg (value_nonneg _) otherNonneg (value_nonneg _)

theorem div (approximates : Approximates steps number x) (also : Approximates more other y)
    (nonneg : 0 ≤ number) (otherPositive : 0 < other) (moderate : IsModerate 127 (number / other))
    (few : steps + more ≤ 8) : Approximates (steps + more + 1) (number / other) (x.div y) := by
  have units := also.units_pos otherPositive
  rw [div_eq approximates.finite also.finite (isZero_of_units_pos units), approximates.nonneg,
    also.nonneg]
  refine approximates_ofRatio units moderate few ?_
  rw [value_div]
  exact approximates.close.div also.close nonneg (value_nonneg _) otherPositive
    (also.value_pos otherPositive)

theorem add (approximates : Approximates steps number x) (also : Approximates steps other y)
    (moderate : IsModerate 127 (number + other)) (few : steps ≤ 8) :
    Approximates (steps + 1) (number + other) (x.add y) := by
  rw [add_eq approximates.finite also.finite approximates.nonneg also.nonneg]
  refine approximates_ofRatio unitsInOne_pos moderate few ?_
  rw [Nat.cast_add, add_div]
  exact approximates.close.add also.close

end Approximates

end Telemetry.Binary64
