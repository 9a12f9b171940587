import Mathlib.Algebra.Order.Field.Rat
import Mathlib.Order.Monotone.Basic
import Mathlib.Tactic.FieldSimp
import Mathlib.Tactic.GCongr
import Mathlib.Tactic.Linarith
import Mathlib.Tactic.Positivity
import Telemetry.Proofs.Binary64.Nearest

namespace Telemetry.Binary64

/-! How far rounding goes. A number with all its digits is rounded by one part in `2 ^ 53` at most,
and the next double is at least as much greater; so each rounding on the way to a result moves it by
one double at most. -/

/-- What rounding may leave of a number, in parts of the whole. -/
def rounded : Rat := (2 * leastNormal - 1 : Nat) / (2 * leastNormal : Nat)

theorem rounded_pos : 0 < rounded := by
  have positive : 0 < 2 * leastNormal - 1 := by decide
  have whole : 0 < 2 * leastNormal := by decide
  exact div_pos (Nat.cast_pos.mpr positive) (Nat.cast_pos.mpr whole)

theorem rounded_mul_le {x y : Rat} :
    rounded * x ≤ y ↔ (2 * leastNormal - 1 : Nat) * x ≤ (2 * leastNormal : Nat) * y := by
  have whole : (0 : Rat) < (2 * leastNormal : Nat) := Nat.cast_pos.mpr (by decide)
  rw [rounded, div_mul_eq_mul_div, div_le_iff₀' whole]

theorem le_rounded_mul {x y : Rat} :
    x ≤ rounded * y ↔ (2 * leastNormal : Nat) * x ≤ (2 * leastNormal - 1 : Nat) * y := by
  have whole : (0 : Rat) < (2 * leastNormal : Nat) := Nat.cast_pos.mpr (by decide)
  rw [rounded, div_mul_eq_mul_div, le_div_iff₀' whole]

/-- Two numbers that so many roundings may lead from one to the other. -/
structure Close (steps : Nat) (x y : Rat) : Prop where
  below : rounded ^ steps * x ≤ y
  above : rounded ^ steps * y ≤ x

namespace Close

variable {steps more : Nat} {x y z w : Rat}

theorem symm (close : Close steps x y) : Close steps y x := ⟨close.above, close.below⟩

theorem trans (close : Close steps x y) (next : Close more y z) : Close (steps + more) x z where
  below := by
    calc rounded ^ (steps + more) * x
        = rounded ^ more * (rounded ^ steps * x) := by rw [pow_add]; ring
      _ ≤ rounded ^ more * y :=
          mul_le_mul_of_nonneg_left close.below (pow_nonneg rounded_pos.le _)
      _ ≤ z := next.below
  above := by
    calc rounded ^ (steps + more) * z
        = rounded ^ steps * (rounded ^ more * z) := by rw [pow_add]; ring
      _ ≤ rounded ^ steps * y :=
          mul_le_mul_of_nonneg_left next.above (pow_nonneg rounded_pos.le _)
      _ ≤ x := close.above

theorem mul (close : Close steps x y) (other : Close more z w) (positive : 0 ≤ x)
    (isPositive : 0 ≤ y) (otherPositive : 0 ≤ z) (isOtherPositive : 0 ≤ w) :
    Close (steps + more) (x * z) (y * w) where
  below := by
    have power : 0 ≤ rounded ^ more := pow_nonneg rounded_pos.le _
    calc rounded ^ (steps + more) * (x * z)
        = rounded ^ steps * x * (rounded ^ more * z) := by rw [pow_add]; ring
      _ ≤ y * w := mul_le_mul close.below other.below (mul_nonneg power otherPositive) isPositive
  above := by
    have power : 0 ≤ rounded ^ more := pow_nonneg rounded_pos.le _
    calc rounded ^ (steps + more) * (y * w)
        = rounded ^ steps * y * (rounded ^ more * w) := by rw [pow_add]; ring
      _ ≤ x * z := mul_le_mul close.above other.above (mul_nonneg power isOtherPositive) positive

theorem mul_right (close : Close steps x y) (positive : 0 ≤ z) : Close steps (x * z) (y * z) where
  below := by
    rw [← mul_assoc]
    exact mul_le_mul_of_nonneg_right close.below positive
  above := by
    rw [← mul_assoc]
    exact mul_le_mul_of_nonneg_right close.above positive

theorem inv (close : Close steps x y) (positive : 0 < x) (isPositive : 0 < y) :
    Close steps x⁻¹ y⁻¹ where
  below := by
    rw [← div_eq_mul_inv, div_le_iff₀ positive, ← div_eq_inv_mul, le_div_iff₀ isPositive]
    exact close.above
  above := by
    rw [← div_eq_mul_inv, div_le_iff₀ isPositive, ← div_eq_inv_mul, le_div_iff₀ positive]
    exact close.below

theorem div (close : Close steps x y) (other : Close more z w) (positive : 0 ≤ x)
    (isPositive : 0 ≤ y) (otherPositive : 0 < z) (isOtherPositive : 0 < w) :
    Close (steps + more) (x / z) (y / w) := by
  rw [div_eq_mul_inv, div_eq_mul_inv]
  exact close.mul (other.inv otherPositive isOtherPositive) positive isPositive
    (inv_nonneg.mpr otherPositive.le) (inv_nonneg.mpr isOtherPositive.le)

end Close

/-- The number that the low bits of a double stand for. -/
def value (magnitude : Nat) : Rat := unitsOf magnitude / unitsInOne

theorem unitsInOne_pos' : (0 : Rat) < unitsInOne := Nat.cast_pos.mpr unitsInOne_pos

theorem value_nonneg (magnitude : Nat) : 0 ≤ value magnitude :=
  div_nonneg (Nat.cast_nonneg _) (Nat.cast_nonneg _)

theorem units_le_rounded (magnitude : Nat) :
    2 * leastNormal * unitsOf magnitude ≤ (2 * leastNormal - 1) * unitsOf (magnitude + 1) := by
  obtain ⟨significand, shift, digits⟩ := exists_digits magnitude
  rw [digits.units, digits.units_succ, Nat.shiftLeft_eq, Nat.shiftLeft_eq, ← Nat.mul_assoc,
    ← Nat.mul_assoc]
  refine Nat.mul_le_mul_right _ ?_
  have below := digits.below
  rw [leastNormal] at below ⊢
  omega

theorem value_le_rounded (magnitude steps : Nat) :
    value magnitude ≤ rounded ^ steps * value (magnitude + steps) := by
  induction steps with
  | zero => simp
  | succ steps induction =>
      have one : value (magnitude + steps) ≤ rounded * value (magnitude + steps + 1) := by
        rw [le_rounded_mul, value, value, ← mul_div_assoc, ← mul_div_assoc,
          div_le_div_iff_of_pos_right unitsInOne_pos']
        exact_mod_cast units_le_rounded (magnitude + steps)
      calc value magnitude
          ≤ rounded ^ steps * value (magnitude + steps) := induction
        _ ≤ rounded ^ steps * (rounded * value (magnitude + steps + 1)) :=
            mul_le_mul_of_nonneg_left one (pow_nonneg rounded_pos.le _)
        _ = rounded ^ (steps + 1) * value (magnitude + (steps + 1)) := by
            rw [pow_succ, mul_assoc]
            rfl

theorem strictMono_unitsOf : StrictMono unitsOf := strictMono_nat_of_lt_succ unitsOf_lt_succ

theorem exists_unitsOf_le (quotient : Nat) :
    ∃ magnitude, unitsOf magnitude ≤ quotient ∧ quotient < unitsOf (magnitude + 1) := by
  have last : quotient < unitsOf (quotient + 1) :=
    (Nat.lt_succ_self quotient).trans_le strictMono_unitsOf.le_apply
  generalize quotient + 1 = bound at last
  induction bound with
  | zero => exact absurd last (Nat.not_lt_zero _)
  | succ bound induction =>
      by_cases below : quotient < unitsOf bound
      · exact induction below
      · exact ⟨bound, not_lt.mp below, last⟩

/-- Infinity is as far from the greatest double as the next one would be. -/
theorem nearest_unitsOf_of_le {magnitude : Nat} (bounded : magnitude ≤ infinityMagnitude) :
    nearest (unitsOf magnitude) unitsInOne = magnitude := by
  rcases Nat.lt_or_eq_of_le bounded with finite | rfl
  · exact nearest_unitsOf finite
  · decide +kernel

section Nearest

variable {numerator denominator : Nat}

theorem le_nearest {magnitude : Nat} (positive : 0 < denominator)
    (bounded : magnitude ≤ infinityMagnitude)
    (le : unitsOf magnitude * denominator ≤ numerator * unitsInOne) :
    magnitude ≤ nearest numerator denominator := by
  rw [← nearest_unitsOf_of_le bounded]
  exact nearest_le_of_mul_le unitsInOne_pos positive le

theorem nearest_le_magnitude {magnitude : Nat} (positive : 0 < denominator)
    (le : numerator * unitsInOne ≤ unitsOf magnitude * denominator) :
    nearest numerator denominator ≤ magnitude := by
  rcases Nat.lt_or_ge magnitude infinityMagnitude with finite | large
  · rw [← nearest_unitsOf finite]
    exact nearest_le_of_mul_le positive unitsInOne_pos le
  · exact (nearest_le _ _).trans large

/-- A quotient goes to one of the two doubles around it, and not to the farther one. -/
theorem exists_neighbours (positive : 0 < denominator)
    (finite : nearest numerator denominator < infinityMagnitude) :
    ∃ magnitude, unitsOf magnitude * denominator ≤ numerator * unitsInOne ∧
      numerator * unitsInOne < unitsOf (magnitude + 1) * denominator ∧
      (nearest numerator denominator = magnitude ∧ 2 * (numerator * unitsInOne) ≤
          (unitsOf magnitude + unitsOf (magnitude + 1)) * denominator ∨
        nearest numerator denominator = magnitude + 1 ∧
          (unitsOf magnitude + unitsOf (magnitude + 1)) * denominator ≤
            2 * (numerator * unitsInOne)) := by
  obtain ⟨magnitude, above, below⟩ := exists_unitsOf_le (numerator * unitsInOne / denominator)
  rw [Nat.le_div_iff_mul_le positive] at above
  rw [Nat.div_lt_iff_lt_mul positive] at below
  have bounded : magnitude < infinityMagnitude := by
    by_contra large
    have infinite := le_nearest positive (Nat.le_refl infinityMagnitude)
      ((Nat.mul_le_mul_right denominator (unitsOf_mono (not_lt.mp large))).trans above)
    omega
  have rounds := nearest_eq positive bounded above below
  refine ⟨magnitude, above, below, ?_⟩
  split at rounds
  · next early => exact .inl ⟨rounds, early.le⟩
  · next late =>
      split at rounds
      · next later => exact .inr ⟨rounds, later.le⟩
      · next early =>
          rcases Nat.mod_two_eq_zero_or_one magnitude with even | odd
          · exact .inl ⟨by rw [rounds, even, Nat.add_zero], not_lt.mp early⟩
          · exact .inr ⟨by rw [rounds, odd], not_lt.mp late⟩

theorem close_nearest (positive : 0 < denominator)
    (finite : nearest numerator denominator < infinityMagnitude)
    (normal : leastNormal * denominator ≤ numerator * unitsInOne) :
    Close 1 (numerator / denominator) (value (nearest numerator denominator)) := by
  obtain ⟨magnitude, above, below, rounds⟩ := exists_neighbours positive finite
  obtain ⟨significand, shift, digits⟩ := exists_digits magnitude
  have units := digits.units
  have next := digits.units_succ
  rw [Nat.shiftLeft_eq] at units next
  have large : leastNormal ≤ significand := by
    rcases digits.normal with unshifted | large
    · rw [next, unshifted, Nat.pow_zero, Nat.mul_one] at below
      exact Nat.lt_succ_iff.mp (lt_of_mul_lt_mul_right (normal.trans_lt below) (Nat.zero_le _))
    · exact large
  -- All that is compared is a multiple of the last digit, `step`, or of the quotient.
  generalize isStep : 2 ^ shift * denominator = step
  have lower : unitsOf magnitude * denominator = significand * step := by
    rw [units, mul_assoc, isStep]
  have upper : unitsOf (magnitude + 1) * denominator = significand * step + step := by
    rw [next, mul_assoc, isStep, Nat.succ_mul]
  have many := Nat.mul_le_mul_right step large
  have exact : (2 * leastNormal - 1) * (numerator * unitsInOne) ≤
        2 * leastNormal * (unitsOf (nearest numerator denominator) * denominator) ∧
      (2 * leastNormal - 1) * (unitsOf (nearest numerator denominator) * denominator) ≤
        2 * leastNormal * (numerator * unitsInOne) := by
    rw [Nat.add_mul, lower, upper] at rounds
    rw [lower] at above
    rw [upper] at below
    simp only [leastNormal] at many ⊢
    rcases rounds with ⟨rounds, half⟩ | ⟨rounds, half⟩
    · rw [rounds, lower]
      omega
    · rw [rounds, upper]
      omega
  have isPositive : (0 : Rat) < denominator := Nat.cast_pos.mpr positive
  constructor
  · rw [pow_one, rounded_mul_le, value, ← mul_div_assoc, ← mul_div_assoc,
      div_le_div_iff₀ isPositive unitsInOne_pos', mul_assoc, mul_assoc]
    exact_mod_cast exact.1
  · rw [pow_one, rounded_mul_le, value, ← mul_div_assoc, ← mul_div_assoc,
      div_le_div_iff₀ unitsInOne_pos' isPositive, mul_assoc, mul_assoc]
    exact_mod_cast exact.2

/-- Where so many roundings lead from one quotient to another, the doubles nearest to them have at
most as many between them. -/
theorem nearest_le_of_close {other otherDenominator steps : Nat} (positive : 0 < denominator)
    (otherPositive : 0 < otherDenominator)
    (close : Close steps (numerator / denominator) (other / otherDenominator)) :
    nearest other otherDenominator ≤ nearest numerator denominator + 1 + steps := by
  rcases Nat.lt_or_eq_of_le (nearest_le numerator denominator) with finite | infinite
  · have isPositive : (0 : Rat) < denominator := Nat.cast_pos.mpr positive
    have isOtherPositive : (0 : Rat) < otherDenominator := Nat.cast_pos.mpr otherPositive
    have beyond : (numerator / denominator : Rat) ≤ value (nearest numerator denominator + 1) := by
      rw [value, div_le_div_iff₀ isPositive unitsInOne_pos']
      have below : numerator * unitsInOne ≤
          unitsOf (nearest numerator denominator + 1) * denominator := by
        by_contra above
        have further := le_nearest positive (Nat.succ_le_of_lt finite) (not_le.mp above).le
        omega
      exact_mod_cast below
    have within : (other / otherDenominator : Rat) ≤
        value (nearest numerator denominator + 1 + steps) := by
      refine le_of_mul_le_mul_left ?_ (pow_pos rounded_pos steps)
      calc rounded ^ steps * (other / otherDenominator)
          ≤ numerator / denominator := close.above
        _ ≤ value (nearest numerator denominator + 1) := beyond
        _ ≤ rounded ^ steps * value (nearest numerator denominator + 1 + steps) :=
            value_le_rounded _ steps
    refine nearest_le_magnitude otherPositive ?_
    rw [value, div_le_div_iff₀ isOtherPositive unitsInOne_pos'] at within
    exact_mod_cast within
  · rw [infinite]
    have bound := nearest_le other otherDenominator
    omega

end Nearest

end Telemetry.Binary64
