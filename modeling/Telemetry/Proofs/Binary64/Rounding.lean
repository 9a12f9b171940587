import Telemetry.Binary64.Basic

namespace Telemetry.Binary64

/-! Rounding keeps the order: of two quotients with one denominator, the greater has no lesser
double nearest to it. -/

variable {x y : Binary64}

theorem div_le_roundHalfEven (numerator denominator : Nat) :
    numerator / denominator ≤ roundHalfEven numerator denominator := by
  simp only [roundHalfEven]
  split <;> (try split) <;> omega

theorem roundHalfEven_le (numerator denominator : Nat) :
    roundHalfEven numerator denominator ≤ numerator / denominator + 1 := by
  simp only [roundHalfEven]
  split <;> (try split) <;> omega

theorem roundHalfEven_mono {numerator other : Nat} (le : numerator ≤ other) (denominator : Nat) :
    roundHalfEven numerator denominator ≤ roundHalfEven other denominator := by
  rcases Nat.lt_or_eq_of_le (Nat.div_le_div_right le : numerator / denominator ≤ _) with
    less | same
  · calc roundHalfEven numerator denominator
        ≤ numerator / denominator + 1 := roundHalfEven_le _ _
      _ ≤ other / denominator := less
      _ ≤ roundHalfEven other denominator := div_le_roundHalfEven _ _
  · have wholes := Nat.div_add_mod numerator denominator
    have otherWholes := Nat.div_add_mod other denominator
    have remainders : numerator % denominator ≤ other % denominator := by
      rw [same] at wholes
      omega
    simp only [roundHalfEven, same]
    split <;> split <;> (try split) <;> (try split) <;> omega

/-- How many binary digits of a quotient fall away. -/
def droppedDigits (quotient : Nat) : Nat := quotient.log2 - 52

theorem droppedDigits_mono {quotient other : Nat} (le : quotient ≤ other) :
    droppedDigits quotient ≤ droppedDigits other := by
  have logarithms : quotient.log2 ≤ other.log2 := by
    by_cases none : quotient = 0
    · rw [none]
      exact Nat.zero_le _
    · exact (Nat.le_log2 (by omega)).mpr (Nat.le_trans (Nat.log2_self_le none) le)
  unfold droppedDigits
  omega

theorem div_shiftLeft (numerator denominator shift : Nat) :
    numerator / (denominator <<< shift) = (numerator / denominator) >>> shift := by
  rw [Nat.shiftLeft_eq, Nat.shiftRight_eq_div_pow, Nat.div_div_eq_div_mul]

theorem roundHalfEven_dropped_le (scaled denominator : Nat) :
    roundHalfEven scaled (denominator <<< droppedDigits (scaled / denominator)) ≤
      2 * leastNormal := by
  have below : scaled / denominator / 2 ^ droppedDigits (scaled / denominator) <
      2 * leastNormal := by
    rw [Nat.div_lt_iff_lt_mul (Nat.two_pow_pos _)]
    calc scaled / denominator
        < 2 ^ ((scaled / denominator).log2 + 1) := Nat.lt_log2_self
      _ ≤ 2 ^ (53 + droppedDigits (scaled / denominator)) := by
          refine Nat.pow_le_pow_right (by decide) ?_
          unfold droppedDigits
          omega
      _ = 2 * leastNormal * 2 ^ droppedDigits (scaled / denominator) := Nat.pow_add 2 53 _
  have rounded := roundHalfEven_le scaled (denominator <<< droppedDigits (scaled / denominator))
  rw [div_shiftLeft, Nat.shiftRight_eq_div_pow] at rounded
  omega

theorem le_roundHalfEven_dropped {scaled denominator : Nat}
    (drops : 0 < droppedDigits (scaled / denominator)) :
    leastNormal ≤
      roundHalfEven scaled (denominator <<< droppedDigits (scaled / denominator)) := by
  have logarithm : (scaled / denominator).log2 =
      52 + droppedDigits (scaled / denominator) := by
    unfold droppedDigits at drops ⊢
    omega
  have positive : scaled / denominator ≠ 0 := by
    intro none
    rw [none] at drops
    exact absurd drops (by decide)
  refine Nat.le_trans ?_ (div_le_roundHalfEven _ _)
  rw [div_shiftLeft, Nat.shiftRight_eq_div_pow, Nat.le_div_iff_mul_le (Nat.two_pow_pos _)]
  calc leastNormal * 2 ^ droppedDigits (scaled / denominator)
      = 2 ^ (52 + droppedDigits (scaled / denominator)) := (Nat.pow_add 2 52 _).symm
    _ = 2 ^ (scaled / denominator).log2 := by rw [logarithm]
    _ ≤ scaled / denominator := Nat.log2_self_le positive

theorem nearest_mono {numerator other : Nat} (le : numerator ≤ other) (denominator : Nat) :
    nearest numerator denominator ≤ nearest other denominator := by
  have scaledLe : numerator * unitsInOne ≤ other * unitsInOne := Nat.mul_le_mul_right _ le
  generalize scaledIs : numerator * unitsInOne = scaled at scaledLe
  generalize otherScaledIs : other * unitsInOne = otherScaled at scaledLe
  have dropped : droppedDigits (scaled / denominator) ≤ droppedDigits (otherScaled / denominator) :=
    droppedDigits_mono (Nat.div_le_div_right scaledLe)
  have unbounded :
      droppedDigits (scaled / denominator) * leastNormal +
          roundHalfEven scaled (denominator <<< droppedDigits (scaled / denominator)) ≤
        droppedDigits (otherScaled / denominator) * leastNormal +
          roundHalfEven otherScaled
            (denominator <<< droppedDigits (otherScaled / denominator)) := by
    rcases Nat.lt_or_eq_of_le dropped with less | same
    -- Where more digits fall away, the number without them still has all its digits.
    · have small := roundHalfEven_dropped_le scaled denominator
      have large := le_roundHalfEven_dropped (Nat.zero_lt_of_lt less)
      have steps := Nat.mul_le_mul_right leastNormal (Nat.succ_le_of_lt less)
      rw [Nat.succ_mul] at steps
      omega
    · rw [same]
      exact Nat.add_le_add_left (roundHalfEven_mono scaledLe _) _
  unfold nearest
  rw [scaledIs, otherScaledIs]
  exact Nat.le_min.mpr ⟨Nat.le_trans (Nat.min_le_left _ _) unbounded, Nat.min_le_right _ _⟩

theorem nearest_le (numerator denominator : Nat) :
    nearest numerator denominator ≤ infinityMagnitude :=
  Nat.min_le_right _ _

theorem roundHalfEven_mul_right (numerator denominator : Nat) {factor : Nat}
    (positive : 0 < factor) :
    roundHalfEven (numerator * factor) (denominator * factor) =
      roundHalfEven numerator denominator := by
  simp only [roundHalfEven, Nat.mul_div_mul_right _ _ positive, Nat.mul_mod_mul_right,
    ← Nat.mul_assoc, Nat.mul_lt_mul_right positive]

/-- Only the quotient counts, not how it is written. -/
theorem nearest_mul_right (numerator denominator : Nat) {factor : Nat} (positive : 0 < factor) :
    nearest (numerator * factor) (denominator * factor) = nearest numerator denominator := by
  have scaled : numerator * factor * unitsInOne = numerator * unitsInOne * factor :=
    Nat.mul_right_comm _ _ _
  have shifted : ∀ shift, (denominator * factor) <<< shift = denominator <<< shift * factor := by
    intro shift
    rw [Nat.shiftLeft_eq, Nat.shiftLeft_eq, Nat.mul_right_comm]
  simp only [nearest, scaled, shifted, Nat.mul_div_mul_right _ _ positive,
    roundHalfEven_mul_right _ _ positive]

theorem nearest_le_of_mul_le {numerator denominator other otherDenominator : Nat}
    (positive : 0 < denominator) (otherPositive : 0 < otherDenominator)
    (le : numerator * otherDenominator ≤ other * denominator) :
    nearest numerator denominator ≤ nearest other otherDenominator := by
  rw [← nearest_mul_right numerator denominator otherPositive,
    ← nearest_mul_right other otherDenominator positive, Nat.mul_comm otherDenominator]
  exact nearest_mono le _

theorem unitsInOne_pos : 0 < unitsInOne := Nat.pos_of_ne_zero (by decide)

theorem unitsOf_lt (magnitude : Nat) :
    unitsOf magnitude < leastNormal <<< (magnitude / leastNormal) := by
  have fraction : magnitude % leastNormal < leastNormal := Nat.mod_lt _ (by decide)
  simp only [unitsOf, Nat.shiftLeft_eq]
  split
  · next subnormal =>
      rw [subnormal, Nat.pow_zero, Nat.mul_one]
      exact fraction
  · next normal =>
      obtain ⟨exponent, isExponent⟩ := Nat.exists_eq_succ_of_ne_zero normal
      rw [isExponent, Nat.succ_eq_add_one, Nat.add_sub_cancel, Nat.pow_succ, Nat.mul_comm _ 2,
        ← Nat.mul_assoc]
      exact Nat.mul_lt_mul_of_pos_right (by omega) (Nat.two_pow_pos _)

theorem le_unitsOf {magnitude : Nat} (normal : magnitude / leastNormal ≠ 0) :
    leastNormal <<< (magnitude / leastNormal - 1) ≤ unitsOf magnitude := by
  simp only [unitsOf, if_neg normal, Nat.shiftLeft_eq]
  exact Nat.mul_le_mul_right _ (Nat.le_add_right _ _)

theorem unitsOf_mono {magnitude other : Nat} (le : magnitude ≤ other) :
    unitsOf magnitude ≤ unitsOf other := by
  rcases Nat.lt_or_eq_of_le (Nat.div_le_div_right le : magnitude / leastNormal ≤ _) with
    less | same
  · have normal : other / leastNormal ≠ 0 := Nat.ne_zero_of_lt less
    calc unitsOf magnitude
        ≤ leastNormal <<< (magnitude / leastNormal) := Nat.le_of_lt (unitsOf_lt magnitude)
      _ ≤ leastNormal <<< (other / leastNormal - 1) := by
          rw [Nat.shiftLeft_eq, Nat.shiftLeft_eq]
          exact Nat.mul_le_mul_left _ (Nat.pow_le_pow_right (by decide) (by omega))
      _ ≤ unitsOf other := le_unitsOf normal
  · have wholes := Nat.div_add_mod magnitude leastNormal
    have otherWholes := Nat.div_add_mod other leastNormal
    have fractions : magnitude % leastNormal ≤ other % leastNormal := by
      rw [same] at wholes
      omega
    simp only [unitsOf, same]
    split
    · exact fractions
    · simp only [Nat.shiftLeft_eq]
      exact Nat.mul_le_mul_right _ (Nat.add_le_add_left fractions _)

theorem unitsOf_pos {magnitude : Nat} (positive : 0 < magnitude) : 0 < unitsOf magnitude := by
  by_cases normal : magnitude / leastNormal = 0
  · have small : magnitude < leastNormal := by
      rcases Nat.div_eq_zero_iff.mp normal with none | small
      · exact absurd none (by decide)
      · exact small
    rw [unitsOf, if_pos normal, Nat.mod_eq_of_lt small]
    exact positive
  · refine Nat.lt_of_lt_of_le ?_ (le_unitsOf normal)
    rw [Nat.shiftLeft_eq]
    exact Nat.mul_pos (by decide) (Nat.two_pow_pos _)

theorem magnitude_ofMagnitude (negative : Bool) {magnitude : Nat}
    (bounded : magnitude < 0x8000000000000000) :
    (ofMagnitude negative magnitude).magnitude = magnitude := by
  have shown : (ofMagnitude negative magnitude).magnitude =
      (magnitude + if negative then 0x8000000000000000 else 0) % 0x10000000000000000 %
        0x8000000000000000 := rfl
  rw [shown]
  cases negative with
  | false => simp only [Bool.false_eq_true, if_false]; omega
  | true => simp only [if_true]; omega

theorem isFinite_neg (x : Binary64) : x.neg.isFinite = x.isFinite := by
  have bounded : x.magnitude < 0x8000000000000000 := Nat.mod_lt _ (by decide)
  rw [isFinite, neg, magnitude_ofMagnitude _ bounded, isFinite]

@[simp] theorem magnitude_ofRatio (negative : Bool) (numerator denominator : Nat) :
    (ofRatio negative numerator denominator).magnitude = nearest numerator denominator := by
  have bounded := nearest_le numerator denominator
  exact magnitude_ofMagnitude negative (Nat.lt_of_le_of_lt bounded (by decide))

theorem isNaN_of_isFinite (finite : x.isFinite = true) : x.isNaN = false := by
  have bounded : x.magnitude < infinityMagnitude := of_decide_eq_true finite
  exact decide_eq_false (by omega)

theorem isInfinite_of_isFinite (finite : x.isFinite = true) : x.isInfinite = false := by
  have bounded : x.magnitude < infinityMagnitude := of_decide_eq_true finite
  exact decide_eq_false (by omega)

theorem isZero_of_units_pos (positive : 0 < x.units) : x.isZero = false := by
  refine decide_eq_false fun zero => ?_
  rw [units, zero] at positive
  exact absurd positive (by decide)

theorem mul_eq (isFinite : x.isFinite = true) (otherIsFinite : y.isFinite = true) :
    x.mul y = ofRatio (x.negative != y.negative) (x.units * y.units) (unitsInOne * unitsInOne) := by
  unfold mul
  simp only [isNaN_of_isFinite isFinite, isNaN_of_isFinite otherIsFinite,
    isInfinite_of_isFinite isFinite, isInfinite_of_isFinite otherIsFinite, Bool.false_and,
    Bool.and_false, Bool.or_false, Bool.false_eq_true, if_false]

theorem magnitude_mul (isFinite : x.isFinite = true) (otherIsFinite : y.isFinite = true) :
    (x.mul y).magnitude = nearest (x.units * y.units) (unitsInOne * unitsInOne) := by
  rw [mul_eq isFinite otherIsFinite, magnitude_ofRatio]

theorem div_eq (isFinite : x.isFinite = true) (otherIsFinite : y.isFinite = true)
    (notZero : y.isZero = false) :
    x.div y = ofRatio (x.negative != y.negative) x.units y.units := by
  unfold div
  simp only [isNaN_of_isFinite isFinite, isNaN_of_isFinite otherIsFinite,
    isInfinite_of_isFinite isFinite, isInfinite_of_isFinite otherIsFinite, notZero, Bool.and_false,
    Bool.or_false, Bool.false_eq_true, if_false]

theorem magnitude_div (isFinite : x.isFinite = true) (otherIsFinite : y.isFinite = true)
    (notZero : y.isZero = false) : (x.div y).magnitude = nearest x.units y.units := by
  rw [div_eq isFinite otherIsFinite notZero, magnitude_ofRatio]

end Telemetry.Binary64
