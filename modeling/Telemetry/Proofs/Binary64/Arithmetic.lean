import Telemetry.Proofs.Binary64.Closeness

namespace Telemetry.Binary64

/-! Numbers as they are before they are rounded: the natural numbers that doubles stand for, and the
exact products and quotients of doubles. -/

variable {x y : Binary64} {number : Nat}

theorem toNat_bits (x : Binary64) :
    x.bits.toNat = x.magnitude + if x.negative then 0x8000000000000000 else 0 := by
  have bounded : x.bits.toNat < 0x10000000000000000 := x.bits.toNat_lt
  rw [magnitude, negative]
  split
  · next large => have := of_decide_eq_true large; omega
  · next small => have : ¬ _ := fun large => small (decide_eq_true large); omega

theorem eq_of_magnitude_eq (sameMagnitude : x.magnitude = y.magnitude)
    (sameSign : x.negative = y.negative) : x = y := by
  have same : x.bits.toNat = y.bits.toNat := by
    rw [toNat_bits, toNat_bits, sameMagnitude, sameSign]
  obtain ⟨bits⟩ := x
  exact congrArg mk (UInt64.toNat_inj.mp same)

theorem negative_ofMagnitude (negative : Bool) {magnitude : Nat}
    (bounded : magnitude < 0x8000000000000000) :
    (ofMagnitude negative magnitude).negative = negative := by
  have shown : (ofMagnitude negative magnitude).negative = decide (0x8000000000000000 ≤
      (magnitude + if negative then 0x8000000000000000 else 0) % 0x10000000000000000) := rfl
  rw [shown]
  cases negative with
  | false =>
      rw [if_neg Bool.false_ne_true]
      exact decide_eq_false (by omega)
  | true =>
      rw [if_pos rfl]
      exact decide_eq_true (by omega)

theorem negative_neg (x : Binary64) : x.neg.negative = !x.negative :=
  negative_ofMagnitude _ (Nat.mod_lt _ (by decide))

theorem magnitude_neg (x : Binary64) : x.neg.magnitude = x.magnitude :=
  magnitude_ofMagnitude _ (Nat.mod_lt _ (by decide))

theorem negative_ofRatio (negative : Bool) (numerator denominator : Nat) :
    (ofRatio negative numerator denominator).negative = negative :=
  negative_ofMagnitude negative (Nat.lt_of_le_of_lt (nearest_le _ _) (by decide))

theorem negative_ofNat (number : Nat) : (ofNat number).negative = false := negative_ofRatio _ _ _

/-- A number with at most fifty-three binary digits is a double. -/
theorem exists_whole (small : number < 2 * leastNormal) :
    ∃ magnitude < infinityMagnitude, unitsOf magnitude = number * unitsInOne := by
  by_cases none : number = 0
  · subst none
    exact ⟨0, by decide, rfl⟩
  · have width : number.log2 < 53 := (Nat.log2_lt none).mpr small
    obtain ⟨zeros, isZeros⟩ := Nat.exists_eq_add_of_le (Nat.le_of_lt_succ width)
    have digits : Digits ((1074 - zeros) * leastNormal + number <<< zeros) (number <<< zeros)
        (1074 - zeros) := by
      refine ⟨rfl, ?_, .inr ?_⟩
      · rw [Nat.shiftLeft_eq]
        calc number * 2 ^ zeros
            < 2 ^ (number.log2 + 1) * 2 ^ zeros :=
              Nat.mul_lt_mul_of_pos_right Nat.lt_log2_self (Nat.two_pow_pos _)
          _ = 2 ^ 53 := by rw [← Nat.pow_add]; congr 1; omega
      · rw [Nat.shiftLeft_eq]
        calc leastNormal
            = 2 ^ number.log2 * 2 ^ zeros := by rw [← Nat.pow_add, ← isZeros]; rfl
          _ ≤ number * 2 ^ zeros := Nat.mul_le_mul_right _ (Nat.log2_self_le none)
    refine ⟨_, ?_, digits.units.trans ?_⟩
    · have below := digits.below
      have least : 0 < leastNormal := by decide
      calc (1074 - zeros) * leastNormal + number <<< zeros
          < 1074 * leastNormal + 2 * leastNormal :=
            Nat.add_lt_add_of_le_of_lt (Nat.mul_le_mul_right _ (Nat.sub_le _ _)) below
        _ = 1076 * leastNormal := by ring
        _ ≤ infinityMagnitude := by decide
    · have together : zeros + (1074 - zeros) = 1074 := by omega
      have multiple : ∀ shift, number <<< shift = number * (1 <<< shift) := by
        intro shift
        rw [Nat.shiftLeft_eq, Nat.one_shiftLeft]
      rw [← Nat.shiftLeft_add, together]
      exact multiple 1074

theorem units_ofNat (small : number < 2 * leastNormal) :
    (ofNat number).units = number * unitsInOne := by
  obtain ⟨magnitude, bounded, isWhole⟩ := exists_whole small
  have rounded := nearest_mul_right number 1 unitsInOne_pos
  rw [Nat.one_mul, ← isWhole, nearest_unitsOf bounded] at rounded
  rw [units, ofNat, magnitude_ofRatio, ← rounded, isWhole]

theorem isFinite_ofNat {bound : Nat} (le : number ≤ bound)
    (finite : nearest bound 1 < infinityMagnitude) : (ofNat number).isFinite = true := by
  refine decide_eq_true ?_
  rw [ofNat, magnitude_ofRatio]
  exact Nat.lt_of_le_of_lt (nearest_mono le 1) finite

theorem isFinite_ofNat_of_lt (small : number < 2 * leastNormal) :
    (ofNat number).isFinite = true :=
  isFinite_ofNat small.le (by decide +kernel)

theorem le_units_ofNat (positive : 0 < number) :
    unitsInOne ≤ (ofNat number).units := by
  have one : unitsOf (nearest 1 1) = unitsInOne := by decide +kernel
  rw [units, ofNat, magnitude_ofRatio, ← one]
  exact unitsOf_mono (nearest_mono positive 1)

theorem isZero_ofNat (positive : 0 < number) : (ofNat number).isZero = false :=
  isZero_of_units_pos (unitsInOne_pos.trans_le (le_units_ofNat positive))

theorem close_ofNat (positive : 0 < number) (finite : (ofNat number).isFinite = true) :
    Close 1 number (value (ofNat number).magnitude) := by
  have bounded : nearest number 1 < infinityMagnitude := by
    have isFinite := of_decide_eq_true finite
    rwa [ofNat, magnitude_ofRatio] at isFinite
  have normal : leastNormal * 1 ≤ number * unitsInOne :=
    (by decide : leastNormal * 1 ≤ 1 * unitsInOne).trans (Nat.mul_le_mul_right _ positive)
  have close := close_nearest Nat.one_pos bounded normal
  rw [Nat.cast_one, div_one] at close
  rwa [ofNat, magnitude_ofRatio]

theorem value_mul (x y : Binary64) :
    ((x.units * y.units : Nat) : Rat) / ((unitsInOne * unitsInOne : Nat) : Rat) =
      value x.magnitude * value y.magnitude := by
  rw [value, value, div_mul_div_comm, Nat.cast_mul, Nat.cast_mul]
  rfl

theorem value_div (x y : Binary64) :
    (x.units : Rat) / (y.units : Rat) = value x.magnitude / value y.magnitude := by
  rw [value, value, div_div_div_cancel_right₀ unitsInOne_pos'.ne']
  rfl

theorem add_eq (finite : x.isFinite = true) (otherFinite : y.isFinite = true)
    (nonneg : x.negative = false) (otherNonneg : y.negative = false) :
    x.add y = ofRatio false (x.units + y.units) unitsInOne := by
  have total : x.signedUnits + y.signedUnits = ((x.units + y.units : Nat) : Int) := by
    rw [signedUnits, signedUnits, nonneg, otherNonneg]
    rfl
  have notNegative : ¬ ((x.units + y.units : Nat) : Int) < 0 := by omega
  unfold add
  simp only [isNaN_of_isFinite finite, isNaN_of_isFinite otherFinite, isInfinite_of_isFinite finite,
    isInfinite_of_isFinite otherFinite, total, nonneg, notNegative, Bool.or_false, Bool.false_and,
    Bool.false_eq_true, if_false, decide_false, ite_self, Int.natAbs_natCast]

theorem nearest_zero {denominator : Nat} (positive : 0 < denominator) :
    nearest 0 denominator = 0 := by
  have below : nearest 0 denominator ≤ 0 := nearest_le_magnitude positive (by simp)
  exact Nat.le_zero.mp below

/-- A number above zero, be it infinite. -/
structure IsPositive (x : Binary64) : Prop where
  nonneg : x.negative = false
  isNumber : x.isNaN = false
  notZero : x.isZero = false

theorem isNaN_ofRatio (negative : Bool) (numerator denominator : Nat) :
    (ofRatio negative numerator denominator).isNaN = false := by
  refine decide_eq_false ?_
  rw [magnitude_ofRatio]
  exact Nat.not_lt.mpr (nearest_le _ _)

theorem isPositive_ofRatio {numerator denominator : Nat} (positive : 0 < denominator)
    (large : denominator ≤ numerator * unitsInOne) :
    (ofRatio false numerator denominator).IsPositive where
  nonneg := negative_ofRatio _ _ _
  isNumber := isNaN_ofRatio _ _ _
  notZero := by
    have one : unitsOf 1 = 1 := by decide
    have least : 1 ≤ nearest numerator denominator :=
      le_nearest positive (by decide) (by rwa [one, Nat.one_mul])
    refine decide_eq_false ?_
    rw [magnitude_ofRatio]
    exact (Nat.pos_of_ne_zero (Nat.one_le_iff_ne_zero.mp least)).ne'

theorem isInfinite_of_not_isFinite (isNumber : x.isNaN = false) (infinite : x.isFinite ≠ true) :
    x.magnitude = infinityMagnitude := by
  have notAbove : ¬ infinityMagnitude < x.magnitude := of_decide_eq_false isNumber
  have notBelow : ¬ x.magnitude < infinityMagnitude := fun below => infinite (decide_eq_true below)
  omega

namespace IsPositive

theorem units_pos (positive : x.IsPositive) : 0 < x.units :=
  unitsOf_pos (Nat.pos_of_ne_zero (of_decide_eq_false positive.notZero))

theorem of_isInfinite (nonneg : x.negative = false) (infinite : x.magnitude = infinityMagnitude) :
    x.IsPositive := by
  refine ⟨nonneg, decide_eq_false ?_, decide_eq_false ?_⟩ <;> rw [infinite] <;> decide

theorem add (nonneg : x.negative = false) (isNumber : x.isNaN = false)
    (otherNonneg : y.negative = false) (otherFinite : y.isFinite = true)
    (some : 0 < x.units + y.units) : (x.add y).IsPositive := by
  by_cases finite : x.isFinite = true
  · rw [add_eq finite otherFinite nonneg otherNonneg]
    exact isPositive_ofRatio unitsInOne_pos (Nat.le_mul_of_pos_left _ some)
  · have infinite := isInfinite_of_not_isFinite isNumber finite
    have isInfinite : x.isInfinite = true := decide_eq_true infinite
    have same : x.add y = x := by
      unfold Binary64.add
      simp only [isNumber, isNaN_of_isFinite otherFinite, isInfinite,
        isInfinite_of_isFinite otherFinite, Bool.or_false, Bool.and_false, Bool.false_and,
        Bool.false_eq_true, if_false, if_true]
    rw [same]
    exact of_isInfinite nonneg infinite

theorem mul (positive : x.IsPositive) (otherNonneg : y.negative = false)
    (otherFinite : y.isFinite = true) (large : unitsInOne ≤ y.units) : (x.mul y).IsPositive := by
  by_cases finite : x.isFinite = true
  · rw [mul_eq finite otherFinite, positive.nonneg, otherNonneg]
    refine isPositive_ofRatio (Nat.mul_pos unitsInOne_pos unitsInOne_pos)
      (Nat.mul_le_mul_right _ ?_)
    exact large.trans (Nat.le_mul_of_pos_left _ positive.units_pos)
  · have infinite := isInfinite_of_not_isFinite positive.isNumber finite
    have isInfinite : x.isInfinite = true := decide_eq_true infinite
    have notZero := isZero_of_units_pos (unitsInOne_pos.trans_le large)
    have same : x.mul y = ofMagnitude false infinityMagnitude := by
      unfold Binary64.mul
      simp only [positive.isNumber, isNaN_of_isFinite otherFinite, isInfinite, notZero,
        positive.notZero, positive.nonneg, otherNonneg, isInfinite_of_isFinite otherFinite,
        Bool.or_false, Bool.and_false, Bool.false_eq_true, if_false, if_true, bne_self_eq_false]
    rw [same]
    exact of_isInfinite (by decide) (by decide)

theorem zero_div (positive : x.IsPositive) : zero.div x = zero := by
  have zeroUnits : zero.units = 0 := by decide
  by_cases finite : x.isFinite = true
  · rw [div_eq (by decide) finite positive.notZero, positive.nonneg, zeroUnits, ofRatio,
      nearest_zero positive.units_pos]
    rfl
  · have infinite := isInfinite_of_not_isFinite positive.isNumber finite
    have isInfinite : x.isInfinite = true := decide_eq_true infinite
    have isNumber : zero.isNaN = false := by decide
    have isBounded : zero.isInfinite = false := by decide
    have nonneg : zero.negative = false := by decide
    unfold div
    simp only [isNumber, isBounded, nonneg, positive.isNumber, positive.notZero, positive.nonneg,
      isInfinite, Bool.or_false, Bool.and_false, Bool.false_and, Bool.false_eq_true, if_false,
      if_true, bne_self_eq_false]
    rfl

end IsPositive

end Telemetry.Binary64
