import Telemetry.Proofs.Json.Exact

namespace Telemetry

open Telemetry

/-! A finite double that was written is read as itself or as one close by: the significand, the
power of ten and their product or quotient are each rounded once, and a quotient by a great power
twice. -/

namespace Binary64

variable {x y : Binary64} {number : Nat}

/-- The same sign, and at most four doubles between. -/
structure IsNear (x y : Binary64) : Prop where
  sign : x.negative = y.negative
  above : x.magnitude ≤ y.magnitude + 5
  below : y.magnitude ≤ x.magnitude + 5

end Binary64

namespace Json

open Binary64

variable {significand : Nat} {x y : Binary64}

theorem powerOfTen_pos (exponent : Nat) : 0 < Nat.pow 10 exponent := Nat.pow_pos (by decide)

theorem value_powerOfTen_pos (exponent : Nat) : 0 < value (powerOfTen exponent).magnitude :=
  div_pos (Nat.cast_pos.mpr (units_powerOfTen_pos exponent)) unitsInOne_pos'

theorem close_powerOfTen {exponent : Nat} (small : exponent ≤ 308) :
    Close 1 ((Nat.pow 10 exponent : Nat) : Rat) (value (powerOfTen exponent).magnitude) :=
  close_ofNat (powerOfTen_pos exponent) (isFinite_powerOfTen small)

theorem scaled_up_eq {exponent : Int} (positive : 0 < significand) (up : 0 ≤ exponent)
    (fine : scaled significand exponent = .ok y) :
    exponent.natAbs ≤ 308 ∧ y = (ofNat significand).mul (powerOfTen exponent.natAbs) := by
  rw [scaled, if_neg (not_lt.mpr up)] at fine
  dsimp only at fine
  split at fine
  · next small =>
      split at fine
      · cases fine
      · exact ⟨by omega, (Except.ok.inj fine).symm⟩
  · rw [isZero_ofNat positive] at fine
    cases fine

theorem magnitude_scaled_up {exponent : Nat} (positive : 0 < significand)
    (finite : (ofNat significand).isFinite = true) (small : exponent ≤ 308) :
    ((ofNat significand).mul (powerOfTen exponent)).magnitude ≤
        nearest (significand * Nat.pow 10 exponent) 1 + 3 ∧
      nearest (significand * Nat.pow 10 exponent) 1 ≤
        ((ofNat significand).mul (powerOfTen exponent)).magnitude + 3 := by
  have units : 0 < unitsInOne * unitsInOne := Nat.mul_pos unitsInOne_pos unitsInOne_pos
  have close : Close 2 (((significand * Nat.pow 10 exponent : Nat) : Rat) / (1 : Nat))
      ((((ofNat significand).units * (powerOfTen exponent).units : Nat) : Rat) /
        ((unitsInOne * unitsInOne : Nat) : Rat)) := by
    rw [value_mul, Nat.cast_one, div_one, Nat.cast_mul]
    exact (close_ofNat positive finite).mul (close_powerOfTen small) (Nat.cast_nonneg _)
      (value_nonneg _) (Nat.cast_nonneg _) (value_nonneg _)
  rw [magnitude_mul finite (isFinite_powerOfTen small)]
  have above := nearest_le_of_close Nat.one_pos units close
  have below := nearest_le_of_close units Nat.one_pos close.symm
  exact ⟨above, below⟩

theorem close_div_powerOfTen {steps exponent : Nat} {number : Rat} (positive : 0 ≤ number)
    (close : Close steps number (value x.magnitude)) (small : exponent ≤ 308) :
    Close (steps + 1) (number / (Nat.pow 10 exponent : Nat))
      (x.units / (powerOfTen exponent).units) := by
  rw [value_div]
  exact close.div (close_powerOfTen small) positive (value_nonneg _)
    (Nat.cast_pos.mpr (powerOfTen_pos exponent)) (value_powerOfTen_pos exponent)

theorem magnitude_div_powerOfTen (finite : x.isFinite = true) {exponent : Nat}
    (small : exponent ≤ 308) : (x.div (powerOfTen exponent)).magnitude =
      nearest x.units (powerOfTen exponent).units :=
  magnitude_div finite (isFinite_powerOfTen small) (isZero_powerOfTen exponent)

/-- A quotient by a power of ten of what stands for a number is as close to the exact one as that is
to the number, and one rounding more. -/
theorem magnitude_quotient {steps exponent more : Nat}
    (close : Close steps (significand / (Nat.pow 10 exponent : Nat)) (value x.magnitude))
    (finite : x.isFinite = true) (small : more ≤ 308) :
    (x.div (powerOfTen more)).magnitude ≤
        nearest significand (Nat.pow 10 (exponent + more)) + 1 + (steps + 1) ∧
      nearest significand (Nat.pow 10 (exponent + more)) ≤
        (x.div (powerOfTen more)).magnitude + 1 + (steps + 1) := by
  have whole : Nat.pow 10 (exponent + more) = Nat.pow 10 exponent * Nat.pow 10 more :=
    Nat.pow_add 10 exponent more
  have quotient : Close (steps + 1)
      ((significand : Rat) / ((Nat.pow 10 (exponent + more) : Nat) : Rat))
      (x.units / (powerOfTen more).units) := by
    rw [whole, Nat.cast_mul, ← div_div]
    exact close_div_powerOfTen (div_nonneg (Nat.cast_nonneg _) (Nat.cast_nonneg _)) close small
  rw [magnitude_div_powerOfTen finite small]
  exact ⟨nearest_le_of_close (powerOfTen_pos (exponent + more)) (units_powerOfTen_pos more)
      quotient,
    nearest_le_of_close (units_powerOfTen_pos more) (powerOfTen_pos (exponent + more))
      quotient.symm⟩

theorem divideByPower_of_le {exponent : Nat} (small : exponent ≤ 308) :
    divideByPower 4 x exponent = x.div (powerOfTen exponent) := by
  rw [divideByPower, if_pos small]

theorem divideByPower_of_lt {more : Nat} (notZero : x.isZero = false) (positive : 0 < more)
    (small : more ≤ 308) : divideByPower 4 x (308 + more) =
      (x.div (powerOfTen 308)).div (powerOfTen more) := by
  have rest : 308 + more - 308 = more := by omega
  rw [divideByPower, if_neg (by omega), notZero, if_neg (by decide), rest, divideByPower,
    if_pos small]

theorem magnitude_div_anti (finite : x.isFinite = true) {exponent other : Nat}
    (le : exponent ≤ other) (small : other ≤ 308) :
    (x.div (powerOfTen other)).magnitude ≤ (x.div (powerOfTen exponent)).magnitude := by
  have powers : (powerOfTen exponent).units ≤ (powerOfTen other).units := by
    refine unitsOf_mono ?_
    rw [powerOfTen, powerOfTen, ofNat, ofNat, magnitude_ofRatio, magnitude_ofRatio]
    exact nearest_mono (pow_mono le) 1
  rw [magnitude_div_powerOfTen finite small, magnitude_div_powerOfTen finite (le.trans small)]
  exact nearest_le_of_mul_le (units_powerOfTen_pos other) (units_powerOfTen_pos exponent)
    (Nat.mul_le_mul_left _ powers)

theorem magnitude_quotient_tried : ∀ (significand : Fin 3) (more : Fin 18),
    (((ofNat significand).div (powerOfTen 308)).div (powerOfTen more)).magnitude ≤
        nearest significand (Nat.pow 10 (308 + more)) + 5 ∧
      nearest significand (Nat.pow 10 (308 + more)) ≤
        (((ofNat significand).div (powerOfTen 308)).div (powerOfTen more)).magnitude + 5 := by
  decide +kernel

theorem exists_quotient_gone : ∃ last, last = 17 ∧ ∀ significand : Fin 3,
    (((ofNat significand).div (powerOfTen 308)).div (powerOfTen last)).magnitude = 0 ∧
      nearest significand (Nat.pow 10 (308 + last)) = 0 :=
  ⟨17, rfl, by decide +kernel⟩

theorem exists_nearest_gone : ∃ last, last = 616 ∧
    nearest significandLimit (Nat.pow 10 last) = 0 :=
  ⟨616, rfl, by decide +kernel⟩

/-- One and two are the only significands whose quotient by the greatest power may lose digits; the
powers that leave something of it are tried. -/
theorem magnitude_quotient_small (small : significand < 3) {more : Nat} (bounded : more ≤ 308) :
    (((ofNat significand).div (powerOfTen 308)).div (powerOfTen more)).magnitude ≤
        nearest significand (Nat.pow 10 (308 + more)) + 5 ∧
      nearest significand (Nat.pow 10 (308 + more)) ≤
        (((ofNat significand).div (powerOfTen 308)).div (powerOfTen more)).magnitude + 5 := by
  by_cases few : more < 18
  · exact magnitude_quotient_tried ⟨significand, small⟩ ⟨more, few⟩
  · obtain ⟨last, isLast, allGone⟩ := exists_quotient_gone
    obtain ⟨quotientGone, gone⟩ := allGone ⟨significand, small⟩
    have finite : (ofNat significand).isFinite = true :=
      isFinite_ofNat_of_lt (small.trans (by decide))
    have quotientLe := magnitude_div_anti (isFinite_div_powerOfTen finite (Nat.le_refl 308))
      (by omega : last ≤ more) bounded
    have le : nearest significand (Nat.pow 10 (308 + more)) ≤
        nearest significand (Nat.pow 10 (308 + last)) :=
      nearest_le_of_mul_le (powerOfTen_pos _) (powerOfTen_pos _)
        (Nat.mul_le_mul_left _ (pow_mono (by omega)))
    rw [Nat.le_zero.mp (quotientLe.trans quotientGone.le), Nat.le_zero.mp (le.trans gone.le)]
    exact ⟨Nat.zero_le _, Nat.zero_le _⟩

theorem normal_quotient (large : 3 ≤ significand) :
    leastNormal * (powerOfTen 308).units ≤ (ofNat significand).units * unitsInOne := by
  have least : leastNormal * (powerOfTen 308).units ≤ unitsOf (nearest 3 1) * unitsInOne := by
    decide +kernel
  refine least.trans (Nat.mul_le_mul_right _ ?_)
  rw [units, ofNat, magnitude_ofRatio]
  exact unitsOf_mono (nearest_mono large 1)

theorem magnitude_quotient_great {more : Nat} (finite : (ofNat significand).isFinite = true)
    (small : more ≤ 308) :
    (((ofNat significand).div (powerOfTen 308)).div (powerOfTen more)).magnitude ≤
        nearest significand (Nat.pow 10 (308 + more)) + 5 ∧
      nearest significand (Nat.pow 10 (308 + more)) ≤
        (((ofNat significand).div (powerOfTen 308)).div (powerOfTen more)).magnitude + 5 := by
  by_cases large : 3 ≤ significand
  · have isFinite := isFinite_div_powerOfTen finite (Nat.le_refl 308)
    have isBounded := of_decide_eq_true isFinite
    rw [magnitude_div_powerOfTen finite (Nat.le_refl 308)] at isBounded
    have first := close_div_powerOfTen (Nat.cast_nonneg significand)
      (close_ofNat (by omega) finite) (Nat.le_refl 308)
    have second := close_nearest (units_powerOfTen_pos 308) isBounded (normal_quotient large)
    rw [← magnitude_div_powerOfTen finite (Nat.le_refl 308)] at second
    obtain ⟨above, below⟩ := magnitude_quotient (first.trans second) isFinite small
    exact ⟨above, below⟩
  · exact magnitude_quotient_small (not_le.mp large) small

theorem negative_div_powerOfTen (finite : x.isFinite = true) {exponent : Nat}
    (small : exponent ≤ 308) : (x.div (powerOfTen exponent)).negative = x.negative := by
  rw [div_eq finite (isFinite_powerOfTen small) (isZero_powerOfTen exponent), negative_ofRatio,
    powerOfTen, negative_ofNat, Bool.bne_false]

theorem magnitude_div_mono (le : x.magnitude ≤ y.magnitude) (finite : y.isFinite = true)
    {exponent : Nat} (small : exponent ≤ 308) :
    (x.div (powerOfTen exponent)).magnitude ≤ (y.div (powerOfTen exponent)).magnitude := by
  have isFinite : x.isFinite = true :=
    decide_eq_true (Nat.lt_of_le_of_lt le (of_decide_eq_true finite))
  rw [magnitude_div_powerOfTen isFinite small, magnitude_div_powerOfTen finite small]
  exact nearest_mono (unitsOf_mono le) _

theorem negative_divideByPower (fuel : Nat) (finite : x.isFinite = true) (exponent : Nat) :
    (divideByPower fuel x exponent).negative = x.negative := by
  induction fuel generalizing x exponent with
  | zero => rfl
  | succ fuel induction =>
      rw [divideByPower]
      split
      · next small => exact negative_div_powerOfTen finite small
      · split
        · rfl
        · have isFinite := isFinite_div_powerOfTen finite (Nat.le_refl 308)
          rw [induction isFinite, negative_div_powerOfTen finite (Nat.le_refl 308)]

theorem magnitude_divideByPower_zero (fuel : Nat) (isZero : x.isZero = true) (exponent : Nat) :
    (divideByPower fuel x exponent).magnitude = 0 := by
  have zero : x.magnitude = 0 := of_decide_eq_true isZero
  have finite : x.isFinite = true := decide_eq_true (by rw [zero]; decide)
  have units : x.units = 0 := by
    rw [units, zero]
    rfl
  cases fuel with
  | zero => exact zero
  | succ fuel =>
      rw [divideByPower]
      split
      · next small =>
          rw [magnitude_div_powerOfTen finite small, units]
          exact nearest_zero (units_powerOfTen_pos exponent)
      · exact zero

/-- The greatest significand is gone after two divisions by the greatest power. -/
theorem isZero_quotients (bounded : significand ≤ significandLimit) :
    (((ofNat significand).div (powerOfTen 308)).div (powerOfTen 308)).isZero = true := by
  have greatest : (((ofNat significandLimit).div (powerOfTen 308)).div
      (powerOfTen 308)).magnitude = 0 := by decide +kernel
  have finite := isFinite_ofNat_of_le_limit (Nat.le_refl significandLimit)
  have least : (ofNat significand).magnitude ≤ (ofNat significandLimit).magnitude := by
    rw [ofNat, ofNat, magnitude_ofRatio, magnitude_ofRatio]
    exact nearest_mono bounded 1
  have once := magnitude_div_mono least finite (Nat.le_refl 308)
  have twice := magnitude_div_mono once (isFinite_div_powerOfTen finite (Nat.le_refl 308))
    (Nat.le_refl 308)
  exact decide_eq_true (Nat.le_zero.mp (twice.trans greatest.le))

theorem magnitude_divideByPower_succ {fuel exponent : Nat} (large : 308 < exponent)
    (rest : (divideByPower fuel (x.div (powerOfTen 308)) (exponent - 308)).magnitude = 0) :
    (divideByPower (fuel + 1) x exponent).magnitude = 0 := by
  rw [divideByPower, if_neg (not_le.mpr large)]
  split
  · next isZero => exact of_decide_eq_true isZero
  · exact rest

theorem magnitude_divideByPower_far (bounded : significand ≤ significandLimit) {exponent : Nat}
    (far : 616 < exponent) : (divideByPower 4 (ofNat significand) exponent).magnitude = 0 := by
  apply magnitude_divideByPower_succ (by omega)
  apply magnitude_divideByPower_succ (by omega)
  exact magnitude_divideByPower_zero 2 (isZero_quotients bounded) _

theorem magnitude_divideByPower (positive : 0 < significand)
    (bounded : significand ≤ significandLimit) (exponent : Nat) :
    (divideByPower 4 (ofNat significand) exponent).magnitude ≤
        nearest significand (Nat.pow 10 exponent) + 5 ∧
      nearest significand (Nat.pow 10 exponent) ≤
        (divideByPower 4 (ofNat significand) exponent).magnitude + 5 := by
  have finite := isFinite_ofNat_of_le_limit bounded
  by_cases small : exponent ≤ 308
  · rw [divideByPower_of_le small]
    have one : Nat.pow 10 0 = 1 := rfl
    have close : Close 1 (significand / (Nat.pow 10 0 : Nat))
        (value (ofNat significand).magnitude) := by
      rw [one, Nat.cast_one, div_one]
      exact close_ofNat positive finite
    have near := magnitude_quotient close finite small
    rw [Nat.zero_add] at near
    omega
  · by_cases far : 616 < exponent
    · rw [magnitude_divideByPower_far bounded far]
      obtain ⟨last, isLast, gone⟩ := exists_nearest_gone
      have le : nearest significand (Nat.pow 10 exponent) ≤
          nearest significandLimit (Nat.pow 10 last) :=
        nearest_le_of_mul_le (powerOfTen_pos _) (powerOfTen_pos _)
          (Nat.mul_le_mul bounded (pow_mono (by omega)))
      rw [Nat.le_zero.mp (le.trans gone.le)]
      exact ⟨Nat.zero_le _, Nat.zero_le _⟩
    · obtain ⟨more, rfl⟩ := Nat.exists_eq_add_of_le (not_le.mp small).le
      rw [divideByPower_of_lt (isZero_ofNat positive) (by omega) (by omega)]
      exact magnitude_quotient_great finite (by omega)

theorem scaled_down_eq {exponent : Int} (down : exponent < 0)
    (fine : scaled significand exponent = .ok y) :
    y = divideByPower 4 (ofNat significand) exponent.natAbs := by
  simp only [scaled, if_pos down] at fine
  exact (Except.ok.inj fine).symm

theorem exists_scaled_zero (exponent : Int) :
    ∃ x, scaled 0 exponent = .ok x ∧ x.magnitude = 0 := by
  have zero : (ofNat 0).isZero = true := by
    rw [ofNat, isZero, magnitude_ofRatio, nearest_zero Nat.one_pos]
    rfl
  by_cases down : exponent < 0
  · exact ⟨_, if_pos down, magnitude_divideByPower_zero 4 zero _⟩
  · by_cases small : exponent ≤ 308
    · have finite := isFinite_ofNat_of_le_limit (Nat.zero_le significandLimit)
      have none : (ofNat 0).units * (powerOfTen exponent.natAbs).units = 0 := by
        rw [units, of_decide_eq_true zero]
        exact Nat.zero_mul _
      have product : ((ofNat 0).mul (powerOfTen exponent.natAbs)).magnitude = 0 := by
        rw [magnitude_mul finite (isFinite_powerOfTen (by omega)), none]
        exact nearest_zero (Nat.mul_pos unitsInOne_pos unitsInOne_pos)
      have notInfinite : ((ofNat 0).mul (powerOfTen exponent.natAbs)).isInfinite = false :=
        decide_eq_false (by rw [product]; decide)
      refine ⟨_, ?_, product⟩
      simp only [scaled, if_neg down, if_pos small, notInfinite, Bool.false_eq_true, if_false]
    · refine ⟨_, ?_, of_decide_eq_true zero⟩
      simp only [scaled, if_neg down, if_neg small, zero, if_true]

/-- What stands for a significand times a power of ten is the double nearest to it or close by. -/
theorem magnitude_scaled {exponent : Int} (bounded : significand ≤ significandLimit)
    (fine : scaled significand exponent = .ok y) :
    y.magnitude ≤ nearest (significand * Nat.pow 10 exponent.toNat)
        (Nat.pow 10 (-exponent).toNat) + 5 ∧
      nearest (significand * Nat.pow 10 exponent.toNat) (Nat.pow 10 (-exponent).toNat) ≤
        y.magnitude + 5 := by
  have one : Nat.pow 10 0 = 1 := rfl
  rcases Nat.eq_zero_or_pos significand with rfl | positive
  · obtain ⟨x, isRead, zero⟩ := exists_scaled_zero exponent
    rw [← Except.ok.inj (isRead.symm.trans fine), zero, Nat.zero_mul,
      nearest_zero (powerOfTen_pos _)]
    exact ⟨Nat.zero_le _, Nat.zero_le _⟩
  · by_cases up : 0 ≤ exponent
    · obtain ⟨small, rfl⟩ := scaled_up_eq positive up fine
      have above : exponent.toNat = exponent.natAbs := by omega
      have below : (-exponent).toNat = 0 := by omega
      rw [above, below, one]
      have near := magnitude_scaled_up positive (isFinite_ofNat_of_le_limit bounded) small
      omega
    · have above : exponent.toNat = 0 := by omega
      have below : (-exponent).toNat = exponent.natAbs := by omega
      rw [above, below, one, Nat.mul_one, scaled_down_eq (not_le.mp up) fine]
      exact magnitude_divideByPower positive bounded _

theorem negative_scaled {exponent : Int} (bounded : significand ≤ significandLimit)
    (fine : scaled significand exponent = .ok y) : y.negative = false := by
  have finite := isFinite_ofNat_of_le_limit bounded
  rw [scaled] at fine
  dsimp only at fine
  split at fine
  · rw [← Except.ok.inj fine, negative_divideByPower 4 finite, negative_ofNat]
  · split at fine
    · next small =>
        split at fine
        · cases fine
        · rw [← Except.ok.inj fine, mul_eq finite (isFinite_powerOfTen (by omega)),
            negative_ofRatio, powerOfTen, negative_ofNat, negative_ofNat]
          rfl
    · split at fine
      · rw [← Except.ok.inj fine, negative_ofNat]
      · cases fine

theorem nearest_infinite {number exponent : Nat} (positive : 0 < number) (large : 308 < exponent) :
    nearest (number * Nat.pow 10 exponent) 1 = infinityMagnitude := by
  obtain ⟨first, isFirst, infinite⟩ :
      ∃ first, first = 309 ∧ infinityMagnitude ≤ nearest (1 * Nat.pow 10 first) 1 :=
    ⟨309, rfl, by decide +kernel⟩
  exact Nat.le_antisymm (nearest_le _ _)
    (infinite.trans (nearest_mono (Nat.mul_le_mul positive (pow_mono (by omega))) 1))

/-- Only what is close to infinity or beyond is refused. -/
theorem le_nearest_of_scaled_error {exponent : Int} {fault : Fault}
    (bounded : significand ≤ significandLimit)
    (refused : scaled significand exponent = .error fault) :
    infinityMagnitude ≤ nearest (significand * Nat.pow 10 exponent.toNat)
      (Nat.pow 10 (-exponent).toNat) + 3 := by
  have up : ¬ exponent < 0 := by
    intro down
    rw [scaled, if_pos down] at refused
    cases refused
  have positive : 0 < significand := by
    refine Nat.pos_of_ne_zero ?_
    rintro rfl
    obtain ⟨x, isRead, -⟩ := exists_scaled_zero exponent
    rw [isRead] at refused
    cases refused
  have above : exponent.toNat = exponent.natAbs := by omega
  have below : (-exponent).toNat = 0 := by omega
  have one : Nat.pow 10 0 = 1 := rfl
  rw [above, below, one]
  by_cases small : exponent ≤ 308
  · have finite := isFinite_ofNat_of_le_limit bounded
    have near := magnitude_scaled_up positive finite (by omega : exponent.natAbs ≤ 308)
    have infinite : ((ofNat significand).mul (powerOfTen exponent.natAbs)).isInfinite = true := by
      by_contra notInfinite
      simp only [scaled, if_neg up, if_pos small, if_neg notInfinite] at refused
      cases refused
    have isInfinite := of_decide_eq_true infinite
    omega
  · rw [nearest_infinite positive (by omega)]
    exact Nat.le_add_right _ _

theorem spelled_le (finite : x.isFinite = true) :
    (spelled x).coefficient ≤ significandLimit := by
  unfold spelled
  split
  · exact Nat.zero_le _
  · next notZero =>
      have positive : 0 < x.magnitude :=
        Nat.pos_of_ne_zero fun zero => notZero (decide_eq_true zero)
      have readable := readable_shortest positive (of_decide_eq_true finite)
      generalize Decimal.shortest .toEven x.magnitude = decimal at readable
      dsimp only
      split
      · next inside =>
          have short : (digitBytes decimal.coefficient).length + decimal.exponent ≤ 16 := by
            rw [digitBytes, List.length_map]
            exact inside.2.1
          exact Readable.widened_le inside.2.2 short
      · exact readable.le_significandLimit

/-- A finite double comes back as one near to it. -/
theorem isNear_reread (finite : x.isFinite = true) : (reread x).IsNear x := by
  have bounded := spelled_le finite
  obtain ⟨y, fine, -⟩ := exists_scaled_spelled finite
  have notNegative := negative_scaled bounded fine
  obtain ⟨above, below⟩ := magnitude_scaled bounded fine
  rw [nearest_spelled finite] at above below
  rw [reread_eq finite fine]
  cases sign : x.negative with
  | true =>
      rw [if_pos rfl]
      exact ⟨by rw [negative_neg, notNegative, sign]; rfl, by rwa [magnitude_neg],
        by rwa [magnitude_neg]⟩
  | false =>
      rw [if_neg (by decide)]
      exact ⟨by rw [notNegative, sign], above, below⟩

end Json

end Telemetry
