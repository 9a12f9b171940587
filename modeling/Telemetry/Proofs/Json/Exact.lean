import Telemetry.Proofs.Json.Double

namespace Telemetry

open Telemetry

/-! A double whose text has few digits and a small power of ten is read as itself: the significand
and the power are doubles themselves, so that their product or quotient is rounded once only. -/

namespace Json

open Binary64

variable {x : Binary64} {significand : Nat} {exponent : Int}

/-- Few digits, and a power of ten that is a double. -/
def IsShort (decimal : Decimal) : Prop :=
  decimal.coefficient < 2 * leastNormal ∧ decimal.exponent.natAbs ≤ 22

instance (decimal : Decimal) : Decidable (IsShort decimal) :=
  inferInstanceAs (Decidable (_ ∧ _))

theorem units_powerOfTen {exponent : Nat} (small : exponent ≤ 22) :
    (powerOfTen exponent).units = Nat.pow 10 exponent * unitsInOne := by
  have each : ∀ exponent : Fin 23,
      (powerOfTen exponent).units = Nat.pow 10 exponent * unitsInOne := by
    decide +kernel
  exact each ⟨exponent, Nat.lt_succ_of_le small⟩

theorem scaled_down (small : significand < 2 * leastNormal) (down : exponent < 0)
    (near : exponent.natAbs ≤ 22) :
    ∃ y, scaled significand exponent = .ok y ∧ y.negative = false ∧
      y.magnitude = nearest significand (Nat.pow 10 exponent.natAbs) := by
  have divisor := units_powerOfTen near
  have isFinite := isFinite_ofNat_of_lt small
  have powerIsFinite : (powerOfTen exponent.natAbs).isFinite = true :=
    isFinite_powerOfTen (Nat.le_trans near (by decide))
  have notZero := isZero_powerOfTen exponent.natAbs
  have magnitude := magnitude_div isFinite powerIsFinite notZero
  rw [units_ofNat small, divisor, nearest_mul_right _ _ unitsInOne_pos] at magnitude
  refine ⟨(ofNat significand).div (powerOfTen exponent.natAbs), ?_, ?_, magnitude⟩
  · rw [scaled, if_pos down, divideByPower, if_pos (Nat.le_trans near (by decide))]
  · rw [div_eq isFinite powerIsFinite notZero, negative_ofRatio, ofNat, powerOfTen, ofNat,
      negative_ofRatio, negative_ofRatio]
    rfl

theorem scaled_up (small : significand < 2 * leastNormal) (up : 0 ≤ exponent)
    (near : exponent.natAbs ≤ 22) :
    ∃ y, scaled significand exponent = .ok y ∧ y.negative = false ∧
      y.magnitude = nearest (significand * Nat.pow 10 exponent.natAbs) 1 := by
  have isFinite := isFinite_ofNat_of_lt small
  have powerIsFinite : (powerOfTen exponent.natAbs).isFinite = true :=
    isFinite_powerOfTen (Nat.le_trans near (by decide))
  have product : (significand * unitsInOne) * (Nat.pow 10 exponent.natAbs * unitsInOne) =
      significand * Nat.pow 10 exponent.natAbs * (unitsInOne * unitsInOne) :=
    Nat.mul_mul_mul_comm _ _ _ _
  have magnitude := magnitude_mul isFinite powerIsFinite
  rw [units_ofNat small, units_powerOfTen near, product, ← Nat.one_mul (unitsInOne * unitsInOne),
    ← Nat.mul_assoc _ 1, Nat.mul_one,
    nearest_mul_right _ _ (Nat.mul_pos unitsInOne_pos unitsInOne_pos)] at magnitude
  have bounded : nearest (significand * Nat.pow 10 exponent.natAbs) 1 < infinityMagnitude := by
    have largest : nearest (2 * leastNormal * Nat.pow 10 22) 1 < infinityMagnitude := by
      decide +kernel
    exact Nat.lt_of_le_of_lt
      (nearest_mono (Nat.mul_le_mul (Nat.le_of_lt small) (pow_mono near)) 1) largest
  have finite : ((ofNat significand).mul (powerOfTen exponent.natAbs)).isInfinite = false :=
    decide_eq_false (by rw [magnitude]; exact Nat.ne_of_lt bounded)
  refine ⟨(ofNat significand).mul (powerOfTen exponent.natAbs), ?_, ?_, magnitude⟩
  · simp only [scaled, if_neg (Int.not_lt.mpr up), if_pos (by omega : exponent ≤ 308), finite,
      Bool.false_eq_true, if_false]
  · rw [mul_eq isFinite powerIsFinite, negative_ofRatio, ofNat, powerOfTen, ofNat,
      negative_ofRatio, negative_ofRatio]
    rfl

/-- A short numeral is rounded once. -/
theorem exists_scaled_isShort {decimal : Decimal} (short : IsShort decimal) :
    ∃ y, scaled decimal.coefficient decimal.exponent = .ok y ∧ y.negative = false ∧
      y.magnitude = nearest (decimal.coefficient * Nat.pow 10 decimal.exponent.toNat)
        (Nat.pow 10 (-decimal.exponent).toNat) := by
  obtain ⟨few, near⟩ := short
  by_cases down : decimal.exponent < 0
  · have above : decimal.exponent.toNat = 0 := by omega
    have below : (-decimal.exponent).toNat = decimal.exponent.natAbs := by omega
    have one : Nat.pow 10 0 = 1 := rfl
    rw [above, below, one, Nat.mul_one]
    exact scaled_down few down near
  · have above : decimal.exponent.toNat = decimal.exponent.natAbs := by omega
    have below : (-decimal.exponent).toNat = 0 := by omega
    rw [above, below]
    exact scaled_up few (by omega) near

/-- The numeral that is read lies where the shortest one lies. -/
theorem nearest_spelled (finite : x.isFinite = true) :
    nearest ((spelled x).coefficient * Nat.pow 10 (spelled x).exponent.toNat)
      (Nat.pow 10 (-(spelled x).exponent).toNat) = x.magnitude := by
  unfold spelled
  split
  · next isZero =>
      rw [of_decide_eq_true isZero]
      decide +kernel
  · next notZero =>
      have positive : 0 < x.magnitude :=
        Nat.pos_of_ne_zero fun zero => notZero (decide_eq_true zero)
      have fits := Decimal.fits_shortest positive .toEven
      have nearest := fits.nearest_eq positive (of_decide_eq_true finite)
      generalize Decimal.shortest .toEven x.magnitude = decimal at nearest
      simp only []
      split
      · next inside =>
          have unscaled : (-decimal.exponent).toNat = 0 := by omega
          have tenfold : decimal.coefficient * Nat.pow 10 (decimal.exponent.toNat + 1) * 1 =
              decimal.coefficient * Nat.pow 10 decimal.exponent.toNat * 10 := by
            rw [Nat.mul_one, Nat.mul_assoc]
            rfl
          have shifted := nearest_mul_right
            (decimal.coefficient * Nat.pow 10 decimal.exponent.toNat) 1 (by decide : 0 < 10)
          rw [unscaled] at nearest
          rw [← nearest, ← shifted, ← tenfold]
          rfl
      · exact nearest

/-- A finite double with a short text is read back as it was written. -/
theorem reread_of_isShort (finite : x.isFinite = true) (short : IsShort (spelled x)) :
    reread x = x := by
  obtain ⟨y, fine, notNegative, magnitude⟩ := exists_scaled_isShort short
  rw [nearest_spelled finite] at magnitude
  rw [reread_eq finite fine]
  split
  · next negative =>
      exact eq_of_magnitude_eq ((magnitude_neg y).trans magnitude)
        (by rw [negative_neg, notNegative, negative]; rfl)
  · next notBelow =>
      exact eq_of_magnitude_eq magnitude (by rw [notNegative, Bool.eq_false_iff.mpr notBelow])

end Json

end Telemetry
