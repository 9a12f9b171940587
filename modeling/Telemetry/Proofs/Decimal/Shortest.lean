import Mathlib.Tactic.Ring
import Telemetry.Decimal.Shortest
import Telemetry.Proofs.Binary64.Nearest
import Telemetry.Proofs.Decimal.Digits

namespace Telemetry.Decimal

open Telemetry

/-! The shortest numeral of a positive double is not zero, has at most eighteen digits, and reads
back as that double: it lies between the midpoints to the neighbouring ones. -/

/-- Inside an interval, in units of `2 ^ (-1075)`. -/
def Within (decimal : Decimal) (interval : Interval) : Prop :=
  (Grid.ofExponent decimal.exponent).contains interval decimal.coefficient = true

theorem Grid.step_pos (exponent : Int) : 0 < (Grid.ofExponent exponent).step :=
  Nat.mul_pos (Nat.mul_pos (by decide) (Nat.pos_of_ne_zero (by decide))) (Nat.pow_pos (by decide))

theorem Grid.scale_pos (exponent : Int) : 0 < (Grid.ofExponent exponent).scale :=
  Nat.pow_pos (by decide)

/-- A grid of the next power of ten has its points ten times as far apart. -/
theorem Grid.succ (exponent : Int) :
    (Grid.ofExponent (exponent + 1)).step * (Grid.ofExponent exponent).scale =
      10 * ((Grid.ofExponent exponent).step * (Grid.ofExponent (exponent + 1)).scale) := by
  have balance : (exponent + 1).toNat + (-exponent).toNat =
      1 + (exponent.toNat + (-(exponent + 1)).toNat) := by omega
  have powers := congrArg (fun power => 10 ^ power) balance
  simp only [Nat.pow_add, Nat.pow_one] at powers
  simp only [ofExponent, Nat.pow_eq, Nat.mul_assoc, powers]
  ring

theorem Grid.contains_iff {grid : Grid} {interval : Interval} {point : Nat} :
    grid.contains interval point = true ↔
      (interval.low * grid.scale ≤ point * grid.step ∧
        point * grid.step ≤ interval.high * grid.scale) ∧
      (interval.closed = false → interval.low * grid.scale ≠ point * grid.step ∧
        point * grid.step ≠ interval.high * grid.scale) := by
  unfold contains
  cases interval.closed with
  | true => simp
  | false =>
      simp only [Bool.false_eq_true, if_false, decide_eq_true_eq, forall_const,
        Nat.lt_iff_le_and_ne]
      tauto

section Scales

variable {left right otherLeft otherRight factor other : Nat}

theorem le_iff_of_scaled (positive : 0 < factor) (otherPositive : 0 < other)
    (sameLeft : left * factor = otherLeft * other)
    (sameRight : right * factor = otherRight * other) : left ≤ right ↔ otherLeft ≤ otherRight := by
  rw [← Nat.mul_le_mul_right_iff positive, sameLeft, sameRight,
    Nat.mul_le_mul_right_iff otherPositive]

theorem ne_iff_of_scaled (positive : 0 < factor) (otherPositive : 0 < other)
    (sameLeft : left * factor = otherLeft * other)
    (sameRight : right * factor = otherRight * other) : left ≠ right ↔ otherLeft ≠ otherRight := by
  rw [Ne, ← Nat.mul_left_inj (Nat.ne_of_gt positive), sameLeft, sameRight,
    Nat.mul_left_inj (Nat.ne_of_gt otherPositive)]

end Scales

theorem Within.carry {coefficient : Nat} {exponent : Int} {interval : Interval}
    (within : Within ⟨10 * coefficient, exponent⟩ interval) :
    Within ⟨coefficient, exponent + 1⟩ interval := by
  have next := Grid.succ exponent
  have positive := Grid.scale_pos exponent
  have nextPositive := Grid.scale_pos (exponent + 1)
  unfold Within at within ⊢
  rw [Grid.contains_iff] at within ⊢
  simp only [] at within ⊢
  generalize Grid.ofExponent exponent = grid at *
  generalize Grid.ofExponent (exponent + 1) = nextGrid at *
  -- Stretched by the scale of the other grid each time, the positions are the same.
  have position : coefficient * nextGrid.step * grid.scale =
      10 * coefficient * grid.step * nextGrid.scale := by
    rw [Nat.mul_assoc, next]
    ring
  have bound : ∀ bound, bound * nextGrid.scale * grid.scale =
      bound * grid.scale * nextGrid.scale := fun bound => Nat.mul_right_comm _ _ _
  rw [le_iff_of_scaled positive nextPositive (bound interval.low) position,
    le_iff_of_scaled positive nextPositive position (bound interval.high),
    ne_iff_of_scaled positive nextPositive (bound interval.low) position,
    ne_iff_of_scaled positive nextPositive position (bound interval.high)]
  exact within

theorem dropZeros_spec (fuel : Nat) {decimal : Decimal} {interval : Interval}
    (positive : decimal.coefficient ≠ 0) (within : decimal.Within interval) :
    (decimal.dropZeros fuel).coefficient ≠ 0 ∧
      (decimal.dropZeros fuel).coefficient ≤ decimal.coefficient ∧
      (decimal.dropZeros fuel).Within interval := by
  induction fuel generalizing decimal with
  | zero => exact ⟨positive, Nat.le_refl _, within⟩
  | succ fuel induction =>
      rw [dropZeros]
      split
      · next endsInZero =>
          have tenfold : 10 * (decimal.coefficient / 10) = decimal.coefficient := by omega
          have carried : Within ⟨decimal.coefficient / 10, decimal.exponent + 1⟩ interval :=
            Within.carry (tenfold.symm ▸ within)
          obtain ⟨stillPositive, le, stillWithin⟩ :=
            induction (by show decimal.coefficient / 10 ≠ 0; omega) carried
          exact ⟨stillPositive, Nat.le_trans le (Nat.div_le_self _ _), stillWithin⟩
      · exact ⟨positive, Nat.le_refl _, within⟩

section Places

/-- The digits in front of the point once it has been moved to the right. -/
def shiftedDigits (power magnitude : Nat) : Nat :=
  (digits (Binary64.unitsOf magnitude * power / Binary64.unitsInOne)).length

/-- To count places the point is moved far enough for every positive double. -/
theorem exists_power (magnitude : Nat) :
    ∃ power shift : Nat, power = Nat.pow 10 shift ∧
      places magnitude = shiftedDigits power magnitude - shift ∧ Binary64.unitsInOne ≤ power := by
  -- The power itself has a name from here on, since it is too large to be written out.
  have named : ∀ shift, ∃ power other : Nat,
      power = Nat.pow 10 other ∧ power = Nat.pow 10 shift ∧ other = shift :=
    fun shift => ⟨_, shift, rfl, rfl, rfl⟩
  obtain ⟨power, shift, isPowerOfShift, isPower, isShift⟩ := named 400
  have moved : places magnitude = shiftedDigits power magnitude - 400 := by
    rw [places, shiftedDigits, isPower]
  have enough : Binary64.unitsInOne ≤ power := by
    rw [isPower]
    decide +kernel
  refine ⟨power, shift, isPowerOfShift, ?_, enough⟩
  rw [moved, isShift]
  rfl

variable {magnitude power shift : Nat}

theorem units_lt (power magnitude : Nat) :
    Binary64.unitsOf magnitude * power <
      10 ^ shiftedDigits power magnitude * Binary64.unitsInOne := by
  rw [← Nat.div_lt_iff_lt_mul Binary64.unitsInOne_pos]
  exact lt_pow_length_digits _

theorem shifted_ne_zero (positive : 0 < magnitude) (enough : Binary64.unitsInOne ≤ power) :
    Binary64.unitsOf magnitude * power / Binary64.unitsInOne ≠ 0 := by
  refine Nat.ne_of_gt (Nat.div_pos ?_ Binary64.unitsInOne_pos)
  calc Binary64.unitsInOne
      ≤ power := enough
    _ ≤ Binary64.unitsOf magnitude * power :=
        Nat.le_mul_of_pos_left _ (Binary64.unitsOf_pos positive)

theorem le_units (positive : 0 < magnitude) (enough : Binary64.unitsInOne ≤ power) :
    10 ^ (shiftedDigits power magnitude - 1) * Binary64.unitsInOne ≤
      Binary64.unitsOf magnitude * power := by
  rw [← Nat.le_div_iff_mul_le Binary64.unitsInOne_pos]
  exact pow_length_digits_le (shifted_ne_zero positive enough)

/-- The grid on which the value has so many digits in front of the point. -/
theorem pow_shiftedDigits (isPower : power = Nat.pow 10 shift)
    (isPlaces : places magnitude = shiftedDigits power magnitude - shift) (count : Nat) :
    10 ^ shiftedDigits power magnitude * (Grid.ofExponent (places magnitude - count)).scale *
        (2 * Binary64.unitsInOne) =
      10 ^ count * power * (Grid.ofExponent (places magnitude - count)).step := by
  have balance : shiftedDigits power magnitude + (-(places magnitude - count)).toNat =
      count + shift + (places magnitude - count).toNat := by
    rw [isPlaces]
    omega
  have powers := congrArg (fun power => 10 ^ power) balance
  simp only [Nat.pow_add] at powers
  rw [Nat.pow_eq] at isPower
  simp only [Grid.ofExponent, Nat.pow_eq, powers, ← isPower]
  ring

theorem value_lt (magnitude count : Nat) :
    (Interval.ofMagnitude magnitude).value *
        (Grid.ofExponent (places magnitude - count)).scale <
      10 ^ count * (Grid.ofExponent (places magnitude - count)).step := by
  obtain ⟨power, shift, isPower, isPlaces, -⟩ := exists_power magnitude
  have powers := pow_shiftedDigits isPower isPlaces count
  have units := units_lt power magnitude
  have positive := Grid.scale_pos (places magnitude - count)
  simp only [Interval.ofMagnitude]
  generalize Grid.ofExponent (places magnitude - count) = grid at *
  refine Nat.lt_of_mul_lt_mul_right (a := power) ?_
  calc 2 * Binary64.unitsOf magnitude * grid.scale * power
      = Binary64.unitsOf magnitude * power * (2 * grid.scale) := by ring
    _ < 10 ^ shiftedDigits power magnitude * Binary64.unitsInOne * (2 * grid.scale) :=
        Nat.mul_lt_mul_of_pos_right units (by omega)
    _ = 10 ^ count * power * grid.step := by rw [← powers]; ring
    _ = 10 ^ count * grid.step * power := by ring

theorem le_value (positive : 0 < magnitude) (count : Nat) :
    10 ^ count * (Grid.ofExponent (places magnitude - (count + 1 : Nat))).step ≤
      (Interval.ofMagnitude magnitude).value *
        (Grid.ofExponent (places magnitude - (count + 1 : Nat))).scale := by
  obtain ⟨power, shift, isPower, isPlaces, enough⟩ := exists_power magnitude
  have powers := pow_shiftedDigits isPower isPlaces (count + 1)
  have units := le_units positive enough
  have isWhole := shifted_ne_zero positive enough
  simp only [Interval.ofMagnitude]
  generalize Grid.ofExponent (places magnitude - (count + 1 : Nat)) = grid at *
  have moved : 0 < power := Nat.lt_of_lt_of_le Binary64.unitsInOne_pos enough
  have written : shiftedDigits power magnitude ≠ 0 := by
    intro none
    have small := lt_pow_length_digits (Binary64.unitsOf magnitude * power / Binary64.unitsInOne)
    rw [shiftedDigits] at none
    rw [none] at small
    exact isWhole (Nat.lt_one_iff.mp small)
  obtain ⟨width, isWidth⟩ := Nat.exists_eq_succ_of_ne_zero written
  rw [isWidth, Nat.succ_eq_add_one, Nat.pow_succ] at powers
  rw [isWidth, Nat.succ_sub_one] at units
  refine Nat.le_of_mul_le_mul_right ?_ (Nat.mul_pos (by decide : 0 < 10) moved)
  calc 10 ^ count * grid.step * (10 * power)
      = 10 ^ (count + 1) * power * grid.step := by ring
    _ = 10 ^ width * Binary64.unitsInOne * (20 * grid.scale) := by rw [← powers]; ring
    _ ≤ Binary64.unitsOf magnitude * power * (20 * grid.scale) := Nat.mul_le_mul_right _ units
    _ = 2 * Binary64.unitsOf magnitude * grid.scale * (10 * power) := by ring

end Places

namespace Grid

variable {grid : Grid} {tie : Tie} {interval : Interval} {point : Nat}

theorem contains_of_pick? (picked : grid.pick? tie interval = some point) :
    grid.contains interval point = true ∧
      point ≤ interval.value * grid.scale / grid.step + 1 := by
  unfold pick? at picked
  simp only [] at picked
  generalize interval.value * grid.scale / grid.step = below at picked ⊢
  split at picked
  · cases picked
  · next isBelow isAbove =>
      obtain rfl := Option.some.inj picked
      exact ⟨isBelow, Nat.le_succ _⟩
  · next isBelow isAbove =>
      obtain rfl := Option.some.inj picked
      exact ⟨isAbove, Nat.le_refl _⟩
  · next isBelow isAbove =>
      have either : point = below ∨ point = below + 1 := by
        split at picked
        · exact .inl (Option.some.inj picked).symm
        · split at picked
          · exact .inr (Option.some.inj picked).symm
          · cases tie with
            | toEven =>
                have isEven := Option.some.inj picked
                omega
            | upward => exact .inr (Option.some.inj picked).symm
      rcases either with rfl | rfl
      · exact ⟨isBelow, Nat.le_succ _⟩
      · exact ⟨isAbove, Nat.le_refl _⟩

end Grid

/-- Not zero, of at most eighteen digits, and read back as the double with these low bits. -/
structure Fits (decimal : Decimal) (magnitude : Nat) : Prop where
  positive : decimal.coefficient ≠ 0
  short : decimal.coefficient ≤ 10 ^ 18
  within : decimal.Within (Interval.ofMagnitude magnitude)

/-- Eighteen digits leave less than the distance to the midpoint below. -/
theorem step_lt {magnitude : Nat} (positive : 0 < magnitude) :
    (Interval.ofMagnitude magnitude).low *
          (Grid.ofExponent (places magnitude - (18 : Nat))).scale +
        (Grid.ofExponent (places magnitude - (18 : Nat))).step <
      (Interval.ofMagnitude magnitude).value *
        (Grid.ofExponent (places magnitude - (18 : Nat))).scale := by
  obtain ⟨previous, rfl⟩ := Nat.exists_eq_succ_of_ne_zero (Nat.ne_of_gt positive)
  obtain ⟨significand, shift, digits⟩ := Binary64.exists_digits previous
  have above := le_value positive 17
  have scale := Grid.scale_pos (places (previous + 1) - (18 : Nat))
  have last := digits.below
  simp only [Interval.ofMagnitude, Nat.succ_eq_add_one, Nat.add_sub_cancel, digits.units,
    digits.units_succ, Nat.shiftLeft_eq] at above ⊢
  generalize Grid.ofExponent (places (previous + 1) - (18 : Nat)) = grid at *
  have few : 2 * (significand + 1) < 10 ^ 17 := by
    have limit : 2 * (2 * Binary64.leastNormal) < 10 ^ 17 := by decide
    omega
  have gap : 0 < 2 ^ shift * grid.scale := Nat.mul_pos (Nat.two_pow_pos _) scale
  have step : grid.step < 2 ^ shift * grid.scale := by
    refine Nat.lt_of_mul_lt_mul_left (a := 10 ^ 17) ?_
    calc 10 ^ 17 * grid.step
        ≤ 2 * ((significand + 1) * 2 ^ shift) * grid.scale := above
      _ = 2 * (significand + 1) * (2 ^ shift * grid.scale) := by ring
      _ < 10 ^ 17 * (2 ^ shift * grid.scale) := Nat.mul_lt_mul_of_pos_right few gap
  calc (significand * 2 ^ shift + (significand + 1) * 2 ^ shift) * grid.scale + grid.step
      < (significand * 2 ^ shift + (significand + 1) * 2 ^ shift) * grid.scale +
          2 ^ shift * grid.scale := Nat.add_lt_add_left step _
    _ = 2 * ((significand + 1) * 2 ^ shift) * grid.scale := by ring

theorem value_lt_high (magnitude : Nat) :
    (Interval.ofMagnitude magnitude).value < (Interval.ofMagnitude magnitude).high := by
  have next := Binary64.unitsOf_lt_succ magnitude
  simp only [Interval.ofMagnitude]
  omega

/-- The last resort, which drops the digits behind the eighteenth. -/
theorem within_eighteen {magnitude : Nat} (positive : 0 < magnitude) :
    Within ⟨(Interval.ofMagnitude magnitude).value *
      (Grid.ofExponent (places magnitude - (18 : Nat))).scale /
      (Grid.ofExponent (places magnitude - (18 : Nat))).step,
        places magnitude - (18 : Nat)⟩ (Interval.ofMagnitude magnitude) := by
  have step := Grid.step_pos (places magnitude - (18 : Nat))
  have scale := Grid.scale_pos (places magnitude - (18 : Nat))
  have near := step_lt positive
  have high := Nat.mul_lt_mul_of_pos_right (value_lt_high magnitude) scale
  unfold Within
  rw [Grid.contains_iff]
  simp only []
  generalize Grid.ofExponent (places magnitude - (18 : Nat)) = grid at *
  generalize Interval.ofMagnitude magnitude = interval at *
  have below := Nat.div_mul_le_self (interval.value * grid.scale) grid.step
  have above : interval.value * grid.scale <
      interval.value * grid.scale / grid.step * grid.step + grid.step := Nat.lt_div_mul_add step
  generalize interval.value * grid.scale / grid.step * grid.step = position at *
  omega

theorem fits_shortestFrom {magnitude : Nat} (positive : 0 < magnitude) (tie : Tie)
    (fuel count : Nat) (total : fuel + count = 18) :
    (shortestFrom tie (Interval.ofMagnitude magnitude) (places magnitude) fuel count).Fits
      magnitude := by
  induction fuel generalizing count with
  | zero =>
      obtain rfl : count = 18 := by omega
      have step := Grid.step_pos (places magnitude - (18 : Nat))
      rw [shortestFrom]
      refine ⟨Nat.ne_of_gt (Nat.div_pos ?_ step), ?_, within_eighteen positive⟩
      · have above := le_value positive 17
        exact Nat.le_trans (Nat.le_mul_of_pos_left _ (by decide)) above
      · refine Nat.le_of_lt ((Nat.div_lt_iff_lt_mul step).mpr ?_)
        exact value_lt magnitude 18
  | succ fuel induction =>
      have step := Grid.step_pos (places magnitude - count)
      have scale := Grid.scale_pos (places magnitude - count)
      have width := value_lt magnitude count
      rw [shortestFrom]
      split
      · next point picked =>
          obtain ⟨contained, near⟩ := Grid.contains_of_pick? picked
          have above := (Grid.contains_iff.mp contained).1.1
          have low : 0 < (Interval.ofMagnitude magnitude).low :=
            Nat.lt_of_lt_of_le (Binary64.unitsOf_pos positive) (Nat.le_add_left _ _)
          refine ⟨?_, ?_, contained⟩
          · rintro rfl
            have lowScaled := Nat.mul_pos low scale
            omega
          · rw [← Nat.div_lt_iff_lt_mul step] at width
            calc point
                ≤ 10 ^ count := Nat.le_trans near width
              _ ≤ 10 ^ 18 := Nat.pow_le_pow_right (by decide) (by omega)
      · exact induction (count + 1) (by omega)

theorem le_exponent_dropZeros (fuel : Nat) (decimal : Decimal) :
    decimal.exponent ≤ (decimal.dropZeros fuel).exponent := by
  induction fuel generalizing decimal with
  | zero => exact Int.le_refl _
  | succ fuel induction =>
      rw [dropZeros]
      split
      · exact Int.le_trans (Int.le_add_one (Int.le_refl _)) (induction ⟨_, decimal.exponent + 1⟩)
      · exact Int.le_refl _

theorem le_exponent_shortestFrom (tie : Tie) (interval : Interval) (places : Int)
    (fuel count : Nat) :
    places - (fuel + count : Nat) ≤ (shortestFrom tie interval places fuel count).exponent := by
  induction fuel generalizing count with
  | zero =>
      show places - (0 + count : Nat) ≤ places - count
      omega
  | succ fuel induction =>
      rw [shortestFrom]
      split
      · show places - (fuel + 1 + count : Nat) ≤ places - count
        omega
      · have next := induction (count + 1)
        omega

/-- Not even the least double needs more places behind the point. -/
theorem le_exponent_shortest (tie : Tie) (magnitude : Nat) :
    -418 ≤ (shortest tie magnitude).exponent := by
  have dropped := le_exponent_dropZeros 20
    (shortestFrom tie (Interval.ofMagnitude magnitude) (places magnitude) 17 1)
  have found := le_exponent_shortestFrom tie (Interval.ofMagnitude magnitude)
    (places magnitude) 17 1
  have behind : -400 ≤ places magnitude := by
    unfold places
    omega
  rw [shortest]
  omega

theorem fits_shortest {magnitude : Nat} (positive : 0 < magnitude) (tie : Tie) :
    (shortest tie magnitude).Fits magnitude := by
  have fits := fits_shortestFrom positive tie 17 1 rfl
  obtain ⟨stillPositive, le, within⟩ := dropZeros_spec 20 fits.positive fits.within
  exact ⟨stillPositive, Nat.le_trans le fits.short, within⟩

/-- The double nearest to a numeral that fits is the one that it was made for. -/
theorem Fits.nearest_eq {decimal : Decimal} {magnitude : Nat} (fits : decimal.Fits magnitude)
    (positive : 0 < magnitude) (bounded : magnitude < Binary64.infinityMagnitude) :
    Binary64.nearest (decimal.coefficient * Nat.pow 10 decimal.exponent.toNat)
      (Nat.pow 10 (-decimal.exponent).toNat) = magnitude := by
  obtain ⟨⟨above, below⟩, inside⟩ := Grid.contains_iff.mp fits.within
  have position : decimal.coefficient * (Grid.ofExponent decimal.exponent).step =
      2 * (decimal.coefficient * Nat.pow 10 decimal.exponent.toNat * Binary64.unitsInOne) := by
    simp only [Grid.ofExponent]
    ring
  rw [position] at above below inside
  refine Binary64.nearest_of_between (Nat.pow_pos (by decide)) positive bounded above below ?_
  intro odd
  obtain ⟨low, high⟩ := inside (decide_eq_false (by omega))
  exact ⟨Nat.lt_of_le_of_ne above low, Nat.lt_of_le_of_ne below high⟩

end Telemetry.Decimal
