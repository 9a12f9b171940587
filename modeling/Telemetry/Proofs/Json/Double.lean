import Telemetry.Proofs.Binary64.Arithmetic
import Telemetry.Proofs.Decimal.Shortest
import Telemetry.Proofs.Json.Value
import Telemetry.Proofs.Text.Blank

namespace Telemetry.Json

open Telemetry

/-! A finite double that was written is read without a fault, though not always as the same
double: the product of a significand and a power of ten is rounded twice. -/

section Scaling

open Binary64

/-- The greatest double, as the integer that it is. -/
def greatest : Nat := unitsOf (infinityMagnitude - 1) / unitsInOne

/-- The low bits of a significand times a power of ten. -/
def productMagnitude (significand power : Nat) : Nat :=
  nearest (unitsOf (nearest significand 1) * unitsOf (nearest power 1)) (unitsInOne * unitsInOne)

theorem productMagnitude_mono {significand other power otherPower : Nat}
    (significands : significand ≤ other) (powers : power ≤ otherPower) :
    productMagnitude significand power ≤ productMagnitude other otherPower :=
  nearest_mono (Nat.mul_le_mul (unitsOf_mono (nearest_mono significands 1))
    (unitsOf_mono (nearest_mono powers 1))) _

theorem pow_mono {exponent other : Nat} (le : exponent ≤ other) :
    Nat.pow 10 exponent ≤ Nat.pow 10 other :=
  Nat.pow_le_pow_right (by decide) le

theorem exists_productMagnitude_lt : ∃ exponent, exponent = 290 ∧
    productMagnitude (Nat.pow 10 18) (Nat.pow 10 exponent) < infinityMagnitude :=
  ⟨290, rfl, by decide +kernel⟩

theorem exists_greatest_lt : ∃ exponent, exponent = 309 ∧ greatest < Nat.pow 10 exponent :=
  ⟨309, rfl, by decide +kernel⟩

/-- With the powers that leave less than eighteen digits to the significand, the greatest one is
tried for each. -/
theorem productMagnitude_greatest_lt : ∀ exponent : Fin 18,
    productMagnitude (greatest / Nat.pow 10 (291 + exponent)) (Nat.pow 10 (291 + exponent)) <
      infinityMagnitude := by
  decide +kernel

theorem productMagnitude_lt {significand exponent : Nat} (short : significand ≤ 10 ^ 18)
    (small : exponent ≤ 308) (bounded : significand * Nat.pow 10 exponent ≤ greatest) :
    productMagnitude significand (Nat.pow 10 exponent) < infinityMagnitude := by
  by_cases smaller : exponent ≤ 290
  · obtain ⟨last, isLast, finite⟩ := exists_productMagnitude_lt
    exact Nat.lt_of_le_of_lt (productMagnitude_mono short (pow_mono (isLast ▸ smaller))) finite
  · obtain ⟨more, rfl⟩ := Nat.exists_eq_add_of_le (Nat.lt_of_not_le smaller)
    have positive : 0 < Nat.pow 10 (291 + more) := Nat.pow_pos (by decide)
    exact Nat.lt_of_le_of_lt
      (productMagnitude_mono ((Nat.le_div_iff_mul_le positive).mpr bounded) (Nat.le_refl _))
      (productMagnitude_greatest_lt ⟨more, by omega⟩)

theorem isFinite_ofNat_of_le_limit {significand : Nat} (bounded : significand ≤ significandLimit) :
    (ofNat significand).isFinite = true :=
  isFinite_ofNat bounded (by decide +kernel)

theorem isFinite_powerOfTen {exponent : Nat} (small : exponent ≤ 308) :
    (powerOfTen exponent).isFinite = true :=
  isFinite_ofNat (Nat.pow_le_pow_right (by decide) small) (by decide +kernel)

theorem le_units_powerOfTen (exponent : Nat) : unitsInOne ≤ (powerOfTen exponent).units :=
  le_units_ofNat (Nat.pow_pos (by decide))

theorem units_powerOfTen_pos (exponent : Nat) : 0 < (powerOfTen exponent).units :=
  unitsInOne_pos.trans_le (le_units_powerOfTen exponent)

theorem isZero_powerOfTen (exponent : Nat) : (powerOfTen exponent).isZero = false :=
  isZero_of_units_pos (units_powerOfTen_pos exponent)

theorem isFinite_div_powerOfTen {x : Binary64} (finite : x.isFinite = true) {exponent : Nat}
    (small : exponent ≤ 308) : (x.div (powerOfTen exponent)).isFinite = true := by
  have bounded : x.magnitude < infinityMagnitude := of_decide_eq_true finite
  exact decide_eq_true (Nat.lt_of_le_of_lt
    (magnitude_div_le finite (isFinite_powerOfTen small) (le_units_powerOfTen exponent)) bounded)

theorem isFinite_divideByPower (fuel : Nat) {x : Binary64} (finite : x.isFinite = true)
    (exponent : Nat) : (divideByPower fuel x exponent).isFinite = true := by
  induction fuel generalizing x exponent with
  | zero => exact finite
  | succ fuel induction =>
      rw [divideByPower]
      split
      · next small => exact isFinite_div_powerOfTen finite small
      · split
        · exact finite
        · exact induction (isFinite_div_powerOfTen finite (Nat.le_refl _)) _

theorem exists_scaled_down {significand : Nat} (bounded : significand ≤ significandLimit)
    {exponent : Int} (down : exponent < 0) :
    ∃ x, scaled significand exponent = .ok x ∧ x.isFinite = true :=
  ⟨_, if_pos down, isFinite_divideByPower 4 (isFinite_ofNat_of_le_limit bounded) _⟩

theorem exponent_le_of_le_greatest {significand exponent : Nat} (positive : significand ≠ 0)
    (bounded : significand * Nat.pow 10 exponent ≤ greatest) : exponent ≤ 308 := by
  by_contra large
  obtain ⟨first, isFirst, beyond⟩ := exists_greatest_lt
  have power : Nat.pow 10 first ≤ Nat.pow 10 exponent := pow_mono (by omega)
  have times := Nat.le_mul_of_pos_left (Nat.pow 10 exponent) (Nat.pos_of_ne_zero positive)
  omega

/-- A numeral that is not above the greatest double stands for a double. -/
theorem exists_scaled {significand : Nat} {exponent : Int} (positive : significand ≠ 0)
    (short : significand ≤ 10 ^ 18)
    (bounded : 0 ≤ exponent → significand * Nat.pow 10 exponent.toNat ≤ greatest) :
    ∃ x, scaled significand exponent = .ok x ∧ x.isFinite = true := by
  by_cases down : exponent < 0
  · exact exists_scaled_down (Nat.le_trans short (by decide)) down
  · have bounded := bounded (by omega)
    have small := exponent_le_of_le_greatest positive bounded
    have isFinite := isFinite_ofNat_of_le_limit (Nat.le_trans short (by decide))
    have product := productMagnitude_lt short small bounded
    have sameExponent : exponent.natAbs = exponent.toNat := by omega
    have magnitude : ((ofNat significand).mul (powerOfTen exponent.natAbs)).magnitude <
        infinityMagnitude := by
      rw [sameExponent, magnitude_mul isFinite (isFinite_powerOfTen small)]
      simp only [units, ofNat, powerOfTen, magnitude_ofRatio]
      exact product
    have finite : ((ofNat significand).mul (powerOfTen exponent.natAbs)).isInfinite = false :=
      decide_eq_false (Nat.ne_of_lt magnitude)
    refine ⟨_, ?_, decide_eq_true magnitude⟩
    simp only [scaled, if_neg down, if_pos (by omega : exponent ≤ 308), finite,
      Bool.false_eq_true, if_false]

theorem shortest_greatest :
    (Decimal.shortest .toEven (infinityMagnitude - 1)).coefficient *
      Nat.pow 10 (Decimal.shortest .toEven (infinityMagnitude - 1)).exponent.toNat ≤ greatest := by
  decide +kernel

theorem shortest_le_greatest {magnitude : Nat} (positive : 0 < magnitude)
    (finite : magnitude < infinityMagnitude)
    (up : 0 ≤ (Decimal.shortest .toEven magnitude).exponent) :
    (Decimal.shortest .toEven magnitude).coefficient *
      Nat.pow 10 (Decimal.shortest .toEven magnitude).exponent.toNat ≤ greatest := by
  by_cases last : magnitude = infinityMagnitude - 1
  · rw [last]
    exact shortest_greatest
  · have within := (Decimal.fits_shortest positive .toEven).within
    have atMost := (Decimal.Grid.contains_iff.mp within).1.2
    generalize Decimal.shortest .toEven magnitude = decimal at *
    have unscaled : (-decimal.exponent).toNat = 0 := by omega
    have value := unitsOf_mono (by omega : magnitude ≤ infinityMagnitude - 1)
    have next := unitsOf_mono (by omega : magnitude + 1 ≤ infinityMagnitude - 1)
    have units : decimal.coefficient * (2 * unitsInOne * Nat.pow 10 decimal.exponent.toNat) ≤
        unitsOf magnitude + unitsOf (magnitude + 1) := by
      simpa [Decimal.Grid.ofExponent, Decimal.Interval.ofMagnitude, unscaled] using atMost
    rw [greatest, Nat.le_div_iff_mul_le unitsInOne_pos]
    have twice : decimal.coefficient * (2 * unitsInOne * Nat.pow 10 decimal.exponent.toNat) =
        2 * (decimal.coefficient * Nat.pow 10 decimal.exponent.toNat * unitsInOne) := by
      ring
    omega

/-- What can be written of a positive double and read again. -/
structure Readable (decimal : Decimal) : Prop where
  positive : decimal.coefficient ≠ 0
  short : decimal.coefficient ≤ 10 ^ 18
  bounded : 0 ≤ decimal.exponent →
    decimal.coefficient * Nat.pow 10 decimal.exponent.toNat ≤ greatest
  above : -418 ≤ decimal.exponent

theorem readable_shortest {magnitude : Nat} (positive : 0 < magnitude)
    (finite : magnitude < infinityMagnitude) : Readable (Decimal.shortest .toEven magnitude) where
  positive := (Decimal.fits_shortest positive .toEven).positive
  short := (Decimal.fits_shortest positive .toEven).short
  bounded := shortest_le_greatest positive finite
  above := Decimal.le_exponent_shortest .toEven magnitude

end Scaling

section Reading

variable {negative : Bool} {significand : Nat} {exponent start : Int} {written rest : Bytes}
  {x : Binary64}

/-- Nothing, or what comes behind a value. -/
def Closes (rest : Bytes) : Prop := rest = [] ∨ Stops rest

theorem Closes.endsDigits (closes : Closes rest) : EndsDigits rest := by
  rcases closes with rfl | stops
  · intro byte first
    cases first
  · exact stops.endsDigits

theorem readScaled_ok (fine : scaled significand exponent = .ok x) (rest : Bytes) :
    readScaled negative significand exponent rest = .ok (signed negative x, rest) := by
  rw [readScaled, fine]
  rfl

theorem readTail_closes (closes : Closes rest) :
    readTail negative significand exponent rest =
      readScaled negative significand exponent rest := by
  rcases closes with rfl | ⟨byte, tail, rfl, delimiter⟩
  · rfl
  · have other := (of_isDelimiter delimiter).1
    simp only [isNumberByte, Bool.or_eq_false_iff, decide_eq_false_iff_not] at other
    obtain ⟨⟨-, notSmall⟩, notLarge⟩ := other
    simp [readTail, notSmall, notLarge]

theorem readFraction_digits (digits : ∀ byte ∈ written, isDigit byte = true)
    (some : written ≠ []) (bounded : fold significand written ≤ significandLimit)
    (ends : EndsDigits rest) :
    readFraction negative significand start (written ++ rest) =
      readTail negative (fold significand written) (start - written.length) rest := by
  have taken := accumulate_append digits significand 0 bounded rest
  rw [accumulate_endsDigits ends, Nat.zero_add] at taken
  have notNone : written.length ≠ 0 := fun none => some (List.length_eq_zero_iff.mp none)
  cases rest with
  | nil => simp only [readFraction, taken, notNone, if_false]
  | cons byte tail =>
      simp only [readFraction, taken, ends byte rfl, notNone, Bool.false_eq_true, if_false]

theorem readShort_point (rest : Bytes) :
    readShort negative significand (ascii '.' :: rest) = readFraction negative significand 0 rest :=
  rfl

theorem readShort_mark (rest : Bytes) :
    readShort negative significand (ascii 'e' :: rest) = readPower negative significand 0 rest :=
  rfl

theorem readTail_mark (rest : Bytes) :
    readTail negative significand exponent (ascii 'e' :: rest) =
      readPower negative significand exponent rest := rfl

theorem readUnsigned_zero_point (rest : Bytes) :
    readUnsigned negative (ascii '0' :: ascii '.' :: rest) = readFraction negative 0 0 rest := by
  rw [readUnsigned.eq_def]
  rfl

def powerBytes (power : Int) : Bytes :=
  (if power < 0 then ascii '-' else ascii '+') :: digitBytes power.natAbs

theorem digitBytes_ne_nil (number : Nat) : digitBytes number ≠ [] := by
  by_cases none : number = 0
  · rw [none]
    decide
  · obtain ⟨first, more, written, -⟩ := digitBytes_cons none
    simp [written]

theorem readPower_powerBytes {power : Int} (small : power.natAbs ≤ exponentLimit)
    (fine : scaled significand (start + power) = .ok x) (closes : Closes rest) :
    readPower negative significand start (powerBytes power ++ rest) =
      .ok (signed negative x, rest) := by
  have digits := isDigit_of_mem_digitBytes power.natAbs
  have value := fold_digitBytes power.natAbs
  obtain ⟨taken, left⟩ := Text.takeWhile_run digits closes.endsDigits
  obtain ⟨first, more, isWritten⟩ := List.exists_cons_of_ne_nil (digitBytes_ne_nil power.natAbs)
  have digit : isDigit first = true := digits first (by rw [isWritten]; simp)
  have within : ¬ exponentLimit < power.natAbs := Nat.not_lt.mpr small
  rw [fold] at value
  rw [powerBytes, List.cons_append]
  rw [isWritten, List.cons_append] at taken left ⊢
  rw [isWritten] at value
  split
  · next down =>
      have sum : start - (power.natAbs : Int) = start + power := by omega
      simp only [readPower, if_neg (by decide : ¬ ascii '-' = ascii '+'), if_true, digit,
        Bool.not_true, Bool.false_eq_true, if_false, taken, left, value, sum, if_neg within]
      exact readScaled_ok fine rest
  · next up =>
      have sum : start + (power.natAbs : Int) = start + power := by omega
      simp only [readPower, if_true, digit,
        Bool.not_true, Bool.false_eq_true, if_false, taken, left, value, sum, if_neg within]
      exact readScaled_ok fine rest

end Reading

/-- What reads as a double, with the sign in front of it, whatever comes behind. -/
structure Reads (written : Bytes) (x : Binary64) : Prop where
  digit : ∃ first more, written = first :: more ∧ isDigit first = true
  read : ∀ negative rest, Closes rest →
    readUnsigned negative (written ++ rest) = .ok (signed negative x, rest)

section Forms

variable {first : UInt8} {more fraction : Bytes} {x : Binary64}

theorem reads_fraction (notZero : first ≠ ascii '0')
    (digits : ∀ byte ∈ first :: more ++ fraction, isDigit byte = true) (some : fraction ≠ [])
    (bounded : fold 0 (first :: more ++ fraction) ≤ significandLimit)
    (fine : scaled (fold 0 (first :: more ++ fraction)) (-fraction.length) = .ok x) :
    Reads (first :: more ++ ascii '.' :: fraction) x where
  digit := ⟨first, _, rfl, digits first (by simp)⟩
  read negative rest closes := by
    rw [fold_append] at bounded fine
    have whole := Nat.le_trans (le_fold _ _) bounded
    have point : EndsDigits (ascii '.' :: (fraction ++ rest)) := .cons (by decide) _
    have shape : first :: more ++ ascii '.' :: fraction ++ rest =
        first :: more ++ ascii '.' :: (fraction ++ rest) := by simp
    rw [shape, readUnsigned_whole notZero
      (fun byte member => digits byte (List.mem_append_left _ member)) whole point,
      readShort_point, readFraction_digits
      (fun byte member => digits byte (List.mem_append_right _ member)) some bounded
      closes.endsDigits, readTail_closes closes, Int.zero_sub, readScaled_ok fine]

theorem reads_small (digits : ∀ byte ∈ fraction, isDigit byte = true) (some : fraction ≠ [])
    (bounded : fold 0 fraction ≤ significandLimit)
    (fine : scaled (fold 0 fraction) (-fraction.length) = .ok x) :
    Reads (ascii '0' :: ascii '.' :: fraction) x where
  digit := ⟨ascii '0', _, rfl, by decide⟩
  read negative rest closes := by
    rw [List.cons_append, List.cons_append, readUnsigned_zero_point,
      readFraction_digits digits some bounded closes.endsDigits, readTail_closes closes,
      Int.zero_sub, readScaled_ok fine]

/-- The digits behind the first one, behind a point if there are any. -/
def pointed : Bytes → Bytes
  | [] => []
  | byte :: more => ascii '.' :: byte :: more

theorem reads_scientific (notZero : first ≠ ascii '0')
    (digits : ∀ byte ∈ first :: more, isDigit byte = true)
    (bounded : fold 0 (first :: more) ≤ significandLimit) {power : Int}
    (small : power.natAbs ≤ exponentLimit)
    (fine : scaled (fold 0 (first :: more)) (power - more.length) = .ok x) :
    Reads (first :: pointed more ++ ascii 'e' :: powerBytes power) x where
  digit := ⟨first, _, rfl, digits first (by simp)⟩
  read negative rest closes := by
    have mark : EndsDigits (ascii 'e' :: (powerBytes power ++ rest)) := .cons (by decide) _
    cases more with
    | nil =>
        have sum : power - ([] : Bytes).length = 0 + power := by simp
        have shape : first :: pointed [] ++ ascii 'e' :: powerBytes power ++ rest =
            [first] ++ ascii 'e' :: (powerBytes power ++ rest) := by simp [pointed]
        rw [sum] at fine
        rw [shape, readUnsigned_whole notZero digits bounded mark, readShort_mark]
        exact readPower_powerBytes small fine closes
    | cons second more =>
        have sum : power - (second :: more).length = 0 - (second :: more).length + power := by
          omega
        rw [sum] at fine
        have split : fold 0 (first :: second :: more) = fold (fold 0 [first]) (second :: more) :=
          fold_append 0 [first] (second :: more)
        have whole : fold 0 [first] ≤ significandLimit :=
          Nat.le_trans (le_fold _ _) (split ▸ bounded)
        have point : EndsDigits (ascii '.' :: (second :: more ++
            ascii 'e' :: (powerBytes power ++ rest))) := .cons (by decide) _
        have shape : first :: pointed (second :: more) ++ ascii 'e' :: powerBytes power ++ rest =
            [first] ++ ascii '.' :: (second :: more ++
              ascii 'e' :: (powerBytes power ++ rest)) := by
          simp [pointed]
        rw [shape, readUnsigned_whole notZero (by simpa using digits first (by simp)) whole point,
          readShort_point, readFraction_digits
          (fun byte member => digits byte (List.mem_cons_of_mem _ member)) (by simp)
          (split ▸ bounded) mark, readTail_mark]
        rw [split] at fine
        exact readPower_powerBytes small fine closes

theorem digitValue_lt {byte : UInt8} (digit : isDigit byte = true) : digitValue byte < 10 := by
  simp only [isDigit, Bool.and_eq_true, decide_eq_true_eq, UInt8.le_iff_toNat_le] at digit
  have upper : byte.toNat ≤ 57 := digit.2
  unfold digitValue
  omega

theorem fold_lt {written : Bytes} (digits : ∀ byte ∈ written, isDigit byte = true)
    (start : Nat) : fold start written < (start + 1) * 10 ^ written.length := by
  induction written generalizing start with
  | nil =>
      show start < (start + 1) * 1
      omega
  | cons byte written induction =>
      have digit := digitValue_lt (digits byte (by simp))
      have step := induction (fun other member => digits other (by simp [member]))
        (start * 10 + digitValue byte)
      calc fold start (byte :: written)
          < (start * 10 + digitValue byte + 1) * 10 ^ written.length := step
        _ ≤ (start + 1) * 10 * 10 ^ written.length := Nat.mul_le_mul_right _ (by omega)
        _ = (start + 1) * 10 ^ (byte :: written).length := by
            rw [List.length_cons, Nat.pow_succ, Nat.mul_assoc, Nat.mul_comm 10]

theorem fold_zeros (start count : Nat) :
    fold start (List.replicate count (ascii '0')) = start * Nat.pow 10 count := by
  induction count generalizing start with
  | zero => exact (Nat.mul_one start).symm
  | succ count induction =>
      have tenfold : Nat.pow 10 (count + 1) = 10 * Nat.pow 10 count := Nat.pow_succ'
      rw [List.replicate_succ, tenfold, ← Nat.mul_assoc]
      exact induction (start * 10)

theorem isDigit_of_mem_zeros {count : Nat} :
    ∀ byte ∈ List.replicate count (ascii '0'), isDigit byte = true := by
  intro byte member
  rw [List.eq_of_mem_replicate member]
  decide

end Forms

namespace Readable

variable {decimal : Decimal} {x : Binary64}

theorem le_significandLimit (readable : Readable decimal) :
    decimal.coefficient ≤ significandLimit :=
  Nat.le_trans readable.short (by decide)

theorem length_le (readable : Readable decimal) :
    (digitBytes decimal.coefficient).length ≤ 19 := by
  have width := Decimal.pow_length_digits_le readable.positive
  rw [digitBytes, List.length_map]
  by_contra long
  have power : 10 ^ 19 ≤ 10 ^ ((Decimal.digits decimal.coefficient).length - 1) :=
    Nat.pow_le_pow_right (by decide) (by omega)
  have short := readable.short
  omega

/-- A whole number with a point and a zero behind it. -/
def widened (decimal : Decimal) : Decimal :=
  ⟨decimal.coefficient * Nat.pow 10 (decimal.exponent.toNat + 1), -1⟩

theorem fold_widened (decimal : Decimal) :
    fold 0 (digitBytes decimal.coefficient ++
      List.replicate (decimal.exponent.toNat + 1) (ascii '0')) = (widened decimal).coefficient := by
  rw [fold_append, fold_digitBytes, fold_zeros]
  rfl

theorem isDigit_widened (decimal : Decimal) : ∀ byte ∈ digitBytes decimal.coefficient ++
    List.replicate (decimal.exponent.toNat + 1) (ascii '0'), isDigit byte = true := by
  intro byte member
  rcases List.mem_append.mp member with early | late
  · exact isDigit_of_mem_digitBytes decimal.coefficient byte early
  · exact isDigit_of_mem_zeros byte late

theorem widened_le (up : 0 ≤ decimal.exponent)
    (short : (digitBytes decimal.coefficient).length + decimal.exponent ≤ 16) :
    (widened decimal).coefficient ≤ significandLimit := by
  have width : (digitBytes decimal.coefficient ++
      List.replicate (decimal.exponent.toNat + 1) (ascii '0')).length ≤ 17 := by
    rw [List.length_append, List.length_replicate]
    omega
  rw [← fold_widened]
  calc fold 0 (digitBytes decimal.coefficient ++
        List.replicate (decimal.exponent.toNat + 1) (ascii '0'))
      ≤ (0 + 1) * 10 ^ (digitBytes decimal.coefficient ++
          List.replicate (decimal.exponent.toNat + 1) (ascii '0')).length :=
        Nat.le_of_lt (fold_lt (isDigit_widened decimal) 0)
    _ ≤ 1 * 10 ^ 17 := Nat.mul_le_mul_left _ (Nat.pow_le_pow_right (by decide) width)
    _ ≤ significandLimit := by decide

theorem reads_whole (readable : Readable decimal) (up : 0 ≤ decimal.exponent)
    (short : (digitBytes decimal.coefficient).length + decimal.exponent ≤ 16)
    (fine : scaled (widened decimal).coefficient (widened decimal).exponent = .ok x) :
    Reads ((Decimal.positional decimal).map ascii ++ [ascii '.', ascii '0']) x := by
  obtain ⟨first, more, isWritten, notZero⟩ := digitBytes_cons readable.positive
  have shape : (Decimal.positional decimal).map ascii =
      first :: (more ++ List.replicate decimal.exponent.toNat (ascii '0')) := by
    rw [Decimal.positional, if_pos up, List.map_append, ← List.cons_append, ← isWritten,
      Decimal.zeros, List.map_replicate]
    rfl
  have all : first :: (more ++ List.replicate decimal.exponent.toNat (ascii '0')) ++ [ascii '0'] =
      digitBytes decimal.coefficient ++
        List.replicate (decimal.exponent.toNat + 1) (ascii '0') := by
    rw [isWritten, List.replicate_succ']
    simp
  have value := fold_widened decimal
  have digits := isDigit_widened decimal
  rw [← all] at value digits
  rw [shape]
  refine reads_fraction notZero digits (by simp) ?_ ?_
  · rw [value]
    exact widened_le up short
  · rw [value]
    exact fine

/-- A point among the digits, so that there are some on both sides. -/
theorem reads_inside (readable : Readable decimal) (down : decimal.exponent < 0)
    (inside : 0 < ((digitBytes decimal.coefficient).length + decimal.exponent))
    (fine : scaled decimal.coefficient decimal.exponent = .ok x) :
    Reads (((Decimal.digits decimal.coefficient).take
        ((digitBytes decimal.coefficient).length + decimal.exponent).toNat ++
      '.' :: (Decimal.digits decimal.coefficient).drop
        ((digitBytes decimal.coefficient).length + decimal.exponent).toNat).map ascii) x := by
  obtain ⟨first, more, isWritten, notZero⟩ := digitBytes_cons readable.positive
  have digits := isDigit_of_mem_digitBytes decimal.coefficient
  have value := fold_digitBytes decimal.coefficient
  obtain ⟨whole, isWhole⟩ : ∃ whole : Nat,
      ((digitBytes decimal.coefficient).length + decimal.exponent).toNat = whole + 1 :=
    ⟨_, (Nat.succ_pred_eq_of_pos (by omega)).symm⟩
  have shape : ((Decimal.digits decimal.coefficient).take (whole + 1) ++
        '.' :: (Decimal.digits decimal.coefficient).drop (whole + 1)).map ascii =
      first :: more.take whole ++ ascii '.' :: more.drop whole := by
    rw [List.map_append, List.map_cons, List.map_take, List.map_drop, ← digitBytes, isWritten,
      List.take_succ_cons, List.drop_succ_cons]
  have all : first :: more.take whole ++ more.drop whole = digitBytes decimal.coefficient := by
    rw [List.cons_append, List.take_append_drop, isWritten]
  rw [isWritten, List.length_cons] at isWhole
  have some : more.drop whole ≠ [] := by
    intro none
    have width := List.drop_eq_nil_iff.mp none
    omega
  have behind : -((more.drop whole).length : Int) = decimal.exponent := by
    rw [List.length_drop]
    omega
  rw [isWritten, List.length_cons, isWhole, shape]
  exact reads_fraction notZero (all.symm ▸ digits) some
    (by rw [all, value]; exact readable.le_significandLimit)
    (by rw [all, value, behind]; exact fine)

/-- A point in front of all digits, with a zero before it and perhaps some behind it. -/
theorem reads_outside (readable : Readable decimal)
    (outside : ¬ 0 < ((digitBytes decimal.coefficient).length + decimal.exponent))
    (fine : scaled decimal.coefficient decimal.exponent = .ok x) :
    Reads (('0' :: '.' :: Decimal.zeros
        (-((digitBytes decimal.coefficient).length + decimal.exponent)) ++
      Decimal.digits decimal.coefficient).map ascii) x := by
  have shape : ('0' :: '.' :: Decimal.zeros
        (-((digitBytes decimal.coefficient).length + decimal.exponent)) ++
      Decimal.digits decimal.coefficient).map ascii =
      ascii '0' :: ascii '.' :: (List.replicate
        (-((digitBytes decimal.coefficient).length + decimal.exponent)).toNat (ascii '0') ++
          digitBytes decimal.coefficient) := by
    simp [Decimal.zeros, digitBytes]
  have number : fold 0 (List.replicate
        (-((digitBytes decimal.coefficient).length + decimal.exponent)).toNat (ascii '0') ++
          digitBytes decimal.coefficient) = decimal.coefficient := by
    rw [fold_append, fold_zeros, Nat.zero_mul, fold_digitBytes]
  have behind : -((List.replicate
        (-((digitBytes decimal.coefficient).length + decimal.exponent)).toNat (ascii '0') ++
          digitBytes decimal.coefficient).length : Int) = decimal.exponent := by
    rw [List.length_append, List.length_replicate]
    omega
  rw [shape]
  refine reads_small (fun byte member => ?_) ?_ ?_ ?_
  · rcases List.mem_append.mp member with zero | digit
    · exact isDigit_of_mem_zeros byte zero
    · exact isDigit_of_mem_digitBytes decimal.coefficient byte digit
  · exact fun none => digitBytes_ne_nil _ (List.append_eq_nil_iff.mp none).2
  · rw [number]
    exact readable.le_significandLimit
  · rw [number, behind]
    exact fine

theorem reads_pointed (readable : Readable decimal) (down : decimal.exponent < 0)
    (fine : scaled decimal.coefficient decimal.exponent = .ok x) :
    Reads ((Decimal.positional decimal).map ascii) x := by
  have length : (Decimal.digits decimal.coefficient).length =
      (digitBytes decimal.coefficient).length := by
    rw [digitBytes, List.length_map]
  simp only [Decimal.positional, if_neg (by omega : ¬ 0 ≤ decimal.exponent), length]
  split
  · next inside => exact reads_inside readable down inside fine
  · next outside => exact reads_outside readable outside fine

theorem reads_scientific (readable : Readable decimal)
    (fine : scaled decimal.coefficient decimal.exponent = .ok x) :
    Reads ((Decimal.scientific decimal).map ascii) x := by
  obtain ⟨first, more, isWritten, notZero⟩ := digitBytes_cons readable.positive
  have digits := isDigit_of_mem_digitBytes decimal.coefficient
  have value := fold_digitBytes decimal.coefficient
  have bounded := readable.le_significandLimit
  have width := readable.length_le
  have length : (Decimal.digits decimal.coefficient).length = more.length + 1 := by
    rw [← List.length_cons, ← isWritten, digitBytes, List.length_map]
  have shape : (Decimal.scientific decimal).map ascii =
      first :: pointed more ++ ascii 'e' :: powerBytes (more.length + decimal.exponent) := by
    obtain ⟨leading, others, written, rfl, rfl⟩ := List.map_eq_cons_iff.mp isWritten
    have power : ((Decimal.digits decimal.coefficient).length : Int) + decimal.exponent - 1 =
        (others.map ascii).length + decimal.exponent := by
      rw [length]
      omega
    simp only [Decimal.scientific, power]
    rw [written, powerBytes, digitBytes]
    cases others <;> simp [pointed] <;> split <;> rfl
  have small : ((more.length : Int) + decimal.exponent).natAbs ≤ exponentLimit := by
    have limit : exponentLimit = 0x7FFFFFFF := rfl
    have above := readable.above
    rw [isWritten, List.length_cons] at width
    by_cases up : 0 ≤ decimal.exponent
    · have := exponent_le_of_le_greatest readable.positive (readable.bounded up)
      omega
    · omega
  have sum : (more.length : Int) + decimal.exponent - more.length = decimal.exponent := by omega
  rw [isWritten] at digits value
  rw [shape]
  exact Json.reads_scientific notZero digits (by rw [value]; exact bounded) small
    (by rw [value, sum]; exact fine)

end Readable

section

variable {x y : Binary64} {rest : Bytes}

def unsignedChars (x : Binary64) : List Char :=
  if x.isZero then "0.0".toList
  else
    let decimal := Decimal.shortest .toEven x.magnitude
    let point : Int := (Decimal.digits decimal.coefficient).length + decimal.exponent
    if -5 < point ∧ point ≤ 16 then
      Decimal.positional decimal ++ if 0 ≤ decimal.exponent then ".0".toList else []
    else Decimal.scientific decimal

theorem wireChars_eq (x : Binary64) : Decimal.wireChars x = Decimal.sign x ++ unsignedChars x := rfl

/-- The numeral that a reader makes of what is written of a double. -/
def spelled (x : Binary64) : Decimal :=
  if x.isZero then ⟨0, -1⟩
  else
    let decimal := Decimal.shortest .toEven x.magnitude
    let point : Int := (Decimal.digits decimal.coefficient).length + decimal.exponent
    if -5 < point ∧ point ≤ 16 ∧ 0 ≤ decimal.exponent then Readable.widened decimal
    else decimal

theorem exists_scaled_spelled (finite : x.isFinite = true) :
    ∃ y, scaled (spelled x).coefficient (spelled x).exponent = .ok y ∧ y.isFinite = true := by
  unfold spelled
  split
  · exact exists_scaled_down (Nat.zero_le _) (by decide)
  · next notZero =>
      have positive : 0 < x.magnitude :=
        Nat.pos_of_ne_zero fun zero => notZero (decide_eq_true zero)
      have readable := readable_shortest positive (of_decide_eq_true finite)
      generalize Decimal.shortest .toEven x.magnitude = decimal at readable
      simp only []
      split
      · next inside =>
          have short : (digitBytes decimal.coefficient).length + decimal.exponent ≤ 16 := by
            rw [digitBytes, List.length_map]
            exact inside.2.1
          exact exists_scaled_down (Readable.widened_le inside.2.2 short) (Int.negSucc_lt_zero 0)
      · exact exists_scaled readable.positive readable.short readable.bounded

theorem reads_unsignedChars (finite : x.isFinite = true)
    (fine : scaled (spelled x).coefficient (spelled x).exponent = .ok y) :
    Reads ((unsignedChars x).map ascii) y := by
  unfold spelled at fine
  unfold unsignedChars
  split
  · next isZero =>
      rw [if_pos isZero] at fine
      have digits : ∀ byte ∈ [ascii '0'], isDigit byte = true :=
        List.forall_mem_singleton.mpr (by decide)
      exact reads_small digits (by simp) (by decide) fine
  · next notZero =>
      have positive : 0 < x.magnitude :=
        Nat.pos_of_ne_zero fun zero => notZero (decide_eq_true zero)
      have readable := readable_shortest positive (of_decide_eq_true finite)
      rw [if_neg notZero] at fine
      generalize Decimal.shortest .toEven x.magnitude = decimal at readable fine
      simp only [] at fine ⊢
      split
      · next inside =>
          by_cases up : 0 ≤ decimal.exponent
          · rw [if_pos ⟨inside.1, inside.2, up⟩] at fine
            rw [if_pos up, List.map_append]
            exact readable.reads_whole up (by rw [digitBytes, List.length_map]; exact inside.2) fine
          · rw [if_neg fun whole => up whole.2.2] at fine
            rw [if_neg up, List.append_nil]
            exact readable.reads_pointed (by omega) fine
      · next outside =>
          rw [if_neg fun whole => outside ⟨whole.1, whole.2.1⟩] at fine
          exact readable.reads_scientific fine

theorem readNumber_wireChars (finite : x.isFinite = true)
    (fine : scaled (spelled x).coefficient (spelled x).exponent = .ok y) (closes : Closes rest) :
    readNumber ((Decimal.wireChars x).map ascii ++ rest) = .ok (signed x.negative y, rest) := by
  obtain ⟨⟨first, more, isUnsigned, digit⟩, read⟩ := reads_unsignedChars finite fine
  rw [wireChars_eq, List.map_append, List.append_assoc, Decimal.sign]
  cases x.negative with
  | true => exact read true rest closes
  | false =>
      have reads := read false rest closes
      have notMinus : first ≠ ascii '-' := by
        rintro rfl
        exact absurd digit (by decide)
      rw [isUnsigned] at reads ⊢
      simp only [Bool.false_eq_true, if_false, List.map_nil, List.nil_append, List.cons_append,
        readNumber, if_neg notMinus]
      exact reads

theorem exists_opening (finite : x.isFinite = true) :
    ∃ byte tail, (Decimal.wireChars x).map ascii = byte :: tail ∧
      (decide (byte = ascii '-') || isDigit byte) = true := by
  obtain ⟨y, fine, -⟩ := exists_scaled_spelled finite
  obtain ⟨first, more, isUnsigned, digit⟩ := (reads_unsignedChars finite fine).digit
  rw [wireChars_eq, List.map_append, isUnsigned, Decimal.sign]
  cases x.negative with
  | true => exact ⟨ascii '-', first :: more, rfl, by decide⟩
  | false => exact ⟨first, more, rfl, by rw [digit, Bool.or_true]⟩

theorem readBinary64_spelled (finite : x.isFinite = true)
    (fine : scaled (spelled x).coefficient (spelled x).exponent = .ok y) (closes : Closes rest) :
    readBinary64 (writeBinary64 x ++ rest) =
      .ok ((signed x.negative y).toBinary64, rest) := by
  have reads := readNumber_wireChars finite fine closes
  obtain ⟨byte, tail, isWritten, opens⟩ := exists_opening finite
  have number : isNumberByte byte = true := by
    rcases Bool.or_eq_true_iff.mp opens with minus | digit
    · rw [of_decide_eq_true minus]
      decide
    · exact isNumberByte_of_isDigit digit
  rw [writeBinary64, if_pos finite]
  rw [isWritten, List.cons_append] at reads ⊢
  rw [readBinary64, readConverted, afterSpace_cons _ (of_isNumberByte number).1]
  simp only [opens, if_true, reads, bind, Except.bind]

/-- The double that is read where a finite one was written. -/
def reread (x : Binary64) : Binary64 :=
  ((decode readBinary64 (writeBinary64 x)).toOption).getD x

theorem decode_spelled (finite : x.isFinite = true)
    (fine : scaled (spelled x).coefficient (spelled x).exponent = .ok y) :
    decode readBinary64 (writeBinary64 x) = .ok (signed x.negative y).toBinary64 := by
  have reads := readBinary64_spelled finite fine (.inl rfl)
  rw [List.append_nil] at reads
  simp only [decode, reads, bind, Except.bind]
  rfl

theorem reread_eq (finite : x.isFinite = true)
    (fine : scaled (spelled x).coefficient (spelled x).exponent = .ok y) :
    reread x = if x.negative then y.neg else y := by
  rw [reread, decode_spelled finite fine]
  rfl

theorem decode_writeBinary64 (finite : x.isFinite = true) :
    decode readBinary64 (writeBinary64 x) = .ok (reread x) := by
  obtain ⟨y, fine, -⟩ := exists_scaled_spelled finite
  rw [decode_spelled finite fine, reread_eq finite fine]
  rfl

theorem isFinite_reread (finite : x.isFinite = true) : (reread x).isFinite = true := by
  obtain ⟨y, fine, isFinite⟩ := exists_scaled_spelled finite
  rw [reread_eq finite fine]
  split
  · exact (Binary64.isFinite_neg y).trans isFinite
  · exact isFinite

theorem readBinary64_writeBinary64 (finite : x.isFinite = true) (closes : Closes rest) :
    readBinary64 (writeBinary64 x ++ rest) = .ok (reread x, rest) := by
  obtain ⟨y, fine, -⟩ := exists_scaled_spelled finite
  rw [readBinary64_spelled finite fine closes, reread_eq finite fine]
  rfl

/-- What is read of any double: one that is no number was written as nothing. -/
def reread? (x : Binary64) : Option Binary64 := if x.isFinite then some (reread x) else none

theorem reread?_of_isFinite (finite : x.isFinite = true) : reread? x = some (reread x) :=
  if_pos finite

theorem readOptional_writeBinary64 (x : Binary64) (stops : Stops rest) :
    readOptional readBinary64 (writeBinary64 x ++ rest) = .ok (reread? x, rest) := by
  unfold reread?
  cases finite : x.isFinite with
  | false =>
      rw [writeBinary64, finite]
      rfl
  | true =>
      have reads := readBinary64_writeBinary64 finite (.inr stops)
      obtain ⟨byte, tail, same, visible, notNull⟩ :=
        exists_first (isNumberByte_of_mem_writeBinary64 finite) stops
      rw [same] at reads ⊢
      rw [readOptional_of_first readBinary64 visible notNull, reads]
      rfl

end

end Telemetry.Json
