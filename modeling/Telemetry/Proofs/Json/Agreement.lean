import Telemetry.Proofs.Decimal.Numeral

namespace Telemetry

open Telemetry

/-! A number read from JSON and from text. Whole numbers of 64 bits and short ones are read as the
same double, and all others as close ones; a number is refused in JSON only near infinity or beyond.
-/

/-- The same sign, and less than so many doubles between. -/
structure Binary64.IsWithin (steps : Nat) (x y : Binary64) : Prop where
  sign : x.negative = y.negative
  above : x.magnitude ≤ y.magnitude + steps
  below : y.magnitude ≤ x.magnitude + steps

namespace Json

open Binary64

theorem fold_bounds {written : Bytes} (digits : ∀ byte ∈ written, isDigit byte = true)
    (start : Nat) : start * Nat.pow 10 written.length ≤ fold start written ∧
      fold start written ≤ (start + 1) * Nat.pow 10 written.length := by
  refine ⟨?_, (fold_lt digits start).le⟩
  induction written generalizing start with
  | nil => exact (Nat.mul_one start).le
  | cons byte written induction =>
      have rest := induction (fun other member => digits other (List.mem_cons_of_mem _ member))
        (start * 10 + digitValue byte)
      have tenfold : Nat.pow 10 (byte :: written).length = 10 * Nat.pow 10 written.length :=
        Nat.pow_succ'
      calc start * Nat.pow 10 (byte :: written).length
          = start * 10 * Nat.pow 10 written.length := by rw [tenfold, Nat.mul_assoc]
        _ ≤ (start * 10 + digitValue byte) * Nat.pow 10 written.length :=
            Nat.mul_le_mul_right _ (Nat.le_add_right _ _)
        _ ≤ fold start (byte :: written) := rest

/-- A significand that the next digit may push over the limit has more digits than a double. -/
theorem le_of_full {significand : Nat} (full : significandLimit ≤ significand * 10 + 9) :
    2 * leastNormal ≤ significand := by
  rw [significandLimit] at full
  rw [leastNormal]
  omega

namespace Numeral

variable {numeral : Numeral}

theorem coefficient_eq : numeral.decimal.coefficient =
    fold 0 (numeral.wholeBytes ++ numeral.fractionBytes) := by
  have digits : ∀ c ∈ Decimal.digits numeral.whole ++ numeral.fraction,
      Decimal.isDigit c = true := by
    intro c member
    rcases List.mem_append.mp member with early | late
    · exact Decimal.isDigit_of_mem_digits early
    · exact numeral.areDigits c late
  have value := fold_map_ascii digits []
  rw [List.map_append] at value
  exact value.symm

/-- What is kept of a number, in order: digits in front of the point and digits behind it. Where one
is left out, the significand is full by then. -/
structure Keeps (numeral : Numeral) (kept dropped keptBehind droppedBehind : Bytes) : Prop where
  whole : numeral.wholeBytes = kept ++ dropped
  fraction : numeral.fractionBytes = keptBehind ++ droppedBehind
  lead : numeral.lead = fold 0 kept
  isDropped : numeral.dropped = dropped
  significand : numeral.significand = fold (fold 0 kept) keptBehind
  taken : numeral.taken = keptBehind.length
  bounded : numeral.significand ≤ significandLimit
  full : dropped ≠ [] → significandLimit ≤ numeral.lead * 10 + 9
  fullBehind : droppedBehind ≠ [] → significandLimit ≤ numeral.significand * 10 + 9

theorem exists_keeps (numeral : Numeral) :
    ∃ kept dropped keptBehind droppedBehind,
      numeral.Keeps kept dropped keptBehind droppedBehind := by
  obtain ⟨kept, dropped, whole, accumulated, bounded, full⟩ :=
    exists_kept (isDigit_of_mem_digitBytes numeral.whole) 0 0 (Nat.zero_le _)
  obtain ⟨keptBehind, droppedBehind, fraction, accumulatedBehind, boundedBehind, fullBehind⟩ :=
    exists_kept numeral.isDigit_fractionBytes _ 0 bounded
  have lead : numeral.lead = fold 0 kept := by rw [lead, wholeBytes, accumulated]
  have significand : numeral.significand = fold (fold 0 kept) keptBehind := by
    rw [significand, lead, accumulatedBehind]
  refine ⟨kept, dropped, keptBehind, droppedBehind, whole, fraction, lead, ?_, significand, ?_, ?_,
    ?_, ?_⟩
  · rw [Numeral.dropped, wholeBytes, accumulated]
  · rw [taken, lead, accumulatedBehind]
    exact Nat.zero_add _
  · rw [significand]
    exact boundedBehind
  · rw [lead]
    exact full
  · rw [significand]
    exact fullBehind

namespace Keeps

variable {kept dropped keptBehind droppedBehind : Bytes}
  (keeps : numeral.Keeps kept dropped keptBehind droppedBehind)

include keeps

theorem start_add : numeral.start + numeral.fraction.length =
    (dropped.length + droppedBehind.length : Nat) := by
  have length := congrArg List.length keeps.fraction
  rw [fractionBytes, List.length_map, List.length_append] at length
  rw [start, keeps.isDropped, keeps.taken]
  omega

theorem coefficient : numeral.decimal.coefficient =
    fold (fold (fold (fold 0 kept) dropped) keptBehind) droppedBehind := by
  rw [coefficient_eq, keeps.whole, keeps.fraction, fold_append, fold_append, fold_append]

theorem isDigit_behind : (∀ byte ∈ keptBehind, isDigit byte = true) ∧
    ∀ byte ∈ droppedBehind, isDigit byte = true := by
  have digits := numeral.isDigit_fractionBytes
  rw [keeps.fraction] at digits
  exact ⟨fun byte member => digits byte (List.mem_append_left _ member),
    fun byte member => digits byte (List.mem_append_right _ member)⟩

theorem sharesLead_of_dropped (some : dropped ≠ []) : Decimal.SharesLead
    (numeral.significand * Nat.pow 10 (dropped.length + droppedBehind.length))
    numeral.decimal.coefficient := by
  have digits := numeral.isDigit_dropped
  rw [keeps.isDropped] at digits
  obtain ⟨digitsBehind, droppedDigits⟩ := keeps.isDigit_behind
  have all : ∀ byte ∈ dropped ++ (keptBehind ++ droppedBehind), isDigit byte = true := by
    intro byte member
    rcases List.mem_append.mp member with front | behind
    · exact digits byte front
    · rcases List.mem_append.mp behind with early | late
      · exact digitsBehind byte early
      · exact droppedDigits byte late
  have significandBounds := fold_bounds digitsBehind (fold 0 kept)
  have coefficientBounds := fold_bounds all (fold 0 kept)
  rw [fold_append, fold_append, ← keeps.coefficient] at coefficientBounds
  rw [← keeps.significand] at significandBounds
  have unit : Nat.pow 10 (dropped ++ (keptBehind ++ droppedBehind)).length =
      Nat.pow 10 keptBehind.length * Nat.pow 10 (dropped.length + droppedBehind.length) := by
    rw [← Decimal.power_add, List.length_append, List.length_append]
    congr 1
    omega
  have large := le_of_full (keeps.full some)
  rw [keeps.lead] at large
  refine ⟨fold 0 kept, _, large, ?_, ?_, coefficientBounds.1, coefficientBounds.2⟩
  · rw [unit, ← Nat.mul_assoc]
    exact Nat.mul_le_mul_right _ significandBounds.1
  · rw [unit, ← Nat.mul_assoc]
    exact Nat.mul_le_mul_right _ significandBounds.2

theorem sharesLead_of_droppedBehind (none : dropped = []) (some : droppedBehind ≠ []) :
    Decimal.SharesLead
      (numeral.significand * Nat.pow 10 (dropped.length + droppedBehind.length))
      numeral.decimal.coefficient := by
  have bounds := fold_bounds keeps.isDigit_behind.2 numeral.significand
  have value := keeps.coefficient
  have nothing : fold (fold 0 kept) [] = fold 0 kept := rfl
  rw [none, nothing, ← keeps.significand] at value
  rw [none, List.length_nil, Nat.zero_add, value]
  exact ⟨numeral.significand, _, le_of_full (keeps.fullBehind some), Nat.le_refl _,
    Nat.mul_le_mul_right _ (Nat.le_succ _), bounds.1, bounds.2⟩

end Keeps

/-- What is kept of the digits of a number: all of them, or as many as have the same lead. -/
theorem exists_places (numeral : Numeral) : ∃ places : Nat,
    numeral.start + numeral.fraction.length = places ∧
      (numeral.decimal.coefficient = numeral.significand ∧ places = 0 ∨
        Decimal.SharesLead (numeral.significand * Nat.pow 10 places)
          numeral.decimal.coefficient) := by
  obtain ⟨kept, dropped, keptBehind, droppedBehind, keeps⟩ := numeral.exists_keeps
  refine ⟨_, keeps.start_add, ?_⟩
  by_cases none : dropped = []
  · by_cases noneBehind : droppedBehind = []
    · have value := keeps.coefficient
      rw [none, noneBehind] at value
      exact .inl ⟨value.trans keeps.significand.symm, by rw [none, noneBehind]; rfl⟩
    · exact .inr (keeps.sharesLead_of_droppedBehind none noneBehind)
  · exact .inr (keeps.sharesLead_of_dropped none)

theorem significand_le (numeral : Numeral) : numeral.significand ≤ significandLimit := by
  obtain ⟨_, _, _, _, keeps⟩ := numeral.exists_keeps
  exact keeps.bounded

/-- What is kept of a number lies where the number lies, or close by. -/
theorem toMagnitude_kept (numeral : Numeral) :
    Decimal.toMagnitude ⟨numeral.significand, numeral.start + numeral.exponent⟩ ≤
        Decimal.toMagnitude numeral.decimal + 2 ∧
      Decimal.toMagnitude numeral.decimal ≤
        Decimal.toMagnitude ⟨numeral.significand, numeral.start + numeral.exponent⟩ + 2 := by
  obtain ⟨places, isPlaces, kept⟩ := numeral.exists_places
  have exponent : numeral.start + numeral.exponent =
      numeral.exponent - numeral.fraction.length + places := by omega
  have isDecimal : numeral.decimal =
      ⟨numeral.decimal.coefficient, numeral.exponent - numeral.fraction.length⟩ := rfl
  rw [exponent, ← Decimal.toMagnitude_shift, isDecimal]
  rcases kept with ⟨all, none⟩ | shares
  · rw [all, none]
    have one : Nat.pow 10 0 = 1 := rfl
    rw [one, Nat.mul_one]
    exact ⟨Nat.le_add_right _ _, Nat.le_add_right _ _⟩
  · exact ⟨shares.symm.toMagnitude_le _, shares.toMagnitude_le _⟩

/-- Less digits than make up for a power of ten beyond the limit. -/
def IsBrief (numeral : Numeral) : Prop :=
  numeral.wholeBytes.length + numeral.fraction.length + 330 ≤ exponentLimit

theorem length_coefficient_le (positive : numeral.decimal.coefficient ≠ 0) :
    (Decimal.digits numeral.decimal.coefficient).length ≤
      numeral.wholeBytes.length + numeral.fraction.length := by
  have digits : ∀ byte ∈ numeral.wholeBytes ++ numeral.fractionBytes, isDigit byte = true := by
    intro byte member
    rcases List.mem_append.mp member with whole | fraction
    · exact isDigit_of_mem_digitBytes numeral.whole byte whole
    · exact numeral.isDigit_fractionBytes byte fraction
  have small := fold_lt digits 0
  rw [← coefficient_eq, Nat.zero_add, Nat.one_mul, List.length_append, fractionBytes,
    List.length_map] at small
  have large := Decimal.pow_length_digits_le positive
  by_contra long
  have further : Nat.pow 10 (numeral.wholeBytes.length + numeral.fraction.length) ≤
      Nat.pow 10 ((Decimal.digits numeral.decimal.coefficient).length - 1) := pow_mono (by omega)
  exact absurd small (not_lt.mpr (further.trans large))

theorem significand_eq_zero_iff :
    numeral.significand = 0 ↔ numeral.decimal.coefficient = 0 := by
  obtain ⟨places, -, kept⟩ := numeral.exists_places
  rcases kept with ⟨all, -⟩ | shares
  · rw [all]
  · constructor
    · intro zero
      exact shares.eq_zero (by rw [zero, Nat.zero_mul])
    · intro zero
      have product := shares.symm.eq_zero zero
      exact (Nat.mul_eq_zero.mp product).resolve_right (powerOfTen_pos places).ne'

theorem toMagnitude_of_down {power : Power} (brief : numeral.IsBrief)
    (isPower : numeral.power = some power) (beyond : exponentLimit < power.size)
    (down : power.down = true) : Decimal.toMagnitude numeral.decimal = 0 := by
  rw [IsBrief] at brief
  refine if_pos ?_
  by_cases zero : numeral.decimal.coefficient = 0
  · exact .inl zero
  · have length := length_coefficient_le zero
    have exponent : numeral.decimal.exponent = -power.size - numeral.fraction.length := by
      rw [decimal, Numeral.exponent, isPower, Option.elim_some, Power.exponent, down, if_pos rfl]
    refine .inr ?_
    rw [exponent]
    omega

theorem toMagnitude_of_up {power : Power} (brief : numeral.IsBrief)
    (isPower : numeral.power = some power) (beyond : exponentLimit < power.size)
    (up : power.down = false) (positive : numeral.decimal.coefficient ≠ 0) :
    Decimal.toMagnitude numeral.decimal = infinityMagnitude := by
  rw [IsBrief] at brief
  have exponent : numeral.decimal.exponent = power.size - numeral.fraction.length := by
    rw [decimal, Numeral.exponent, isPower, Option.elim_some, Power.exponent, up,
      if_neg Bool.false_ne_true]
  have notSmall : ¬ (numeral.decimal.coefficient = 0 ∨
      ((Decimal.digits numeral.decimal.coefficient).length : Int) +
        numeral.decimal.exponent < -330) := by
    rw [exponent]
    omega
  have far : 320 < ((Decimal.digits numeral.decimal.coefficient).length : Int) +
      numeral.decimal.exponent := by
    rw [exponent]
    omega
  rw [Decimal.toMagnitude, if_neg notSmall, if_pos far]

/-- What a power of ten makes of the significand: a double close to the number, or none where the
number is close to infinity or beyond. -/
inductive Outcome (numeral : Numeral) : Except Fault Binary64 → Prop where
  | read (x : Binary64) (notNegative : x.negative = false)
      (above : x.magnitude ≤ Decimal.toMagnitude numeral.decimal + 7)
      (below : Decimal.toMagnitude numeral.decimal ≤ x.magnitude + 7) : Outcome numeral (.ok x)
  | refused (fault : Fault)
      (large : infinityMagnitude ≤ Decimal.toMagnitude numeral.decimal + 7) :
      Outcome numeral (.error fault)

theorem outcome_of_scaled {exponent : Int}
    (isExponent : exponent = numeral.start + numeral.exponent) :
    numeral.Outcome (scaled numeral.significand exponent) := by
  have kept := numeral.toMagnitude_kept
  rw [Decimal.toMagnitude_eq, ← isExponent] at kept
  dsimp only at kept
  cases result : scaled numeral.significand exponent with
  | ok x =>
      have near := magnitude_scaled numeral.significand_le result
      exact .read x (negative_scaled numeral.significand_le result) (by omega) (by omega)
  | error fault =>
      have near := le_nearest_of_scaled_error numeral.significand_le result
      exact .refused fault (by omega)

theorem outcome_zero (none : Decimal.toMagnitude numeral.decimal = 0) :
    numeral.Outcome (.ok Binary64.zero) := by
  refine .read Binary64.zero rfl (Nat.zero_le _) ?_
  rw [none]
  exact Nat.zero_le _

theorem outcome_scaledBy (brief : numeral.IsBrief) :
    numeral.Outcome (scaledBy numeral.power numeral.significand numeral.start) := by
  cases isPower : numeral.power with
  | none =>
      have exponent : numeral.exponent = 0 := by rw [Numeral.exponent, isPower]; rfl
      exact outcome_of_scaled (by rw [exponent, Int.add_zero])
  | some power =>
      have exponent : numeral.exponent = power.exponent := by
        rw [Numeral.exponent, isPower]
        rfl
      rw [scaledBy]
      split
      · next beyond =>
          -- The digits are too few to make up for such a power, so the number is zero or infinite.
          cases down : power.down with
          | true =>
              rw [Bool.not_true, Bool.and_false, if_neg Bool.false_ne_true]
              exact outcome_zero (toMagnitude_of_down brief isPower beyond down)
          | false =>
              by_cases zero : numeral.significand = 0
              · have none := Decimal.toMagnitude_of_zero (significand_eq_zero_iff.mp zero)
                simp only [zero, ne_eq, not_true_eq_false, decide_false, Bool.false_and,
                  Bool.false_eq_true, if_false]
                exact outcome_zero none
              · have positive := mt significand_eq_zero_iff.mpr zero
                have infinite := toMagnitude_of_up brief isPower beyond down positive
                simp only [zero, ne_eq, not_false_eq_true, decide_true, Bool.not_false,
                  Bool.and_self, if_true]
                exact .refused _ (by rw [infinite]; exact Nat.le_add_right _ _)
      · exact outcome_of_scaled (by rw [exponent])

theorem magnitude_double (numeral : Numeral) :
    numeral.double.magnitude = Decimal.toMagnitude numeral.decimal :=
  magnitude_ofMagnitude _ (Nat.lt_of_le_of_lt (Decimal.toMagnitude_le _) (by decide))

theorem negative_double (numeral : Numeral) : numeral.double.negative = numeral.negative :=
  negative_ofMagnitude _ (Nat.lt_of_le_of_lt (Decimal.toMagnitude_le _) (by decide))

end Numeral

theorem toBinary64_signed {x : Binary64} (notNegative : x.negative = false) (negative : Bool) :
    (signed negative x).toBinary64.negative = negative ∧
      (signed negative x).toBinary64.magnitude = x.magnitude := by
  cases negative with
  | false => exact ⟨notNegative, rfl⟩
  | true =>
      refine ⟨?_, magnitude_neg x⟩
      show x.neg.negative = true
      rw [negative_neg, notNegative]
      rfl

theorem toBinary64_whole (negative : Bool) (number : Nat) :
    (whole negative number).toBinary64 = ofRatio negative number 1 := by
  rw [whole]
  cases negative with
  | false => rfl
  | true =>
      simp only [Bool.not_true, Bool.false_eq_true, if_false]
      split
      · show (ofNat number).neg = _
        rw [neg, negative_ofNat, ofNat, magnitude_ofRatio]
        rfl
      · next some =>
          have notZero : number ≠ 0 := fun zero => some (by rw [zero]; rfl)
          have below : decide (-(number : Int) < 0) = true := decide_eq_true (by omega)
          show ofInt (-number) = _
          rw [ofInt, below, Int.natAbs_neg, Int.natAbs_natCast]

namespace Numeral

variable {numeral : Numeral}

theorem lead_of_dropped_nil (all : numeral.dropped = []) : numeral.lead = numeral.whole := by
  obtain ⟨kept, dropped, keptBehind, droppedBehind, keeps⟩ := numeral.exists_keeps
  have whole := keeps.whole
  rw [← keeps.isDropped, all, List.append_nil] at whole
  rw [keeps.lead, ← whole]
  exact fold_digitBytes numeral.whole

theorem dropped_eq_nil_iff : numeral.dropped = [] ↔ numeral.whole ≤ significandLimit := by
  constructor
  · intro all
    rw [← lead_of_dropped_nil all]
    exact numeral.lead_le
  · intro small
    have value := fold_digitBytes numeral.whole
    have taken := accumulate_append (isDigit_of_mem_digitBytes numeral.whole) 0 0
      (by rw [value]; exact small) []
    rw [List.append_nil] at taken
    rw [dropped, wholeBytes, taken]
    rfl

theorem double_of_isWhole (isWhole : numeral.IsWhole) :
    numeral.double = ofRatio numeral.negative numeral.whole 1 := by
  have isDecimal : numeral.decimal = ⟨numeral.whole, 0⟩ := by
    rw [decimal, Numeral.exponent, isWhole.1, isWhole.2, List.append_nil, Decimal.ofDigits_digits]
    rfl
  have one : Nat.pow 10 0 = 1 := rfl
  rw [double, isDecimal, Decimal.toMagnitude_eq]
  show ofMagnitude _ (nearest (numeral.whole * Nat.pow 10 0) (Nat.pow 10 0)) = _
  rw [one, Nat.mul_one]
  rfl

theorem reading_of_isWhole (isWhole : numeral.IsWhole) (small : numeral.whole ≤ significandLimit) :
    numeral.reading = .ok (Json.whole numeral.negative numeral.whole) := by
  have all := dropped_eq_nil_iff.mpr small
  rw [reading, if_pos ⟨isWhole, all⟩, lead_of_dropped_nil all]

/-- How a number is read: exactly, if it is whole and fits 64 bits, and else with its power of
ten. -/
theorem reading_cases (numeral : Numeral) :
    (numeral.IsWhole ∧ numeral.whole ≤ significandLimit ∧
        numeral.reading = .ok (Json.whole numeral.negative numeral.whole)) ∨
      (¬ (numeral.IsWhole ∧ numeral.whole ≤ significandLimit) ∧
        numeral.reading = (scaledBy numeral.power numeral.significand numeral.start).map
          (signed numeral.negative)) := by
  by_cases fits : numeral.IsWhole ∧ numeral.whole ≤ significandLimit
  · exact .inl ⟨fits.1, fits.2, reading_of_isWhole fits.1 fits.2⟩
  · refine .inr ⟨fits, ?_⟩
    exact if_neg fun whole => fits ⟨whole.1, dropped_eq_nil_iff.mp whole.2⟩

theorem isWithin_of_reading (brief : numeral.IsBrief) {number : Number}
    (reads : numeral.reading = .ok number) : number.toBinary64.IsWithin 7 numeral.double := by
  rcases numeral.reading_cases with ⟨isWhole, -, exact⟩ | ⟨-, inexact⟩
  · rw [exact] at reads
    rw [← Except.ok.inj reads, toBinary64_whole, double_of_isWhole isWhole]
    exact ⟨rfl, Nat.le_add_right _ _, Nat.le_add_right _ _⟩
  · have outcome := outcome_scaledBy brief
    rw [inexact] at reads
    generalize scaledBy numeral.power numeral.significand numeral.start = result at outcome reads
    cases outcome with
    | refused fault large => cases reads
    | read x notNegative above below =>
        obtain ⟨sign, magnitude⟩ := toBinary64_signed notNegative numeral.negative
        rw [← Except.ok.inj reads]
        constructor
        · rw [sign, negative_double]
        · rw [magnitude, magnitude_double]
          exact above
        · rw [magnitude, magnitude_double]
          exact below

theorem le_double_of_reading (brief : numeral.IsBrief) {fault : Fault}
    (refused : numeral.reading = .error fault) :
    infinityMagnitude ≤ numeral.double.magnitude + 7 := by
  rcases numeral.reading_cases with ⟨isWhole, -, exact⟩ | ⟨-, inexact⟩
  · rw [exact] at refused
    cases refused
  · have outcome := outcome_scaledBy brief
    rw [inexact] at refused
    generalize scaledBy numeral.power numeral.significand numeral.start = result at outcome refused
    cases outcome with
    | refused fault large =>
        rw [magnitude_double]
        exact large
    | read x notNegative above below => cases refused

/-- Whole and within 64 bits, or with few digits and a small power of ten. -/
def IsExact (numeral : Numeral) : Prop :=
  numeral.IsWhole ∧ numeral.whole ≤ significandLimit ∨ IsShort numeral.decimal

theorem significand_of_short (small : numeral.decimal.coefficient < 2 * leastNormal) :
    numeral.significand = numeral.decimal.coefficient ∧
      numeral.start = -numeral.fraction.length := by
  obtain ⟨kept, dropped, keptBehind, droppedBehind, keeps⟩ := numeral.exists_keeps
  have value := keeps.coefficient
  have none : dropped = [] := by
    by_contra some
    have large := le_of_full (keeps.full some)
    have grows := (le_fold (fold 0 kept) dropped).trans
      ((le_fold _ keptBehind).trans (le_fold _ droppedBehind))
    rw [keeps.lead] at large
    omega
  have nothing : fold (fold 0 kept) [] = fold 0 kept := rfl
  rw [none, nothing, ← keeps.significand] at value
  have noneBehind : droppedBehind = [] := by
    by_contra some
    have large := le_of_full (keeps.fullBehind some)
    have grows := le_fold numeral.significand droppedBehind
    omega
  have start := keeps.start_add
  rw [noneBehind] at value
  rw [none, noneBehind] at start
  exact ⟨value.symm, by rw [List.length_nil] at start; omega⟩

theorem scaledBy_of_isShort (brief : numeral.IsBrief) (short : IsShort numeral.decimal) :
    scaledBy numeral.power numeral.significand numeral.start =
      scaled numeral.decimal.coefficient numeral.decimal.exponent := by
  obtain ⟨isCoefficient, isStart⟩ := significand_of_short short.1
  rw [isCoefficient, isStart]
  have near := short.2
  rw [IsBrief] at brief
  have isExponent : numeral.decimal.exponent = numeral.exponent - numeral.fraction.length := rfl
  rw [isExponent] at near ⊢
  rw [Numeral.exponent] at near ⊢
  cases isPower : numeral.power with
  | none =>
      have same : (-numeral.fraction.length : Int) = 0 - numeral.fraction.length := by omega
      rw [same]
      rfl
  | some power =>
      have within : ¬ exponentLimit < power.size := by
        rw [isPower, Option.elim_some, Power.exponent] at near
        split at near <;> omega
      have same : (-numeral.fraction.length : Int) + power.exponent =
          power.exponent - numeral.fraction.length := by omega
      rw [scaledBy, if_neg within, same]
      rfl

theorem reading_of_isExact (brief : numeral.IsBrief) (exact : numeral.IsExact) :
    ∃ number, numeral.reading = .ok number ∧ number.toBinary64 = numeral.double := by
  rcases numeral.reading_cases with ⟨isWhole, -, reads⟩ | ⟨inexact, reads⟩
  · exact ⟨_, reads, (toBinary64_whole _ _).trans (double_of_isWhole isWhole).symm⟩
  · have short : IsShort numeral.decimal := exact.resolve_left inexact
    obtain ⟨x, fine, notNegative, magnitude⟩ := exists_scaled_isShort short
    obtain ⟨sign, isMagnitude⟩ := toBinary64_signed notNegative numeral.negative
    refine ⟨signed numeral.negative x, ?_, eq_of_magnitude_eq ?_ ?_⟩
    · rw [reads, scaledBy_of_isShort brief short, fine]
      rfl
    · rw [isMagnitude, magnitude, magnitude_double, Decimal.toMagnitude_eq]
    · rw [sign, negative_double]

theorem isWhole_of_behind_nil (nothing : numeral.behind = []) : numeral.IsWhole := by
  obtain ⟨noFraction, noPower⟩ := List.append_eq_nil_iff.mp nothing
  constructor
  · cases fraction : numeral.fraction with
    | nil => rfl
    | cons c more =>
        rw [fraction] at noFraction
        cases noFraction
  · cases power : numeral.power with
    | none => rfl
    | some power =>
        rw [power] at noPower
        cases noPower

theorem text_eq_minusZero_iff :
    numeral.text = "-0" ↔ numeral.negative = true ∧ numeral.whole = 0 ∧ numeral.IsWhole := by
  obtain ⟨c, more, shape, digit⟩ := numeral.exists_digit
  have asChars : numeral.text = "-0" ↔ numeral.chars = ['-', '0'] := by
    rw [text, ← String.toList_inj, String.toList_ofList]
    rfl
  rw [asChars, chars, signChars]
  cases numeral.negative with
  | false =>
      refine iff_of_false ?_ (by simp)
      rw [if_neg Bool.false_ne_true, List.nil_append, shape]
      rintro same
      rw [(List.cons.inj same).1] at digit
      exact absurd digit (by decide)
  | true =>
      rw [if_pos rfl, List.singleton_append, List.cons_inj_right]
      constructor
      · intro same
        rcases List.append_eq_singleton_iff.mp same with ⟨none, -⟩ | ⟨zero, nothing⟩
        · exact absurd none numeral.digits_ne_nil
        · exact ⟨rfl, Decimal.digits_injective zero, isWhole_of_behind_nil nothing⟩
      · rintro ⟨-, zero, isWhole⟩
        rw [zero, behind_of_isWhole isWhole]
        rfl

end Numeral

theorem toInt64?_whole (negative : Bool) (number : Nat) :
    (whole negative number).toInt64? =
      if negative = true ∧ number = 0 then none
      else if Counter.Fits (if negative then -number else number) then
        some (Int64.ofInt (if negative then -number else number))
      else none := by
  rw [whole]
  cases negative with
  | false =>
      have fits_iff : Counter.Fits (number : Int) ↔ number < 0x8000000000000000 := by
        rw [Counter.Fits]
        omega
      simp only [Bool.not_false, if_true, Bool.false_eq_true, false_and, if_false, fits_iff]
      rfl
  | true =>
      have fits_iff : Counter.Fits (-number : Int) ↔ ¬ 0x8000000000000000 < number := by
        rw [Counter.Fits]
        omega
      simp only [Bool.not_true, Bool.false_eq_true, if_false, true_and, if_true, fits_iff]
      by_cases zero : number = 0
      · simp only [zero, decide_true, Bool.true_or, if_true]
        rfl
      · by_cases large : 0x8000000000000000 < number
        · simp only [zero, large, decide_true, Bool.or_true, if_true, if_false, not_true_eq_false]
          rfl
        · have within : (-0x8000000000000000 : Int) ≤ -number := by omega
          simp only [zero, large, decide_false, Bool.or_self, Bool.false_eq_true, if_false,
            not_false_eq_true, if_true]
          exact if_pos within

namespace Numeral

variable {numeral : Numeral}

/-- What is read as an integer is the same in JSON and in text, but for minus zero, which JSON reads
as a double. -/
theorem toInt64?_reading (numeral : Numeral) :
    numeral.reading.toOption.bind Number.toInt64? =
      if numeral.text = "-0" then none else Decimal.readInt64? numeral.text := by
  rw [readInt64?_text]
  rcases numeral.reading_cases with ⟨isWhole, -, reads⟩ | ⟨inexact, reads⟩
  · rw [reads]
    show (Json.whole numeral.negative numeral.whole).toInt64? = _
    have minusZero_iff : numeral.text = "-0" ↔ numeral.negative = true ∧ numeral.whole = 0 := by
      rw [text_eq_minusZero_iff, and_iff_left isWhole]
    simp only [toInt64?_whole, minusZero_iff, isWhole, true_and, integer]
  · have unread : numeral.reading.toOption.bind Number.toInt64? = none := by
      rw [reads]
      cases scaledBy numeral.power numeral.significand numeral.start <;> rfl
    have unfit : ¬ (numeral.IsWhole ∧ Counter.Fits numeral.integer) := by
      rintro ⟨isWhole, fits⟩
      refine inexact ⟨isWhole, ?_⟩
      rw [Counter.Fits, integer] at fits
      rw [significandLimit]
      split at fits <;> omega
    rw [unread, if_neg unfit, ite_self]

end Numeral

end Json

end Telemetry
