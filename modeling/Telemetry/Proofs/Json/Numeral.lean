import Telemetry.Proofs.Json.Double

namespace Telemetry.Json

open Telemetry

/-! The numbers of JSON as they are spelled, and what is read of each: digits are kept as long as
they fit, and a whole number that does not fit is read like one with a power of ten. -/

/-- What a number may end with: a mark, perhaps a sign, and some digits. -/
structure Power where
  capital : Bool
  /-- The sign, if there is one: whether it is a minus. -/
  sign : Option Bool
  digits : List Char
  notEmpty : digits ≠ []
  areDigits : ∀ c ∈ digits, Decimal.isDigit c = true

namespace Power

def mark (power : Power) : Char := if power.capital then 'E' else 'e'

def signChars (power : Power) : List Char :=
  match power.sign with
  | none => []
  | some true => ['-']
  | some false => ['+']

def down (power : Power) : Bool := power.sign == some true

def chars (power : Power) : List Char := power.mark :: (power.signChars ++ power.digits)

def size (power : Power) : Nat := Decimal.ofDigits power.digits

def exponent (power : Power) : Int := if power.down then -power.size else power.size

end Power

/-- A number as it is spelled. Its whole part has no zeros in front, and a point stands only in
front of digits. -/
structure Numeral where
  negative : Bool
  whole : Nat
  fraction : List Char
  power : Option Power
  areDigits : ∀ c ∈ fraction, Decimal.isDigit c = true

namespace Numeral

def pointed : List Char → List Char
  | [] => []
  | c :: more => '.' :: c :: more

/-- What follows the whole part. -/
def behind (numeral : Numeral) : List Char :=
  pointed numeral.fraction ++ numeral.power.elim [] Power.chars

def signChars (numeral : Numeral) : List Char := if numeral.negative then ['-'] else []

def chars (numeral : Numeral) : List Char :=
  numeral.signChars ++ (Decimal.digits numeral.whole ++ numeral.behind)

def text (numeral : Numeral) : String := String.ofList numeral.chars

def exponent (numeral : Numeral) : Int := numeral.power.elim 0 Power.exponent

def decimal (numeral : Numeral) : Decimal :=
  ⟨Decimal.ofDigits (Decimal.digits numeral.whole ++ numeral.fraction),
    numeral.exponent - numeral.fraction.length⟩

def IsWhole (numeral : Numeral) : Prop := numeral.fraction = [] ∧ numeral.power = none

instance (numeral : Numeral) : Decidable numeral.IsWhole :=
  decidable_of_iff (numeral.fraction = [] ∧ numeral.power.isNone = true)
    (and_congr_right fun _ => Option.isNone_iff_eq_none)

end Numeral

section Digits

theorem exists_digitChar {c : Char} (digit : Decimal.isDigit c = true) :
    ∃ value : Fin 10, c = Decimal.digitChar value := by
  have bounds : 48 ≤ c.toNat ∧ c.toNat ≤ 57 := by
    simpa [Decimal.isDigit, Char.le_def, UInt32.le_iff_toNat_le] using digit
  refine ⟨⟨c.toNat - 48, by omega⟩, ?_⟩
  have same : 48 + (c.toNat - 48) = c.toNat := by omega
  rw [Decimal.digitChar, same, Char.ofNat_toNat]

theorem ascii_of_isDigit {c : Char} (digit : Decimal.isDigit c = true) :
    isDigit (ascii c) = true ∧ digitValue (ascii c) = Decimal.digitValue c := by
  obtain ⟨value, rfl⟩ := exists_digitChar digit
  have asOctet := ascii_digitChar value
  exact ⟨asOctet.1, asOctet.2.1.trans (Decimal.isDigit_digitChar value).2.symm⟩

theorem isDigit_of_mem_map {written : List Char}
    (digits : ∀ c ∈ written, Decimal.isDigit c = true) :
    ∀ byte ∈ written.map ascii, isDigit byte = true := by
  intro byte member
  obtain ⟨c, isWritten, rfl⟩ := List.mem_map.mp member
  exact (ascii_of_isDigit (digits c isWritten)).1

theorem fold_map_ascii {written : List Char} (digits : ∀ c ∈ written, Decimal.isDigit c = true)
    (front : List Char) :
    fold (Decimal.ofDigits front) (written.map ascii) = Decimal.ofDigits (front ++ written) := by
  induction written generalizing front with
  | nil => rw [List.append_nil]; rfl
  | cons c written induction =>
      have value := (ascii_of_isDigit (digits c List.mem_cons_self)).2
      have next := induction (fun other member => digits other (List.mem_cons_of_mem _ member))
        (front ++ [c])
      rw [List.append_assoc, Decimal.ofDigits_concat] at next
      rw [List.map_cons, fold, List.foldl_cons, value, Nat.mul_comm]
      exact next

end Digits

section Keeping

variable {written rest : Bytes}

theorem accumulate_of_endsDigits (ends : EndsDigits rest) (significand taken : Nat) :
    accumulate significand taken (written ++ rest) =
      ((accumulate significand taken written).1, (accumulate significand taken written).2.1,
        (accumulate significand taken written).2.2 ++ rest) := by
  induction written generalizing significand taken with
  | nil => exact accumulate_endsDigits ends significand taken
  | cons byte written induction =>
      rw [List.cons_append, accumulate, accumulate]
      split
      · exact induction _ _
      · rfl

/-- The digits that are kept, and those that are not: by then the significand is nearly at its
limit. -/
theorem exists_kept (digits : ∀ byte ∈ written, isDigit byte = true) (significand taken : Nat)
    (bounded : significand ≤ significandLimit) :
    ∃ kept dropped, written = kept ++ dropped ∧
      accumulate significand taken written =
        (fold significand kept, taken + kept.length, dropped) ∧
      fold significand kept ≤ significandLimit ∧
      (dropped ≠ [] → significandLimit ≤ fold significand kept * 10 + 9) := by
  induction written generalizing significand taken with
  | nil => exact ⟨[], [], rfl, rfl, bounded, fun some => absurd rfl some⟩
  | cons byte written induction =>
      have digit := digits byte List.mem_cons_self
      by_cases fits : significand * 10 + digitValue byte ≤ significandLimit
      · obtain ⟨kept, dropped, rfl, accumulated, within, full⟩ :=
          induction (fun other member => digits other (List.mem_cons_of_mem _ member))
            (significand * 10 + digitValue byte) (taken + 1) fits
        refine ⟨byte :: kept, dropped, rfl, ?_, within, full⟩
        rw [accumulate]
        simp only [digit, Bool.true_and, decide_eq_true fits, if_true, accumulated,
          List.length_cons, Nat.add_assoc, Nat.add_comm 1]
        rfl
      · refine ⟨[], byte :: written, rfl, ?_, bounded, fun _ => ?_⟩
        · rw [accumulate]
          simp only [digit, Bool.true_and, decide_eq_false fits, Bool.false_eq_true, if_false]
          rfl
        · have value := digitValue_lt digit
          show significandLimit ≤ significand * 10 + 9
          omega

end Keeping

/-- A significand with the power of ten that a number ends with. A power beyond the limit is refused
or leaves nothing. -/
def scaledBy (power : Option Power) (significand : Nat) (start : Int) : Except Fault Binary64 :=
  match power with
  | none => scaled significand start
  | some power =>
    if exponentLimit < power.size then
      if significand ≠ 0 && !power.down then .error .malformed else .ok Binary64.zero
    else scaled significand (start + power.exponent)

section Tails

variable {negative : Bool} {significand : Nat} {start : Int} {rest : Bytes}

def powerChars (power : Option Power) : List Char := power.elim [] Power.chars

theorem Power.mark_eq (power : Power) : power.mark = 'e' ∨ power.mark = 'E' := by
  rw [Power.mark]
  split
  · exact .inr rfl
  · exact .inl rfl

theorem Power.ascii_mark (power : Power) :
    ascii power.mark = ascii 'e' ∨ ascii power.mark = ascii 'E' :=
  power.mark_eq.imp (congrArg ascii) (congrArg ascii)

theorem Power.endsDigits (power : Power) (rest : Bytes) :
    EndsDigits (power.chars.map ascii ++ rest) := by
  apply EndsDigits.cons
  rcases power.ascii_mark with small | capital
  · rw [small]; decide
  · rw [capital]; decide

theorem endsDigits_powerChars (power : Option Power) (closes : Closes rest) :
    EndsDigits ((powerChars power).map ascii ++ rest) := by
  cases power with
  | none => exact closes.endsDigits
  | some power => exact power.endsDigits rest

theorem readScaled_eq (exponent : Int) (rest : Bytes) :
    readScaled negative significand exponent rest =
      (scaled significand exponent).map fun x => (signed negative x, rest) := by
  rw [readScaled]
  cases scaled significand exponent <;> rfl

theorem readScaled_power (power : Power) (rest : Bytes) :
    (if exponentLimit < power.size then
        if significand ≠ 0 && !power.down then .error .malformed
        else .ok (signed negative Binary64.zero, rest)
      else readScaled negative significand
        (if power.down then start - power.size else start + power.size) rest) =
      (scaledBy (some power) significand start).map fun x => (signed negative x, rest) := by
  rw [scaledBy]
  split
  · split <;> rfl
  · rw [readScaled_eq, Power.exponent]
    cases power.down <;> rfl

theorem readPower_chars (power : Power) (closes : Closes rest) :
    readPower negative significand start ((power.signChars ++ power.digits).map ascii ++ rest) =
      (scaledBy (some power) significand start).map fun x => (signed negative x, rest) := by
  have digits := isDigit_of_mem_map power.areDigits
  have value : fold 0 (power.digits.map ascii) = power.size := fold_map_ascii power.areDigits []
  obtain ⟨taken, left⟩ := Text.takeWhile_run digits closes.endsDigits
  obtain ⟨c, more, isWritten⟩ := List.exists_cons_of_ne_nil power.notEmpty
  have digit : isDigit (ascii c) = true := digits (ascii c) (by rw [isWritten]; simp)
  have notPlus : ascii c ≠ ascii '+' := fun same => absurd (same ▸ digit) (by decide)
  have notMinus : ascii c ≠ ascii '-' := fun same => absurd (same ▸ digit) (by decide)
  rw [← readScaled_power, List.map_append, List.append_assoc]
  rw [fold] at value
  rw [isWritten, List.map_cons, List.cons_append] at taken left ⊢
  rw [isWritten, List.map_cons] at value
  rw [Power.signChars, Power.down]
  cases power.sign with
  | none =>
      simp only [readPower, List.map_nil, List.nil_append, notPlus, notMinus, if_false, digit,
        Bool.not_true, Bool.false_eq_true, taken, left, value]
      rfl
  | some minus =>
      cases minus with
      | true =>
          simp only [readPower, List.map_cons, List.map_nil, List.singleton_append,
            if_neg (by decide : ¬ ascii '-' = ascii '+'), if_true, digit, Bool.not_true,
            Bool.false_eq_true, if_false, taken, left, value]
          rfl
      | false =>
          simp only [readPower, List.map_cons, List.map_nil, List.singleton_append, if_true, digit,
            Bool.not_true, Bool.false_eq_true, if_false, taken, left, value]
          rfl

theorem readTail_chars (power : Option Power) (closes : Closes rest) :
    readTail negative significand start ((powerChars power).map ascii ++ rest) =
      (scaledBy power significand start).map fun x => (signed negative x, rest) := by
  cases power with
  | none => exact (readTail_closes closes).trans (readScaled_eq start rest)
  | some power =>
      show readTail negative significand start
        (ascii power.mark :: ((power.signChars ++ power.digits).map ascii ++ rest)) = _
      have mark := power.ascii_mark
      rw [readTail, if_pos (by simpa using mark)]
      exact readPower_chars power closes

/-- What follows a fraction is read with the digits that are kept of it. -/
theorem readFraction_kept {written : Bytes} (digits : ∀ byte ∈ written, isDigit byte = true)
    (notEmpty : written ≠ []) (bounded : significand ≤ significandLimit) (ends : EndsDigits rest) :
    readFraction negative significand start (written ++ rest) =
      readTail negative (accumulate significand 0 written).1
        (start - (accumulate significand 0 written).2.1) rest := by
  obtain ⟨kept, dropped, rfl, accumulated, -⟩ := exists_kept digits significand 0 bounded
  rw [readFraction, accumulate_of_endsDigits ends, accumulated]
  cases dropped with
  | nil =>
      have some : 0 + kept.length ≠ 0 := by
        rw [Nat.zero_add]
        exact fun none => notEmpty (by rw [List.length_eq_zero_iff.mp none, List.append_nil])
      cases rest with
      | nil => simp only [List.append_nil, if_neg some]
      | cons byte tail =>
          simp only [List.nil_append, ends byte rfl, Bool.false_eq_true, if_false, if_neg some]
  | cons byte more =>
      have others := fun other member => digits other (List.mem_append_right kept member)
      have left := (Text.takeWhile_run others ends).2
      rw [List.cons_append] at left
      simp only [List.cons_append, others byte List.mem_cons_self, if_true, left]

theorem readShort_closes (closes : Closes rest) :
    readShort negative significand rest = .ok (whole negative significand, rest) := by
  rcases closes with rfl | stops
  · rfl
  · exact readShort_stops stops negative significand

theorem notPoint_powerChars (power : Option Power) (closes : Closes rest) :
    ∀ byte ∈ ((powerChars power).map ascii ++ rest).head?, byte ≠ ascii '.' := by
  cases power with
  | none =>
      rcases closes with rfl | ⟨first, tail, rfl, delimiter⟩
      · rintro byte ⟨⟩
      · rintro byte ⟨⟩ rfl
        exact absurd delimiter (by decide)
  | some power =>
      rintro byte ⟨⟩
      rcases power.ascii_mark with small | capital
      · rw [small]; decide
      · rw [capital]; decide

section Whole

variable {dropped : Bytes} (digits : ∀ byte ∈ dropped, isDigit byte = true)

include digits

theorem readShort_fraction (bytes : Bytes) :
    readShort negative significand (dropped ++ ascii '.' :: bytes) =
      readFraction negative significand dropped.length bytes := by
  have point : EndsDigits (ascii '.' :: bytes) := .cons (by decide) bytes
  obtain ⟨taken, left⟩ := Text.takeWhile_run digits point
  cases dropped with
  | nil => exact readShort_point bytes
  | cons byte more =>
      rw [List.cons_append] at taken left ⊢
      rw [readShort, if_pos (digits byte List.mem_cons_self)]
      simp only [readLong, taken, left, if_true]

theorem readShort_dropped (some : dropped ≠ []) (power : Option Power) (closes : Closes rest) :
    readShort negative significand (dropped ++ ((powerChars power).map ascii ++ rest)) =
      readTail negative significand dropped.length ((powerChars power).map ascii ++ rest) := by
  have ends := endsDigits_powerChars power closes
  have notPoint := notPoint_powerChars power closes
  generalize (powerChars power).map ascii ++ rest = tail at ends notPoint ⊢
  obtain ⟨taken, left⟩ := Text.takeWhile_run digits ends
  obtain ⟨byte, more, rfl⟩ := List.exists_cons_of_ne_nil some
  rw [List.cons_append] at taken left ⊢
  rw [readShort, if_pos (digits byte List.mem_cons_self)]
  cases tail with
  | nil => simp only [readLong, taken, left]
  | cons next tail => simp only [readLong, taken, left, if_neg (notPoint next rfl)]

end Whole

theorem readShort_eq_readTail {mark : UInt8} (isMark : mark = ascii 'e' ∨ mark = ascii 'E')
    (bytes : Bytes) :
    readShort negative significand (mark :: bytes) =
      readTail negative significand 0 (mark :: bytes) := by
  rcases isMark with rfl | rfl
  · rw [readShort_mark, readTail_mark]
  · have short : readShort negative significand (ascii 'E' :: bytes) =
        readPower negative significand 0 bytes := rfl
    rw [short]
    rfl

theorem readUnsigned_kept (number : Nat) (ends : EndsDigits rest) :
    readUnsigned negative (digitBytes number ++ rest) =
      readShort negative (accumulate 0 0 (digitBytes number)).1
        ((accumulate 0 0 (digitBytes number)).2.2 ++ rest) := by
  by_cases zero : number = 0
  · subst zero
    have single : digitBytes 0 = [ascii '0'] := by decide
    rw [single, List.singleton_append, readUnsigned.eq_def]
    cases rest with
    | nil => rfl
    | cons byte tail =>
        simp only [if_true, ends byte rfl, Bool.false_eq_true, if_false]
        rfl
  · obtain ⟨first, more, isWritten, notZero⟩ := digitBytes_cons zero
    have digit := isDigit_of_mem_digitBytes number first (by rw [isWritten]; simp)
    have small : digitValue first ≤ significandLimit :=
      (digitValue_lt digit).le.trans (by decide)
    have begun : accumulate 0 0 (digitBytes number) = accumulate (digitValue first) 1 more := by
      rw [isWritten, accumulate]
      simp only [digit, Nat.zero_mul, Nat.zero_add, Bool.true_and, decide_eq_true small, if_true]
    rw [begun, isWritten, List.cons_append, readUnsigned.eq_def]
    simp only [if_neg notZero, digit, if_true, accumulate_of_endsDigits ends]

end Tails

namespace Numeral

variable (numeral : Numeral)

def wholeBytes : Bytes := digitBytes numeral.whole

def fractionBytes : Bytes := numeral.fraction.map ascii

/-- What is kept of the digits in front of the point. -/
def lead : Nat := (accumulate 0 0 numeral.wholeBytes).1

def dropped : Bytes := (accumulate 0 0 numeral.wholeBytes).2.2

def significand : Nat := (accumulate numeral.lead 0 numeral.fractionBytes).1

def taken : Nat := (accumulate numeral.lead 0 numeral.fractionBytes).2.1

/-- The power of ten that the significand has before the spelled one. -/
def start : Int := numeral.dropped.length - numeral.taken

def reading : Except Fault Number :=
  if numeral.IsWhole ∧ numeral.dropped = [] then .ok (Json.whole numeral.negative numeral.lead)
  else (scaledBy numeral.power numeral.significand numeral.start).map (signed numeral.negative)

def bytes : Bytes := numeral.chars.map ascii

variable {numeral} {rest : Bytes}

theorem isDigit_fractionBytes : ∀ byte ∈ numeral.fractionBytes, isDigit byte = true :=
  isDigit_of_mem_map numeral.areDigits

theorem isDigit_dropped : ∀ byte ∈ numeral.dropped, isDigit byte = true := by
  have digits := isDigit_of_mem_digitBytes numeral.whole
  obtain ⟨kept, dropped, isWhole, accumulated, -⟩ := exists_kept digits 0 0 (Nat.zero_le _)
  rw [isWhole] at digits
  rw [Numeral.dropped, wholeBytes, accumulated]
  exact fun byte member => digits byte (List.mem_append_right kept member)

theorem lead_le : numeral.lead ≤ significandLimit := by
  obtain ⟨kept, dropped, isWhole, accumulated, bounded, -⟩ :=
    exists_kept (isDigit_of_mem_digitBytes numeral.whole) 0 0 (Nat.zero_le _)
  rw [lead, wholeBytes, accumulated]
  exact bounded

theorem significand_of_fraction_nil (none : numeral.fraction = []) :
    numeral.significand = numeral.lead ∧ numeral.start = numeral.dropped.length := by
  have nothing : numeral.fractionBytes = [] := by rw [fractionBytes, none]; rfl
  rw [start, significand, taken, nothing]
  exact ⟨rfl, Int.sub_zero _⟩

theorem endsDigits_behind (closes : Closes rest) :
    EndsDigits (numeral.behind.map ascii ++ rest) := by
  rw [behind]
  cases numeral.fraction with
  | nil => exact endsDigits_powerChars numeral.power closes
  | cons c more => exact .cons (by decide) _

/-- A number that is not an exact whole one is read with its power of ten. -/
theorem map_reading (inexact : ¬ (numeral.IsWhole ∧ numeral.dropped = [])) (rest : Bytes) :
    (scaledBy numeral.power numeral.significand numeral.start).map
        (fun x => (signed numeral.negative x, rest)) =
      numeral.reading.map fun number => (number, rest) := by
  rw [reading, if_neg inexact]
  cases scaledBy numeral.power numeral.significand numeral.start <;> rfl

theorem readShort_of_fraction (some : numeral.fraction ≠ []) (closes : Closes rest) :
    readShort numeral.negative numeral.lead
        (numeral.dropped ++ (numeral.behind.map ascii ++ rest)) =
      numeral.reading.map fun number => (number, rest) := by
  have inexact : ¬ (numeral.IsWhole ∧ numeral.dropped = []) := fun whole => some whole.1.1
  have shape : numeral.behind.map ascii ++ rest =
      ascii '.' :: (numeral.fractionBytes ++ ((powerChars numeral.power).map ascii ++ rest)) := by
    obtain ⟨c, more, isFraction⟩ := List.exists_cons_of_ne_nil some
    rw [behind, fractionBytes, isFraction, List.map_append, List.append_assoc]
    rfl
  have notEmpty : numeral.fractionBytes ≠ [] := fun none => some (List.map_eq_nil_iff.mp none)
  rw [shape, readShort_fraction isDigit_dropped, readFraction_kept isDigit_fractionBytes notEmpty
    lead_le (endsDigits_powerChars numeral.power closes), ← map_reading inexact]
  exact readTail_chars numeral.power closes

theorem readShort_of_fraction_nil (none : numeral.fraction = []) (closes : Closes rest) :
    readShort numeral.negative numeral.lead
        (numeral.dropped ++ (numeral.behind.map ascii ++ rest)) =
      numeral.reading.map fun number => (number, rest) := by
  have shape : numeral.behind.map ascii ++ rest = (powerChars numeral.power).map ascii ++ rest := by
    rw [behind, none]
    rfl
  obtain ⟨isLead, isStart⟩ := significand_of_fraction_nil none
  rw [shape]
  by_cases kept : numeral.dropped = []
  · rw [kept, List.nil_append]
    cases isPower : numeral.power with
    | none =>
        rw [reading, if_pos ⟨⟨none, isPower⟩, kept⟩]
        exact readShort_closes closes
    | some power =>
        have inexact : ¬ (numeral.IsWhole ∧ numeral.dropped = []) := by
          rintro ⟨⟨-, absent⟩, -⟩
          rw [isPower] at absent
          cases absent
        have read := @readTail_chars numeral.negative numeral.lead 0 rest (some power) closes
        rw [← map_reading inexact, isLead, isStart, kept, isPower]
        exact (readShort_eq_readTail power.ascii_mark _).trans read
  · have inexact : ¬ (numeral.IsWhole ∧ numeral.dropped = []) := fun whole => kept whole.2
    rw [readShort_dropped isDigit_dropped kept numeral.power closes, ← map_reading inexact,
      isLead, isStart]
    exact readTail_chars numeral.power closes

theorem readUnsigned_chars (closes : Closes rest) :
    readUnsigned numeral.negative
        ((Decimal.digits numeral.whole ++ numeral.behind).map ascii ++ rest) =
      numeral.reading.map fun number => (number, rest) := by
  rw [List.map_append, List.append_assoc]
  refine (readUnsigned_kept numeral.whole (endsDigits_behind closes)).trans ?_
  by_cases none : numeral.fraction = []
  · exact readShort_of_fraction_nil none closes
  · exact readShort_of_fraction none closes

theorem digits_ne_nil (numeral : Numeral) : Decimal.digits numeral.whole ≠ [] := fun none =>
  digitBytes_ne_nil numeral.whole (by rw [digitBytes, none]; rfl)

theorem exists_digit (numeral : Numeral) : ∃ c more,
    Decimal.digits numeral.whole ++ numeral.behind = c :: more ∧ Decimal.isDigit c = true := by
  obtain ⟨c, more, isWritten⟩ := List.exists_cons_of_ne_nil numeral.digits_ne_nil
  refine ⟨c, more ++ numeral.behind, by rw [isWritten]; rfl, ?_⟩
  exact Decimal.isDigit_of_mem_digits (by rw [isWritten]; exact List.mem_cons_self)

/-- A number is read as it is on its own, whatever closes the value. -/
theorem readNumber_bytes (closes : Closes rest) :
    readNumber (numeral.bytes ++ rest) = numeral.reading.map fun number => (number, rest) := by
  have read := @readUnsigned_chars numeral rest closes
  obtain ⟨c, more, shape, digit⟩ := numeral.exists_digit
  rw [bytes, chars, signChars, List.map_append, List.append_assoc]
  cases isNegative : numeral.negative with
  | true =>
      rw [isNegative] at read
      exact read
  | false =>
      have notMinus : ascii c ≠ ascii '-' := by
        intro same
        have asOctet := (ascii_of_isDigit digit).1
        rw [same] at asOctet
        exact absurd asOctet (by decide)
      rw [isNegative, shape] at read
      rw [shape]
      simp only [Bool.false_eq_true, if_false, List.map_nil, List.nil_append, List.map_cons,
        List.cons_append, readNumber, if_neg notMinus]
      exact read

end Numeral

end Telemetry.Json
