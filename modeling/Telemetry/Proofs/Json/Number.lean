import Mathlib.Tactic.FinCases
import Telemetry.Metric.Sum
import Telemetry.Metric.Wire
import Telemetry.Proofs.Decimal.Digits
import Telemetry.Proofs.Json.Text
import Telemetry.Proofs.Outcome

namespace Telemetry.Json

open Telemetry

/-! Numbers on the wire. An integer is read back as it was written; any number is made of a few
octets that nothing else begins with. -/

def isNumberByte (byte : UInt8) : Bool :=
  isDigit byte || byte = ascii '-' || byte = ascii '+' || byte = ascii '.' || byte = ascii 'e' ||
    byte = ascii 'E'

/-- What comes behind a value in a list or an object. -/
def isDelimiter (byte : UInt8) : Bool :=
  byte = ascii ',' || byte = ascii '\x7d' || byte = ascii ']'

theorem of_isDelimiter {byte : UInt8} (delimiter : isDelimiter byte = true) :
    isNumberByte byte = false ∧ isSpace byte = false ∧ byte ≠ ascii 'n' := by
  simp only [isDelimiter, Bool.or_eq_true, decide_eq_true_eq] at delimiter
  rcases delimiter with (rfl | rfl) | rfl <;> decide

/-- Octets that begin with what comes behind a value. -/
def Stops (rest : Bytes) : Prop := ∃ byte tail, rest = byte :: tail ∧ isDelimiter byte = true

theorem Stops.cons {byte : UInt8} (delimiter : isDelimiter byte = true) (tail : Bytes) :
    Stops (byte :: tail) :=
  ⟨byte, tail, rfl, delimiter⟩

theorem isNumberByte_of_isDigit {byte : UInt8} (digit : isDigit byte = true) :
    isNumberByte byte = true := by
  simp [isNumberByte, digit]

theorem isDigit_of_not_isNumberByte {byte : UInt8} (other : isNumberByte byte = false) :
    isDigit byte = false := by
  simp only [isNumberByte, Bool.or_eq_false_iff] at other
  exact other.1.1.1.1.1

theorem not_isSpace_of_isDigit {byte : UInt8} (digit : isDigit byte = true) :
    isSpace byte = false := by
  simp only [isSpace, Bool.or_eq_false_iff, decide_eq_false_iff_not]
  refine ⟨⟨⟨?_, ?_⟩, ?_⟩, ?_⟩ <;>
  · rintro rfl
    exact absurd digit (by decide)

section Digits

def fold (start : Nat) (written : Bytes) : Nat :=
  written.foldl (fun total byte => total * 10 + digitValue byte) start

theorem fold_append (start : Nat) (written more : Bytes) :
    fold start (written ++ more) = fold (fold start written) more :=
  List.foldl_append

theorem le_fold (start : Nat) (written : Bytes) : start ≤ fold start written := by
  induction written generalizing start with
  | nil => exact Nat.le_refl start
  | cons byte written induction =>
      have step := induction (start * 10 + digitValue byte)
      exact Nat.le_trans (by omega) step

def digitBytes (number : Nat) : Bytes := (Decimal.digits number).map ascii

theorem ascii_digitChar : ∀ digit : Fin 10,
    isDigit (ascii (Decimal.digitChar digit)) = true ∧
      digitValue (ascii (Decimal.digitChar digit)) = digit ∧
      (ascii (Decimal.digitChar digit) = ascii '0' → digit = 0) := by
  decide

theorem digitBytes_of_lt {number : Nat} (small : number < 10) :
    digitBytes number = [ascii (Decimal.digitChar number)] := by
  rw [digitBytes, Decimal.digits_of_lt small]
  rfl

theorem digitBytes_of_le {number : Nat} (large : 10 ≤ number) :
    digitBytes number =
      digitBytes (number / 10) ++ [ascii (Decimal.digitChar (number % 10))] := by
  rw [digitBytes, Decimal.digits_of_le large, List.map_append]
  rfl

theorem isDigit_of_mem_digitBytes (number : Nat) :
    ∀ byte ∈ digitBytes number, isDigit byte = true := by
  induction number using Decimal.digits_induction with
  | one digit small =>
      intro byte member
      rw [digitBytes_of_lt small, List.mem_singleton] at member
      rw [member]
      exact (ascii_digitChar ⟨digit, small⟩).1
  | more number large induction =>
      intro byte member
      rw [digitBytes_of_le large] at member
      rcases List.mem_append.mp member with early | last
      · exact induction byte early
      · rw [List.mem_singleton.mp last]
        exact (ascii_digitChar ⟨number % 10, by omega⟩).1

theorem fold_digitBytes (number : Nat) : fold 0 (digitBytes number) = number := by
  induction number using Decimal.digits_induction with
  | one digit small =>
      rw [digitBytes_of_lt small]
      simpa [fold] using (ascii_digitChar ⟨digit, small⟩).2.1
  | more number large induction =>
      have last := (ascii_digitChar ⟨number % 10, by omega⟩).2.1
      rw [digitBytes_of_le large, fold_append, induction]
      show number / 10 * 10 + digitValue _ = number
      rw [last]
      show number / 10 * 10 + number % 10 = number
      omega

theorem digitBytes_cons {number : Nat} (positive : number ≠ 0) :
    ∃ first more, digitBytes number = first :: more ∧ first ≠ ascii '0' := by
  induction number using Decimal.digits_induction with
  | one digit small =>
      refine ⟨_, [], digitBytes_of_lt small, fun same => positive ?_⟩
      exact congrArg Fin.val ((ascii_digitChar ⟨digit, small⟩).2.2 same)
  | more number large induction =>
      obtain ⟨first, more, written, notZero⟩ := induction (by omega)
      exact ⟨first, more ++ [_], by rw [digitBytes_of_le large, written]; rfl, notZero⟩

theorem accumulate_append {written : Bytes} (digits : ∀ byte ∈ written, isDigit byte = true)
    (significand taken : Nat) (bounded : fold significand written ≤ significandLimit)
    (rest : Bytes) :
    accumulate significand taken (written ++ rest) =
      accumulate (fold significand written) (taken + written.length) rest := by
  induction written generalizing significand taken with
  | nil => rfl
  | cons byte written induction =>
      have digit := digits byte (by simp)
      have within := Nat.le_trans (le_fold (significand * 10 + digitValue byte) written) bounded
      rw [List.cons_append, accumulate]
      simp only [digit, Bool.true_and, decide_eq_true within, if_true]
      rw [induction (fun other member => digits other (by simp [member])) _ _ bounded,
        List.length_cons, Nat.add_assoc, Nat.add_comm 1]
      rfl

/-- What begins with no digit. -/
def EndsDigits (rest : Bytes) : Prop := ∀ byte ∈ rest.head?, isDigit byte = false

theorem EndsDigits.cons {byte : UInt8} (notDigit : isDigit byte = false) (tail : Bytes) :
    EndsDigits (byte :: tail) := by
  intro other first
  rw [← Option.some.inj first]
  exact notDigit

theorem Stops.endsDigits {rest : Bytes} (stops : Stops rest) : EndsDigits rest := by
  obtain ⟨byte, tail, rfl, delimiter⟩ := stops
  exact .cons (isDigit_of_not_isNumberByte (of_isDelimiter delimiter).1) tail

theorem accumulate_endsDigits {rest : Bytes} (ends : EndsDigits rest) (significand taken : Nat) :
    accumulate significand taken rest = (significand, taken, rest) := by
  cases rest with
  | nil => rfl
  | cons byte tail => simp [accumulate, ends byte rfl]

theorem readUnsigned_whole {first : UInt8} {more rest : Bytes} (notZero : first ≠ ascii '0')
    (digits : ∀ byte ∈ first :: more, isDigit byte = true)
    (bounded : fold 0 (first :: more) ≤ significandLimit) (ends : EndsDigits rest)
    (negative : Bool) :
    readUnsigned negative (first :: more ++ rest) =
      readShort negative (fold 0 (first :: more)) rest := by
  have value : fold (digitValue first) more = fold 0 (first :: more) := by simp [fold]
  have taken := accumulate_append (fun byte member => digits byte (by simp [member]))
    (digitValue first) 1 (value ▸ bounded) rest
  rw [accumulate_endsDigits ends, value] at taken
  rw [List.cons_append, readUnsigned.eq_def]
  simp only [if_neg notZero, digits first (by simp), if_true, taken]

end Digits

theorem readShort_stops {rest : Bytes} (stops : Stops rest) (negative : Bool) (significand : Nat) :
    readShort negative significand rest = .ok (whole negative significand, rest) := by
  obtain ⟨byte, tail, rfl, delimiter⟩ := stops
  have other := (of_isDelimiter delimiter).1
  simp only [isNumberByte, Bool.or_eq_false_iff, decide_eq_false_iff_not] at other
  obtain ⟨⟨⟨⟨⟨notDigit, -⟩, -⟩, notPoint⟩, notSmall⟩, notLarge⟩ := other
  simp [readShort, notDigit, notPoint, notSmall, notLarge]

theorem readUnsigned_digitBytes {number : Nat} (bounded : number ≤ significandLimit)
    (negative : Bool) {rest : Bytes} (stops : Stops rest) :
    readUnsigned negative (digitBytes number ++ rest) = .ok (whole negative number, rest) := by
  -- Zero alone begins with a zero, and has a case of its own in the reader.
  by_cases nothing : number = 0
  · subst nothing
    have single : digitBytes 0 = [ascii '0'] := by decide
    have short := readShort_stops stops negative 0
    obtain ⟨byte, tail, rfl, delimiter⟩ := stops
    have notDigit := isDigit_of_not_isNumberByte (of_isDelimiter delimiter).1
    rw [single, List.singleton_append, readUnsigned.eq_def]
    simp only [notDigit, Bool.false_eq_true, if_false, if_true]
    exact short
  · obtain ⟨first, more, written, notZero⟩ := digitBytes_cons nothing
    have digits := isDigit_of_mem_digitBytes number
    have value := fold_digitBytes number
    rw [written] at digits value
    rw [written, readUnsigned_whole notZero digits (by rw [value]; exact bounded) stops.endsDigits,
      value]
    exact readShort_stops stops negative number

theorem writeInt64_eq (number : Int64) :
    writeInt64 number =
      if number.toInt < 0 then ascii '-' :: digitBytes number.toInt.natAbs
      else digitBytes number.toInt.natAbs := by
  rw [writeInt64, Decimal.ofInt]
  split <;> rfl

theorem readInt64_writeInt64 (number : Int64) {rest : Bytes} (stops : Stops rest) :
    readInt64 (writeInt64 number ++ rest) = .ok (number, rest) := by
  have fits := Counter.fits_toInt number
  unfold Counter.Fits at fits
  rw [writeInt64_eq]
  split
  · next negative =>
      have bounded : number.toInt.natAbs ≤ significandLimit := by
        unfold significandLimit
        omega
      have read := readUnsigned_digitBytes bounded true stops
      have exact : Number.toInt64? (whole true number.toInt.natAbs) = some number := by
        have positive : number.toInt.natAbs ≠ 0 := by omega
        have within : ¬ 0x8000000000000000 < number.toInt.natAbs := by omega
        have same : -(number.toInt.natAbs : Int) = number.toInt := by omega
        have whole_eq : whole true number.toInt.natAbs = .negative number.toInt := by
          simp only [whole, Bool.not_true, Bool.false_eq_true, if_false, positive, within,
            decide_false, Bool.or_false, same]
        rw [whole_eq, Number.toInt64?, if_pos fits.1, Int64.ofInt_toInt]
      rw [List.cons_append, readInt64, readConverted, afterSpace_cons _ (by decide)]
      simp only [decide_true, Bool.true_or, if_true, readNumber, read, bind, Except.bind, exact]
  · next nonnegative =>
      have bounded : number.toInt.natAbs ≤ significandLimit := by
        unfold significandLimit
        omega
      have read := readUnsigned_digitBytes bounded false stops
      have exact : Number.toInt64? (whole false number.toInt.natAbs) = some number := by
        have within : number.toInt.natAbs < 0x8000000000000000 := by omega
        have same : (number.toInt.natAbs : Int) = number.toInt := by omega
        have whole_eq : whole false number.toInt.natAbs = .natural number.toInt.natAbs := by
          simp only [whole, Bool.not_false, if_true]
        rw [whole_eq, Number.toInt64?, if_pos within, same, Int64.ofInt_toInt]
      have digits := isDigit_of_mem_digitBytes number.toInt.natAbs
      obtain ⟨first, more, written⟩ :
          ∃ first more, digitBytes number.toInt.natAbs = first :: more := by
        by_cases nothing : number.toInt.natAbs = 0
        · exact ⟨ascii '0', [], by rw [nothing]; decide⟩
        · obtain ⟨first, more, written, _⟩ := digitBytes_cons nothing
          exact ⟨first, more, written⟩
      rw [written] at digits read ⊢
      have digit := digits first (by simp)
      have notMinus : first ≠ ascii '-' := by
        rintro rfl
        exact absurd digit (by decide)
      rw [List.cons_append] at read ⊢
      rw [readInt64, readConverted, afterSpace_cons _ (not_isSpace_of_isDigit digit)]
      simp only [digit, Bool.or_true, if_true, readNumber, if_neg notMinus, read, bind, Except.bind,
        exact]

section Doubles

theorem isNumberByte_of_mem_digits {number : Nat} {c : Char}
    (member : c ∈ Decimal.digits number) : isNumberByte (ascii c) = true :=
  isNumberByte_of_isDigit (isDigit_of_mem_digitBytes number _ (List.mem_map_of_mem member))

theorem isNumberByte_of_mem_zeros {count : Int} {c : Char} (member : c ∈ Decimal.zeros count) :
    isNumberByte (ascii c) = true := by
  rw [List.eq_of_mem_replicate member]
  decide

theorem isNumberByte_of_mem_positional {decimal : Decimal} {c : Char}
    (member : c ∈ Decimal.positional decimal) : isNumberByte (ascii c) = true := by
  simp only [Decimal.positional] at member
  split at member
  · rcases List.mem_append.mp member with digit | zero
    · exact isNumberByte_of_mem_digits digit
    · exact isNumberByte_of_mem_zeros zero
  · split at member
    · rcases List.mem_append.mp member with whole | fraction
      · exact isNumberByte_of_mem_digits (List.mem_of_mem_take whole)
      · rcases List.mem_cons.mp fraction with rfl | digit
        · decide
        · exact isNumberByte_of_mem_digits (List.mem_of_mem_drop digit)
    · rcases List.mem_append.mp member with front | digit
      · rcases List.mem_cons.mp front with rfl | behind
        · decide
        · rcases List.mem_cons.mp behind with rfl | zero
          · decide
          · exact isNumberByte_of_mem_zeros zero
      · exact isNumberByte_of_mem_digits digit

theorem isNumberByte_of_mem_scientific {decimal : Decimal} {c : Char}
    (member : c ∈ Decimal.scientific decimal) : isNumberByte (ascii c) = true := by
  simp only [Decimal.scientific] at member
  rcases List.mem_append.mp member with front | power
  · rcases List.mem_append.mp front with whole | fraction
    · exact isNumberByte_of_mem_digits (List.mem_of_mem_take whole)
    · split at fraction
      · cases fraction
      · rcases List.mem_cons.mp fraction with rfl | digit
        · decide
        · exact isNumberByte_of_mem_digits (List.mem_of_mem_drop digit)
  · rcases List.mem_cons.mp power with rfl | sign
    · decide
    · rcases List.mem_cons.mp sign with rfl | digit
      · split <;> decide
      · exact isNumberByte_of_mem_digits digit

theorem isNumberByte_of_mem_wireChars {x : Binary64} {c : Char} (member : c ∈ Decimal.wireChars x) :
    isNumberByte (ascii c) = true := by
  simp only [Decimal.wireChars] at member
  rcases List.mem_append.mp member with sign | magnitude
  · unfold Decimal.sign at sign
    split at sign
    · rw [List.mem_singleton.mp sign]
      decide
    · cases sign
  · split at magnitude
    · fin_cases magnitude <;> decide
    · split at magnitude
      · rcases List.mem_append.mp magnitude with digits | point
        · exact isNumberByte_of_mem_positional digits
        · split at point
          · fin_cases point <;> decide
          · cases point
      · exact isNumberByte_of_mem_scientific magnitude

theorem of_isNumberByte {byte : UInt8} (number : isNumberByte byte = true) :
    isSpace byte = false ∧ byte ≠ ascii 'n' := by
  refine ⟨?_, ?_⟩
  · simp only [isSpace, Bool.or_eq_false_iff, decide_eq_false_iff_not]
    refine ⟨⟨⟨?_, ?_⟩, ?_⟩, ?_⟩ <;>
    · rintro rfl
      exact absurd number (by decide)
  · rintro rfl
    exact absurd number (by decide)

theorem exists_first {written rest : Bytes}
    (allNumbers : ∀ byte ∈ written, isNumberByte byte = true) (stops : Stops rest) :
    ∃ byte tail, written ++ rest = byte :: tail ∧ isSpace byte = false ∧ byte ≠ ascii 'n' := by
  cases written with
  | nil =>
      obtain ⟨byte, tail, rfl, delimiter⟩ := stops
      exact ⟨byte, tail, rfl, (of_isDelimiter delimiter).2⟩
  | cons byte written =>
      exact ⟨byte, written ++ rest, rfl, of_isNumberByte (allNumbers byte (by simp))⟩

theorem isNumberByte_of_mem_writeBinary64 {x : Binary64} (finite : x.isFinite = true) :
    ∀ byte ∈ writeBinary64 x, isNumberByte byte = true := by
  intro byte member
  rw [writeBinary64, if_pos finite] at member
  obtain ⟨c, char, rfl⟩ := List.mem_map.mp member
  exact isNumberByte_of_mem_wireChars char

end Doubles

end Telemetry.Json
