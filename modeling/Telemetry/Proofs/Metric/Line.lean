import Telemetry.Proofs.Metric.Wire
import Telemetry.Text.Blank

namespace Telemetry

open Telemetry Json

/-! A metric in its JSON form is one line of text: line ends in its texts are escaped. -/

namespace Bytes

def ofChars (chars : List Char) : Bytes := chars.flatMap String.utf8EncodeChar

theorem ofChars_append (chars more : List Char) :
    ofChars (chars ++ more) = ofChars chars ++ ofChars more :=
  List.flatMap_append

theorem ofText_ofList (chars : List Char) : ofText (String.ofList chars) = ofChars chars := by
  have encoded : (String.ofList chars).toByteArray = chars.utf8Encode := String.toByteArray_ofList
  show (String.ofList chars).toByteArray.data.toList = _
  rw [encoded, List.utf8Encode]
  simp [ofChars]

theorem ofText_eq (text : String) : ofText text = ofChars text.toList := by
  rw [← ofText_ofList, String.ofList_toList]

theorem toText?_ofChars (chars : List Char) :
    toText? (ofChars chars) = some (String.ofList chars) := by
  rw [← ofText_ofList, toText?_ofText]

/-- The form of characters that end no line. -/
def IsLine (bytes : Bytes) : Prop :=
  ∃ chars, bytes = ofChars chars ∧ ∀ c ∈ chars, c ≠ '\n' ∧ c ≠ '\r'

namespace IsLine

variable {bytes more : Bytes}

theorem nil : IsLine [] := ⟨[], rfl, by simp⟩

theorem append (isLine : bytes.IsLine) (moreIsLine : more.IsLine) : IsLine (bytes ++ more) := by
  obtain ⟨chars, rfl, plain⟩ := isLine
  obtain ⟨others, rfl, othersPlain⟩ := moreIsLine
  refine ⟨chars ++ others, (ofChars_append _ _).symm, ?_⟩
  intro c member
  rcases List.mem_append.mp member with early | late
  · exact plain c early
  · exact othersPlain c late

theorem flatMap {α : Type} {elements : List α} {write : α → Bytes}
    (each : ∀ element ∈ elements, (write element).IsLine) : IsLine (elements.flatMap write) := by
  induction elements with
  | nil => exact nil
  | cons element elements induction =>
      rw [List.flatMap_cons]
      have others := induction fun other member => each other (List.mem_cons_of_mem _ member)
      exact (each element List.mem_cons_self).append others

end IsLine

/-- An octet that is a character of its own and ends no line. -/
def isPlain (byte : UInt8) : Bool := byte < 0x80 && byte ≠ 0x0A && byte ≠ 0x0D

theorem utf8EncodeChar_plain : ∀ byte : Fin 128, isPlain (UInt8.ofNat byte) = true →
    String.utf8EncodeChar (Char.ofNat byte) = [UInt8.ofNat byte] ∧
      Char.ofNat byte ≠ '\n' ∧ Char.ofNat byte ≠ '\r' := by
  decide

theorem isLine_singleton {byte : UInt8} (plain : isPlain byte = true) : IsLine [byte] := by
  have small : byte < 0x80 := by
    simp only [isPlain, Bool.and_eq_true, decide_eq_true_eq] at plain
    exact plain.1.1
  have character := utf8EncodeChar_plain ⟨byte.toNat, UInt8.lt_iff_toNat_lt.mp small⟩
  rw [UInt8.ofNat_toNat] at character
  obtain ⟨encoded, notFeed, notReturn⟩ := character plain
  refine ⟨[Char.ofNat byte.toNat], ?_, ?_⟩
  · rw [ofChars, List.flatMap_singleton, encoded]
  · intro c member
    rw [List.mem_singleton.mp member]
    exact ⟨notFeed, notReturn⟩

theorem isLine_of_isPlain {bytes : Bytes} (plain : bytes.all isPlain = true) : bytes.IsLine := by
  have whole : bytes.flatMap (fun byte => [byte]) = bytes := by simp
  rw [← whole]
  exact IsLine.flatMap fun byte member => isLine_singleton (List.all_eq_true.mp plain byte member)

theorem isPlain_escape : ∀ byte : Fin 128, (escape (UInt8.ofNat byte)).all isPlain = true := by
  decide

theorem escape_of_le {byte : UInt8} (large : 0x80 ≤ byte.toNat) : escape byte = [byte] := by
  have notQuote : byte ≠ quote := by
    rintro rfl
    exact absurd large (by decide)
  have notBackslash : byte ≠ backslash := by
    rintro rfl
    exact absurd large (by decide)
  have visible : ¬ byte < 0x20 := by
    rw [UInt8.lt_iff_toNat_lt]
    intro small
    have control : byte.toNat < 32 := small
    omega
  simp [escape, notQuote, notBackslash, visible]

/-- The octets of a character that takes several are all great. -/
theorem le_of_mem_utf8EncodeChar {c : Char} (large : 0x7F < c.val.toNat) :
    ∀ byte ∈ String.utf8EncodeChar c, 0x80 ≤ byte.toNat := by
  intro byte member
  simp only [String.utf8EncodeChar, if_neg (by omega : ¬ c.val.toNat ≤ 0x7F)] at member
  split at member
  · simp only [List.mem_cons, List.not_mem_nil, or_false] at member
    rcases member with rfl | rfl <;> rw [UInt8.toNat_ofNat'] <;> omega
  · split at member
    · simp only [List.mem_cons, List.not_mem_nil, or_false] at member
      rcases member with rfl | rfl | rfl <;> rw [UInt8.toNat_ofNat'] <;> omega
    · simp only [List.mem_cons, List.not_mem_nil, or_false] at member
      rcases member with rfl | rfl | rfl | rfl <;> rw [UInt8.toNat_ofNat'] <;> omega

theorem isLine_escape (c : Char) : IsLine ((String.utf8EncodeChar c).flatMap escape) := by
  by_cases small : c.val.toNat ≤ 0x7F
  · have single : String.utf8EncodeChar c = [UInt8.ofNat c.val.toNat] := by
      simp only [String.utf8EncodeChar, if_pos small]
    rw [single, List.flatMap_singleton]
    exact isLine_of_isPlain (isPlain_escape ⟨c.val.toNat, by omega⟩)
  · have large : 0x7F < c.val.toNat := by omega
    have untouched : (String.utf8EncodeChar c).flatMap escape = String.utf8EncodeChar c := by
      rw [List.flatMap_congr fun byte member =>
        escape_of_le (le_of_mem_utf8EncodeChar large byte member)]
      simp
    refine ⟨[c], ?_, ?_⟩
    · rw [untouched, ofChars, List.flatMap_singleton]
    · intro other member
      rw [List.mem_singleton.mp member]
      constructor
      · rintro rfl
        exact absurd large (by decide)
      · rintro rfl
        exact absurd large (by decide)

theorem isLine_writeText (text : String) : IsLine (writeText text) := by
  have quoted : IsLine [quote] := isLine_singleton (by decide)
  have content : IsLine ((ofText text).flatMap escape) := by
    rw [ofText_eq, ofChars, List.flatMap_assoc]
    exact IsLine.flatMap fun c _ => isLine_escape c
  exact (quoted.append content).append quoted

theorem isPlain_of_isNumberByte {byte : UInt8} (number : isNumberByte byte = true) :
    isPlain byte = true := by
  simp only [isNumberByte, Bool.or_eq_true, decide_eq_true_eq] at number
  rcases number with ((((digit | rfl) | rfl) | rfl) | rfl) | rfl
  · simp only [isDigit, Bool.and_eq_true, decide_eq_true_eq, UInt8.le_iff_toNat_le] at digit
    have above : 48 ≤ byte.toNat := digit.1
    have below : byte.toNat ≤ 57 := digit.2
    have small : byte < 0x80 := UInt8.lt_iff_toNat_lt.mpr (Nat.lt_of_le_of_lt below (by decide))
    have notFeed : byte ≠ 0x0A := by
      rintro rfl
      exact absurd above (by decide)
    have notReturn : byte ≠ 0x0D := by
      rintro rfl
      exact absurd above (by decide)
    simp [isPlain, small, notFeed, notReturn]
  all_goals decide

theorem isLine_of_isNumberByte {bytes : Bytes}
    (allNumbers : ∀ byte ∈ bytes, isNumberByte byte = true) : bytes.IsLine :=
  isLine_of_isPlain (List.all_eq_true.mpr fun byte member =>
    isPlain_of_isNumberByte (allNumbers byte member))

theorem isLine_writeBinary64 (x : Binary64) : IsLine (writeBinary64 x) := by
  cases finite : x.isFinite with
  | true => exact isLine_of_isNumberByte (isNumberByte_of_mem_writeBinary64 finite)
  | false =>
      have nothing : writeBinary64 x = Bytes.ofText "null" := by
        rw [writeBinary64, finite]
        rfl
      rw [nothing]
      exact isLine_of_isPlain (by decide)

theorem isLine_writeInt64 (number : Int64) : IsLine (writeInt64 number) :=
  isLine_of_isNumberByte isNumberByte_of_mem_writeInt64

end Bytes

namespace Metric

theorem isLine_fieldText {metric : Metric} {field : WireField} {text : Bytes}
    (written : metric.fieldText field = some text) : text.IsLine := by
  cases field with
  | id => exact Option.some.inj written ▸ Bytes.isLine_writeText _
  | kind => exact Option.some.inj written ▸ Bytes.isLine_writeText _
  | delta =>
      obtain ⟨delta, -, rfl⟩ := Option.map_eq_some_iff.mp written
      exact Bytes.isLine_writeInt64 delta
  | value =>
      obtain ⟨value, -, rfl⟩ := Option.map_eq_some_iff.mp written
      exact Bytes.isLine_writeBinary64 value
  | hash =>
      obtain ⟨hash, -, rfl⟩ := Option.map_eq_some_iff.mp written
      exact Bytes.isLine_writeText hash

theorem exists_line (metric : Metric) :
    ∃ chars, metric.toWire = Bytes.ofChars ('\x7b' :: chars) ∧
      ∀ c ∈ chars, c ≠ '\n' ∧ c ≠ '\r' := by
  have members : ∀ member ∈ metric.members, (memberText member).IsLine := by
    intro member present
    have colon : Bytes.IsLine [ascii ':'] := Bytes.isLine_singleton (by decide)
    have name := (Bytes.isLine_writeText member.1.name).append colon
    have text := isLine_fieldText (mem_members.mp present)
    simpa [memberText] using name.append text
  have content : Bytes.IsLine (((metric.members.map memberText).intersperse
      [ascii ',']).flatten ++ [ascii '\x7d']) := by
    refine Bytes.IsLine.append ?_ (Bytes.isLine_singleton (by decide))
    generalize metric.members = written at members
    cases written with
    | nil => exact Bytes.IsLine.nil
    | cons first more =>
        have comma : Bytes.IsLine [ascii ','] := Bytes.isLine_singleton (by decide)
        rw [List.map_cons, flatten_intersperse, List.flatMap_map]
        refine (members first (by simp)).append (Bytes.IsLine.flatMap fun member present => ?_)
        exact comma.append (members member (by simp [present]))
  obtain ⟨chars, same, plain⟩ := content
  refine ⟨chars, ?_, plain⟩
  rw [toWire_eq, same]
  rfl

end Metric

end Telemetry
