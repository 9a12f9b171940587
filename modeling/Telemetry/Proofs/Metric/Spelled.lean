import Telemetry.Proofs.Json.Agreement
import Telemetry.Proofs.Storage.Ledger
import Telemetry.Proofs.Text.Percent

namespace Telemetry

open Telemetry Json

/-! An update of a series whose number is spelled, in a JSON object or in a path. -/

namespace Json.Numeral

variable {numeral : Numeral} {rest : Bytes}

theorem mem_pointed {written : List Char} (digits : ∀ c ∈ written, Decimal.isDigit c = true)
    {c : Char} (member : c ∈ pointed written) : Decimal.isDigit c = true ∨ c = '.' := by
  cases written with
  | nil => cases member
  | cons first more =>
      rcases List.mem_cons.mp member with point | digit
      · exact .inr point
      · exact .inl (digits c digit)

theorem mem_powerChars {power : Option Power} {c : Char} (member : c ∈ powerChars power) :
    Decimal.isDigit c = true ∨ c ∈ ['-', '+', 'e', 'E'] := by
  cases power with
  | none => cases member
  | some power =>
      rcases List.mem_cons.mp member with rfl | behind
      · rcases power.mark_eq with small | capital
        · rw [small]; exact .inr (by decide)
        · rw [capital]; exact .inr (by decide)
      · rcases List.mem_append.mp behind with sign | digit
        · rw [Power.signChars] at sign
          cases minus : power.sign with
          | none => rw [minus] at sign; cases sign
          | some down => rw [minus] at sign; cases down <;> simp_all
        · exact .inl (power.areDigits c digit)

theorem mem_chars {c : Char} (member : c ∈ numeral.chars) :
    Decimal.isDigit c = true ∨ c ∈ ['-', '+', '.', 'e', 'E'] := by
  rcases List.mem_append.mp member with sign | unsigned
  · rw [signChars] at sign
    split at sign
    · rw [List.mem_singleton.mp sign]
      exact .inr (by decide)
    · cases sign
  · rcases List.mem_append.mp unsigned with whole | behind
    · exact .inl (Decimal.isDigit_of_mem_digits whole)
    · rcases List.mem_append.mp behind with fraction | power
      · refine (mem_pointed numeral.areDigits fraction).imp_right ?_
        rintro rfl
        decide
      · refine (mem_powerChars power).imp_right fun mark => ?_
        fin_cases mark <;> decide

theorem plain_of_mem_chars {c : Char} (member : c ∈ numeral.chars) :
    c.toNat < 128 ∧ c ≠ '/' ∧ ascii c ≠ 0x25 := by
  rcases mem_chars member with digit | other
  · obtain ⟨value, rfl⟩ := exists_digitChar digit
    fin_cases value <;> decide
  · fin_cases other <;> decide

theorem ofText_text (numeral : Numeral) : Bytes.ofText numeral.text = numeral.bytes := by
  rw [text, Bytes.ofText_ofList]
  exact Bytes.ofChars_of_lt fun c member => (plain_of_mem_chars member).1

theorem length_add_length_le (numeral : Numeral) :
    numeral.wholeBytes.length + numeral.fraction.length ≤ numeral.bytes.length := by
  have fraction : numeral.fraction.length ≤ (pointed numeral.fraction).length := by
    cases numeral.fraction with
    | nil => exact Nat.le_refl 0
    | cons c more => exact Nat.le_succ _
  have whole : numeral.wholeBytes.length = (Decimal.digits numeral.whole).length := by
    rw [wholeBytes, digitBytes, List.length_map]
  rw [bytes, List.length_map, chars, behind]
  simp only [List.length_append]
  omega

theorem text_ne_empty (numeral : Numeral) : numeral.text ≠ "" := by
  obtain ⟨c, more, shape, -⟩ := numeral.exists_digit
  intro empty
  have none : numeral.chars = [] := by
    rw [← String.toList_ofList (l := numeral.chars)]
    exact congrArg String.toList empty
  rw [chars, shape] at none
  exact absurd none (by simp)

theorem exists_first (numeral : Numeral) (rest : Bytes) : ∃ byte tail,
    numeral.bytes ++ rest = byte :: tail ∧ isSpace byte = false ∧ byte ≠ ascii 'n' ∧
      (decide (byte = ascii '-') || isDigit byte) = true := by
  obtain ⟨c, more, shape, digit⟩ := numeral.exists_digit
  rw [bytes, chars, signChars, shape]
  cases numeral.negative with
  | true => exact ⟨ascii '-', _, rfl, by decide, by decide, by decide⟩
  | false =>
      have asOctet := (ascii_of_isDigit digit).1
      have visible := of_isNumberByte (isNumberByte_of_isDigit asOctet)
      exact ⟨ascii c, _, rfl, visible.1, visible.2, by rw [asOctet, Bool.or_true]⟩

theorem readConverted_bytes {α : Type} (convert : Number → Option α) (closes : Closes rest) :
    readConverted convert (numeral.bytes ++ rest) =
      numeral.reading.bind fun number => match convert number with
        | some value => .ok (value, rest)
        | none => .error .mismatch := by
  have reads := @readNumber_bytes numeral rest closes
  obtain ⟨byte, tail, shape, visible, -, opens⟩ := numeral.exists_first rest
  rw [shape] at reads ⊢
  rw [readConverted, afterSpace_cons _ visible, if_pos opens, reads]
  cases numeral.reading <;> rfl

end Json.Numeral

namespace Json

theorem length_escape_le (byte : UInt8) : (escape byte).length ≤ 6 := by
  rw [escape]
  split
  · exact (by decide : 2 ≤ 6)
  · split
    · split
      · exact (by decide : 2 ≤ 6)
      · exact Nat.le_refl 6
    · exact (by decide : 1 ≤ 6)

theorem length_writeText_le (text : String) :
    (writeText text).length ≤ 6 * (Bytes.ofText text).length + 2 := by
  have escaped : ∀ bytes : Bytes, (bytes.flatMap escape).length ≤ 6 * bytes.length := by
    intro bytes
    induction bytes with
    | nil => exact Nat.le_refl 0
    | cons byte bytes induction =>
        have first := length_escape_le byte
        rw [List.flatMap_cons, List.length_append, List.length_cons]
        omega
  have inside := escaped (Bytes.ofText text)
  rw [writeText, List.length_append, List.length_cons, List.length_singleton]
  omega

end Json

namespace Series

def field : Series → WireField
  | .gauge _ => .value
  | .counter _ => .delta

/-- An object that updates a series, with the number as it is spelled. -/
def spelled (series : Series) (numeral : Numeral) : Bytes :=
  writeObject [("id", writeText series.id), ("type", writeText series.kind.name),
    (series.field.name, Bytes.ofText numeral.text)]

/-- The metric that asks for a number of JSON: a counter takes only integers. -/
def asked (series : Series) (number : Number) : Option Metric :=
  match series with
  | .gauge id => some (.gauge id number.toBinary64)
  | .counter id => number.toInt64?.map (.counter id)

/-- The metric that is read of such an object. -/
def decoded (series : Series) (numeral : Numeral) : Option Metric :=
  numeral.reading.toOption.bind series.asked

def parsed (series : Series) (numeral : Numeral) : Option Metric :=
  match series with
  | .gauge id => some (.gauge id numeral.double)
  | .counter id => (Decimal.readInt64? numeral.text).map (.counter id)

variable {series : Series} {numeral : Numeral}

theorem spelled_eq (series : Series) (numeral : Numeral) : series.spelled numeral =
    ascii '\x7b' :: (Metric.memberText (.id, writeText series.id) ++ WireDraft.laterMembers
      [(.kind, writeText series.kind.name), (series.field, numeral.bytes)] []) := by
  rw [spelled, Numeral.ofText_text]
  simp [writeObject, WireDraft.laterMembers, Metric.memberText, WireField.name]

theorem length_spelled_le (series : Series) (numeral : Numeral) :
    (series.spelled numeral).length ≤
      6 * (Bytes.ofText series.id).length + numeral.bytes.length + 64 := by
  have id := length_writeText_le series.id
  have kindName : (writeText series.kind.name).length ≤ 9 := by
    cases series
    · exact (by decide : (writeText "gauge").length ≤ 9)
    · exact (by decide : (writeText "counter").length ≤ 9)
  have fieldName : (writeText series.field.name).length = 7 := by cases series <;> rfl
  have idName : (writeText "id").length = 4 := rfl
  have typeName : (writeText "type").length = 6 := rfl
  rw [spelled, Numeral.ofText_text]
  simp only [writeObject, List.map_cons, List.map_nil, List.intersperse, List.flatten_cons,
    List.flatten_nil, List.length_append, List.length_cons, List.length_nil]
  omega

def named (series : Series) : WireDraft :=
  { WireDraft.empty with id := some series.id, kind := some series.kind.name }

def drafted (series : Series) (number : Number) : Except Fault WireDraft :=
  match series with
  | .gauge _ => .ok { series.named with value := some (some number.toBinary64) }
  | .counter _ =>
    match number.toInt64? with
    | some delta => .ok { series.named with delta := some (some delta) }
    | none => .error .mismatch

theorem read_field {rest : Bytes} (closes : Closes rest) :
    series.named.read series.field (numeral.bytes ++ rest) =
      (numeral.reading.bind series.drafted).map (·, rest) := by
  obtain ⟨byte, tail, shape, visible, notNull, -⟩ := numeral.exists_first rest
  cases series with
  | gauge id =>
      have reads := @Numeral.readConverted_bytes numeral rest _
        (fun number => some number.toBinary64) closes
      rw [shape] at reads ⊢
      rw [field, WireDraft.read, readOptional_of_first readBinary64 visible notNull, readBinary64,
        reads]
      cases numeral.reading <;> rfl
  | counter id =>
      have reads := @Numeral.readConverted_bytes numeral rest _ Number.toInt64? closes
      rw [shape] at reads ⊢
      rw [field, WireDraft.read, readOptional_of_first readInt64 visible notNull, readInt64, reads]
      cases numeral.reading with
      | error fault => rfl
      | ok number =>
          cases integer : number.toInt64? <;>
            simp only [bind, Except.bind, drafted, integer] <;> rfl

theorem readRecord_spelled (series : Series) (numeral : Numeral) :
    WireDraft.readRecord Metric.wireOrder (series.spelled numeral) =
      (numeral.reading.bind series.drafted).map (·, []) := by
  have closes : Closes (ascii '\x7d' :: []) := .inr (.cons (by decide) [])
  have number := @read_field series numeral _ closes
  have unread : series.named.has series.field = false := by cases series <;> rfl
  generalize numeral.reading.bind series.drafted = drafted at number ⊢
  obtain ⟨fuel, enough⟩ : ∃ fuel, (Metric.memberText (.id, writeText series.id) ++
      WireDraft.laterMembers [(.kind, writeText series.kind.name), (series.field, numeral.bytes)]
        []).length = fuel + 3 := by
    refine Nat.exists_eq_add_of_le' ?_
    have later := WireDraft.length_lt_length_laterMembers
      [(.kind, writeText series.kind.name), (series.field, numeral.bytes)] []
    rw [List.length_append]
    exact later.trans_le (Nat.le_add_left _ _)
  rw [spelled_eq, WireDraft.readRecord, afterSpace_cons _ (by decide), if_neg (by decide),
    if_pos rfl, enough, (WireDraft.readMembers_member rfl _ _ _).1, WireDraft.read,
    readText_writeText, WireDraft.laterMembers_cons]
  simp only [bind, Except.bind, pure, Except.pure]
  rw [(WireDraft.readMembers_member rfl _ _ _).2, WireDraft.read, readText_writeText,
    WireDraft.laterMembers_cons]
  simp only [bind, Except.bind, pure, Except.pure]
  show WireDraft.readMembers (fuel + 1 + 1) false series.named
    (ascii ',' :: (Metric.memberText (series.field, numeral.bytes) ++ [ascii '\x7d'])) = _
  rw [(WireDraft.readMembers_member unread _ _ _).2, number]
  cases drafted with
  | error fault => rfl
  | ok draft =>
      show WireDraft.readMembers (fuel + 1) false draft [ascii '\x7d'] = _
      rw [WireDraft.readMembers, afterSpace_cons _ (by decide), if_pos rfl]
      rfl

theorem metric?_drafted (series : Series) (number : Number) :
    ((series.drafted number).bind WireDraft.metric?).toOption = series.asked number := by
  cases series with
  | gauge id => rfl
  | counter id =>
      rw [drafted, asked]
      cases number.toInt64? <;> rfl

theorem toOption_ofWire_spelled (series : Series) (numeral : Numeral) :
    (Metric.ofWire (series.spelled numeral)).toOption = series.decoded numeral := by
  have whole : (Metric.ofWire (series.spelled numeral)).toOption =
      ((numeral.reading.bind series.drafted).bind WireDraft.metric?).toOption := by
    simp only [Metric.ofWire, decode, Metric.readWire, readRecord_spelled]
    cases numeral.reading.bind series.drafted with
    | error fault => rfl
    | ok draft =>
        cases isMetric : draft.metric? <;>
          simp only [bind, Except.bind, Except.map, isMetric] <;> rfl
  rw [whole, decoded]
  cases numeral.reading with
  | error fault => rfl
  | ok number => exact series.metric?_drafted number

/-- Whether a number that is spelled so is sure to be read the same in an object and as a text. -/
def Agrees (series : Series) (numeral : Numeral) : Prop :=
  match series with
  | .gauge _ => numeral.IsExact
  | .counter _ => numeral.text ≠ "-0"

theorem decoded_counter (id : String) (numeral : Numeral) : (counter id).decoded numeral =
    if numeral.text = "-0" then none else (counter id).parsed numeral := by
  have integer := numeral.toInt64?_reading
  have whole : (counter id).decoded numeral =
      (numeral.reading.toOption.bind Number.toInt64?).map (.counter id) := by
    rw [decoded]
    cases numeral.reading <;> rfl
  rw [whole, integer]
  split <;> rfl

theorem decoded_of_agrees (brief : numeral.IsBrief) (agrees : series.Agrees numeral) :
    series.decoded numeral = series.parsed numeral := by
  cases series with
  | gauge id =>
      obtain ⟨number, reads, same⟩ := Numeral.reading_of_isExact brief agrees
      rw [decoded, reads]
      exact congrArg (fun value => some (Metric.gauge id value)) same
  | counter id => exact (decoded_counter id numeral).trans (if_neg agrees)

theorem decoded_gauge (brief : numeral.IsBrief) (id : String) :
    (∃ value : Binary64, value.IsWithin 7 numeral.double ∧
      (gauge id).decoded numeral = some (.gauge id value)) ∨
    Binary64.infinityMagnitude ≤ numeral.double.magnitude + 7 ∧
      (gauge id).decoded numeral = none := by
  rw [decoded]
  cases reads : numeral.reading with
  | ok number => exact .inl ⟨_, Numeral.isWithin_of_reading brief reads, rfl⟩
  | error fault => exact .inr ⟨Numeral.le_double_of_reading brief reads, rfl⟩

theorem parsed_minusZero (minusZero : numeral.text = "-0") (id : String) :
    (counter id).parsed numeral = some (.counter id 0) := by
  rw [parsed, minusZero]
  rfl

end Series

end Telemetry
