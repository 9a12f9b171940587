import Telemetry.Proofs.Metric.Line
import Telemetry.Text.Percent

namespace Telemetry

open Telemetry

/-! Every text can be written percent-encoded, without any character that divides a path. -/

namespace Bytes

theorem ofChars_of_lt {chars : List Char} (small : ∀ c ∈ chars, c.toNat < 128) :
    ofChars chars = chars.map Json.ascii := by
  induction chars with
  | nil => rfl
  | cons c chars induction =>
      have one : String.utf8EncodeChar c = [Json.ascii c] := by
        have bounded : c.val.toNat ≤ 0x7F := Nat.le_of_lt_succ (small c List.mem_cons_self)
        simp only [String.utf8EncodeChar, if_pos bounded]
        rfl
      have others := induction fun other member => small other (List.mem_cons_of_mem _ member)
      rw [ofChars, List.flatMap_cons, one, List.map_cons]
      exact congrArg _ others

theorem ofText_append (text other : String) :
    ofText (text ++ other) = ofText text ++ ofText other := by
  show (text ++ other).toByteArray.data.toList = _
  rw [String.toByteArray_append, ByteArray.data_append, Array.toList_append]
  rfl

theorem ofText_of_toText? {bytes : Bytes} {text : String} (isText : toText? bytes = some text) :
    ofText text = bytes := by
  unfold toText? String.fromUTF8? at isText
  split at isText
  · rw [← Option.some.inj isText]
    rfl
  · cases isText

end Bytes

namespace Text.Percent

def encodeByte (byte : UInt8) : List Char :=
  ['%', Hex.digit (byte.toNat / 16), Hex.digit (byte.toNat % 16)]

def encode (text : String) : String := String.ofList ((Bytes.ofText text).flatMap encodeByte)

theorem digit_plain : ∀ nibble : Fin 16,
    Hex.value? (Char.ofNat (Json.ascii (Hex.digit nibble)).toNat) = some nibble.val ∧
      (Hex.digit nibble).toNat < 128 ∧ Hex.digit nibble ≠ '/' := by
  decide

theorem decode_encodeByte (byte : UInt8) (rest : Bytes) :
    decode ((encodeByte byte).map Json.ascii ++ rest) = byte :: decode rest := by
  have bounded := byte.toNat_lt
  have high := (digit_plain ⟨byte.toNat / 16, by omega⟩).1
  have low := (digit_plain ⟨byte.toNat % 16, by omega⟩).1
  have whole : byte.toNat / 16 * 16 + byte.toNat % 16 = byte.toNat := by omega
  simp only [encodeByte, List.map_cons, List.map_nil, List.cons_append, List.nil_append, decode,
    high, low, whole, UInt8.ofNat_toNat]
  exact if_pos rfl

theorem decode_flatMap_encodeByte (bytes : Bytes) :
    decode ((bytes.flatMap encodeByte).map Json.ascii) = bytes := by
  induction bytes with
  | nil => rfl
  | cons byte bytes induction =>
      rw [List.flatMap_cons, List.map_append, decode_encodeByte, induction]

theorem mem_encodeByte {byte : UInt8} {c : Char} (member : c ∈ encodeByte byte) :
    c.toNat < 128 ∧ c ≠ '/' := by
  have bounded := byte.toNat_lt
  simp only [encodeByte, List.mem_cons, List.not_mem_nil, or_false] at member
  rcases member with rfl | rfl | rfl
  · decide
  · exact (digit_plain ⟨byte.toNat / 16, by omega⟩).2
  · exact (digit_plain ⟨byte.toNat % 16, by omega⟩).2

theorem mem_flatMap_encodeByte {bytes : Bytes} {c : Char} (member : c ∈ bytes.flatMap encodeByte) :
    c.toNat < 128 ∧ c ≠ '/' := by
  obtain ⟨byte, -, isWritten⟩ := List.mem_flatMap.mp member
  exact mem_encodeByte isWritten

theorem mem_encode {text : String} {c : Char} (member : c ∈ (encode text).toList) :
    c.toNat < 128 ∧ c ≠ '/' := by
  rw [encode, String.toList_ofList] at member
  exact mem_flatMap_encodeByte member

theorem ofText_encode (text : String) : Bytes.ofText (encode text) =
    ((Bytes.ofText text).flatMap encodeByte).map Json.ascii := by
  rw [encode, Bytes.ofText_ofList]
  exact Bytes.ofChars_of_lt fun c member => (mem_flatMap_encodeByte member).1

theorem decodeText?_encode (text : String) : decodeText? (encode text) = some text := by
  rw [decodeText?, ofText_encode, decode_flatMap_encodeByte, Bytes.toText?_ofText]

theorem length_encode (text : String) :
    (Bytes.ofText (encode text)).length = 3 * (Bytes.ofText text).length := by
  have three : ∀ byte ∈ Bytes.ofText text, (encodeByte byte).length = 3 := fun _ _ => rfl
  rw [ofText_encode, List.length_map, List.length_flatMap, List.map_congr_left three,
    List.map_const', List.sum_replicate_nat, Nat.mul_comm]

theorem decode_cons {byte : UInt8} (plain : byte ≠ 0x25) (rest : Bytes) :
    decode (byte :: rest) = byte :: decode rest := by
  match rest with
  | [] => rfl
  | [_] => rfl
  | _ :: _ :: _ => rw [decode, if_neg plain]

theorem decode_plain {bytes : Bytes} (plain : ∀ byte ∈ bytes, byte ≠ 0x25) :
    decode bytes = bytes := by
  induction bytes with
  | nil => rfl
  | cons byte bytes induction =>
      rw [decode_cons (plain byte List.mem_cons_self),
        induction fun other member => plain other (List.mem_cons_of_mem _ member)]

theorem decodeText?_plain {text : String} (plain : ∀ byte ∈ Bytes.ofText text, byte ≠ 0x25) :
    decodeText? text = some text := by
  rw [decodeText?, decode_plain plain, Bytes.toText?_ofText]

theorem length_decode_le (bytes : Bytes) : (decode bytes).length ≤ bytes.length := by
  fun_induction decode bytes with
  | case1 => exact Nat.le_refl 0
  | case2 high low rest highValue isHigh lowValue isLow induction =>
      rw [List.length_cons, List.length_cons, List.length_cons, List.length_cons]
      omega
  | case3 high low rest undecoded induction => exact Nat.succ_le_succ induction
  | case4 byte high low rest plain induction => exact Nat.succ_le_succ induction
  | case5 byte rest short induction => exact Nat.succ_le_succ induction

theorem length_le_of_decodeText? {encoded text : String}
    (decodes : decodeText? encoded = some text) :
    (Bytes.ofText text).length ≤ (Bytes.ofText encoded).length := by
  rw [Bytes.ofText_of_toText? decodes]
  exact length_decode_le _

end Text.Percent

end Telemetry
