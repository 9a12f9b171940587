import Telemetry.Bytes

namespace Telemetry.Hex

open Telemetry

/-! Octets as pairs of hexadecimal digits. Writing is lowercase; reading takes either case. -/

def digit (nibble : Nat) : Char :=
  if nibble < 10 then Char.ofNat (48 + nibble) else Char.ofNat (87 + nibble)

def value? (digit : Char) : Option Nat :=
  if '0' ≤ digit ∧ digit ≤ '9' then some (digit.toNat - 48)
  else if 'a' ≤ digit ∧ digit ≤ 'f' then some (digit.toNat - 87)
  else if 'A' ≤ digit ∧ digit ≤ 'F' then some (digit.toNat - 55)
  else none

def digits (byte : UInt8) : List Char := [digit (byte.toNat / 16), digit (byte.toNat % 16)]

def encodeChars (bytes : Bytes) : List Char := bytes.flatMap digits

def encode (bytes : Bytes) : String := String.ofList (encodeChars bytes)

/-- Refuses an odd number of digits and anything that is no digit. -/
def decodeChars : List Char → Option Bytes
  | [] => some []
  | [_] => none
  | high :: low :: rest => do
    let high ← value? high
    let low ← value? low
    let rest ← decodeChars rest
    return UInt8.ofNat (16 * high + low) :: rest

def decode (text : String) : Option Bytes := decodeChars text.toList

theorem decodeChars_digits (byte : UInt8) (rest : List Char) :
    decodeChars (digits byte ++ rest) = (decodeChars rest).map (byte :: ·) := by
  have nibbles : ∀ high low : Fin 16,
      (value? (digit high), value? (digit low)) = (some high.val, some low.val) := by decide
  have split := nibbles ⟨byte.toNat / 16, by have := byte.toNat_lt; omega⟩
    ⟨byte.toNat % 16, by omega⟩
  simp only [Prod.mk.injEq] at split
  have whole : UInt8.ofNat (16 * (byte.toNat / 16) + byte.toNat % 16) = byte := by
    rw [Nat.div_add_mod]; exact UInt8.ofNat_toNat
  simp only [digits, List.cons_append, List.nil_append, decodeChars, split.1, split.2]
  cases decodeChars rest with
  | none => rfl
  | some rest => exact congrArg (fun byte => some (byte :: rest)) whole

theorem decodeChars_encodeChars (bytes : Bytes) : decodeChars (encodeChars bytes) = some bytes := by
  induction bytes with
  | nil => rfl
  | cons byte rest induction =>
    rw [encodeChars, List.flatMap_cons, decodeChars_digits, ← encodeChars, induction]
    rfl

@[simp] theorem decode_encode (bytes : Bytes) : decode (encode bytes) = some bytes := by
  simp [decode, encode, decodeChars_encodeChars]

end Telemetry.Hex
