import Telemetry.Hex

namespace Telemetry.Text.Percent

open Telemetry

/-! Octets written as a percent sign and two hexadecimal digits. -/

/-- The octets that a text stands for; a percent sign without two digits stands for itself. -/
def decode : Bytes → Bytes
  | [] => []
  | byte :: high :: low :: rest =>
    if byte = 0x25 then
      match Hex.value? (Char.ofNat high.toNat), Hex.value? (Char.ofNat low.toNat) with
      | some high, some low => UInt8.ofNat (high * 16 + low) :: decode rest
      | _, _ => byte :: decode (high :: low :: rest)
    else byte :: decode (high :: low :: rest)
  | byte :: rest => byte :: decode rest

/-- The decoded text, if that is well-formed. -/
def decodeText? (text : String) : Option String := Bytes.toText? (decode (Bytes.ofText text))

/-- The names and values of a query: parts between ampersands, each divided at its first equals
sign, a plus sign standing for a space. -/
def pairs (query : String) : List (Bytes × Bytes) :=
  let plain (part : Bytes) := decode (part.map fun byte => if byte = 0x2B then 0x20 else byte)
  ((Bytes.ofText query).splitOn 0x26).filterMap fun part =>
    if part.isEmpty then none
    else some (plain (part.takeWhile (· ≠ 0x3D)), plain ((part.dropWhile (· ≠ 0x3D)).drop 1))

end Telemetry.Text.Percent
