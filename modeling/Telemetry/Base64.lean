import Telemetry.Bytes

namespace Telemetry.Base64

open Telemetry

/-! Octets in groups of three, written as four characters of six bits each. -/

def value? (byte : UInt8) : Option Nat :=
  let c := Char.ofUInt8 byte
  if 'A' ≤ c ∧ c ≤ 'Z' then some (c.toNat - 65)
  else if 'a' ≤ c ∧ c ≤ 'z' then some (c.toNat - 71)
  else if '0' ≤ c ∧ c ≤ '9' then some (c.toNat + 4)
  else if c = '+' then some 62
  else if c = '/' then some 63
  else none

def filler : UInt8 := '='.toUInt8

/-- The last group, which may stand for one or two octets; bits that belong to no octet are zero. -/
def decodeLast (a b c d : UInt8) : Option Bytes := do
  let first ← value? a
  let second ← value? b
  if c = filler then
    if d = filler ∧ second % 16 = 0 then some [UInt8.ofNat (first * 4 + second / 16)] else none
  else
    let third ← value? c
    let octets := [UInt8.ofNat (first * 4 + second / 16), UInt8.ofNat (second * 16 + third / 4)]
    if d = filler then if third % 4 = 0 then some octets else none
    else
      let fourth ← value? d
      some (octets ++ [UInt8.ofNat (third * 64 + fourth)])

/-- Reads whole groups; only the last may be filled up. -/
def decode : Bytes → Option Bytes
  | [] => some []
  | [a, b, c, d] => decodeLast a b c d
  | a :: b :: c :: d :: rest =>
    if c = filler ∨ d = filler then none
    else do
      let octets ← decodeLast a b c d
      let rest ← decode rest
      some (octets ++ rest)
  | _ => none

end Telemetry.Base64
