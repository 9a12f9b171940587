import Telemetry.Binary64.Basic
import Telemetry.Decimal.Basic

namespace Telemetry.Decimal

open Telemetry

/-! Reading numbers from text: signed integers of a given width and correctly rounded doubles. -/

/-- The low bits of the double nearest to a numeral. Numerals far outside the range of the doubles
are sorted out by their number of places, so that no huge power of ten is formed. -/
def toMagnitude (decimal : Decimal) : Nat :=
  let places : Int := (digits decimal.coefficient).length + decimal.exponent
  if decimal.coefficient = 0 ∨ places < -330 then 0
  else if 320 < places then Binary64.infinityMagnitude
  else if 0 ≤ decimal.exponent then
    Binary64.nearest (decimal.coefficient * Nat.pow 10 decimal.exponent.toNat) 1
  else Binary64.nearest decimal.coefficient (Nat.pow 10 (-decimal.exponent).toNat)

/-- A sign in front, if there is one: whether it is a minus, and the rest. -/
def takeSign : List Char → Bool × List Char
  | '-' :: rest => (true, rest)
  | '+' :: rest => (false, rest)
  | rest => (false, rest)

/-- A non-empty run of digits up to the end, with an optional plus in front, of at most `limit`. -/
def readNat? (limit : Nat) (written : List Char) : Option Nat :=
  let written := match written with
    | '+' :: rest => rest
    | _ => written
  if written.isEmpty || !written.all isDigit then none
  else
    let number := ofDigits written
    if number ≤ limit then some number else none

def readUInt64? (text : String) : Option UInt64 :=
  (readNat? 0xFFFFFFFFFFFFFFFF text.toList).map UInt64.ofNat

/-- A non-empty run of digits up to the end, with an optional sign in front, that fits 64 bits. -/
def readInt64? (text : String) : Option Int64 :=
  let (negative, written) := takeSign text.toList
  if written.isEmpty || !written.all isDigit then none
  else
    let number : Int := if negative then -(ofDigits written) else ofDigits written
    if -0x8000000000000000 ≤ number ∧ number < 0x8000000000000000 then
      some (Int64.ofInt number)
    else none

/-- A power of ten after `e` or `E`: an optional sign and at least one digit, up to the end. -/
def readExponent? : List Char → Option Int
  | [] => some 0
  | mark :: rest =>
    if mark = 'e' ∨ mark = 'E' then
      let (negative, written) := takeSign rest
      if written.isEmpty || !written.all isDigit then none
      else some (if negative then -(ofDigits written) else ofDigits written)
    else none

/-- Digits with an optional point among them and an optional power of ten; at least one digit stands
before or behind the point. -/
def readDecimal? (written : List Char) : Option Decimal :=
  let whole := written.takeWhile isDigit
  let rest := written.dropWhile isDigit
  let (fraction, rest) := match rest with
    | '.' :: rest => (rest.takeWhile isDigit, rest.dropWhile isDigit)
    | _ => ([], rest)
  if whole.isEmpty && fraction.isEmpty then none
  else (readExponent? rest).map fun exponent =>
    ⟨ofDigits (whole ++ fraction), exponent - fraction.length⟩

/-- The double nearest to a decimal text, or the one that `nan`, `inf` or `infinity` names in any
case. -/
def readDouble? (text : String) : Option Binary64 :=
  let (negative, written) := takeSign text.toList
  let name := written.map Char.toLower
  if name = "nan".toList then some (if negative then Binary64.nan.neg else Binary64.nan)
  else if name = "inf".toList ∨ name = "infinity".toList then
    some (Binary64.ofMagnitude negative Binary64.infinityMagnitude)
  else (readDecimal? written).map fun decimal =>
    Binary64.ofMagnitude negative (toMagnitude decimal)

end Telemetry.Decimal
