import Telemetry.Decimal.Shortest

namespace Telemetry.Decimal

open Telemetry

/-! The three written forms of a double: the wire form, the plain form and six fixed places. Each
form says how it breaks ties, where it leaves positional notation and what it writes for values that
are no numbers. -/

def zeros (count : Int) : List Char := List.replicate count.toNat '0'

/-- Positional notation; the point is written only in front of a digit. -/
def positional (decimal : Decimal) : List Char :=
  let written := digits decimal.coefficient
  let point : Int := written.length + decimal.exponent
  if 0 ≤ decimal.exponent then written ++ zeros decimal.exponent
  else if 0 < point then written.take point.toNat ++ '.' :: written.drop point.toNat
  else '0' :: '.' :: zeros (-point) ++ written

/-- One digit, the point and the other digits, and a signed power of ten. -/
def scientific (decimal : Decimal) : List Char :=
  let written := digits decimal.coefficient
  let power : Int := written.length + decimal.exponent - 1
  let fraction := match written.drop 1 with
    | [] => []
    | rest => '.' :: rest
  written.take 1 ++ fraction ++ 'e' :: (if power < 0 then '-' else '+') :: digits power.natAbs

def sign (x : Binary64) : List Char := if x.negative then ['-'] else []

def special (x : Binary64) : List Char :=
  if x.isNaN then "NaN".toList else sign x ++ "inf".toList

/-- The plain form: the shortest digits in positional notation whatever the size, a whole number
without a point. -/
def plainChars (x : Binary64) : List Char :=
  if x.isFinite then
    sign x ++ if x.isZero then ['0'] else positional (shortest .upward x.magnitude)
  else special x

def plain (x : Binary64) : String := String.ofList (plainChars x)

/-- The wire form of a finite number: the shortest digits, positional from `10 ^ (-5)` up to
`10 ^ 16`, and always with a point or a power of ten. -/
def wireChars (x : Binary64) : List Char :=
  sign x ++
    if x.isZero then "0.0".toList
    else
      let decimal := shortest .toEven x.magnitude
      let point : Int := (digits decimal.coefficient).length + decimal.exponent
      if -5 < point ∧ point ≤ 16 then
        positional decimal ++ if 0 ≤ decimal.exponent then ".0".toList else []
      else scientific decimal

/-- Six places behind the point, the exact value rounded with a half going to the even digit. -/
def sixPlacesChars (x : Binary64) : List Char :=
  if x.isFinite then
    let millionths := Binary64.roundHalfEven (x.units * 1000000) Binary64.unitsInOne
    sign x ++ digits (millionths / 1000000) ++ '.' :: padded 6 (millionths % 1000000)
  else special x

def sixPlaces (x : Binary64) : String := String.ofList (sixPlacesChars x)

end Telemetry.Decimal
