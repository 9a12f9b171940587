namespace Telemetry

/-! Double-precision numbers held as their 64 bits. The low 63 bits order the non-negative numbers,
so rounding is arithmetic on them: `nearest` sends a quotient to the low bits of the double closest
to it. -/

structure Binary64 where
  bits : UInt64
  deriving DecidableEq, Repr, Inhabited

namespace Binary64

/-- The low bits of the least number that has all its digits; with as many more come the numbers
twice as great. -/
def leastNormal : Nat := 0x10000000000000

/-- How often the least positive number goes into one. -/
def unitsInOne : Nat := 1 <<< 1074

/-- The low 63 bits of infinity; larger ones belong to no number. -/
def infinityMagnitude : Nat := 2047 * leastNormal

def magnitude (x : Binary64) : Nat := x.bits.toNat % 0x8000000000000000

def negative (x : Binary64) : Bool := decide (0x8000000000000000 ≤ x.bits.toNat)

def ofMagnitude (negative : Bool) (magnitude : Nat) : Binary64 :=
  ⟨UInt64.ofNat (magnitude + if negative then 0x8000000000000000 else 0)⟩

def zero : Binary64 := ofMagnitude false 0
def infinity : Binary64 := ofMagnitude false infinityMagnitude
def nan : Binary64 := ofMagnitude false (infinityMagnitude + 0x8000000000000)

def isNaN (x : Binary64) : Bool := decide (infinityMagnitude < x.magnitude)
def isInfinite (x : Binary64) : Bool := decide (x.magnitude = infinityMagnitude)
def isFinite (x : Binary64) : Bool := decide (x.magnitude < infinityMagnitude)
def isZero (x : Binary64) : Bool := decide (x.magnitude = 0)

def neg (x : Binary64) : Binary64 := ofMagnitude (!x.negative) x.magnitude

/-- The number with these low bits, in units of the least positive number, `2 ^ (-1074)`. -/
def unitsOf (magnitude : Nat) : Nat :=
  let exponent := magnitude / leastNormal
  let fraction := magnitude % leastNormal
  if exponent = 0 then fraction else (leastNormal + fraction) <<< (exponent - 1)

def units (x : Binary64) : Nat := unitsOf x.magnitude

/-- The integer nearest to a quotient, a half going to the even neighbour. -/
def roundHalfEven (numerator denominator : Nat) : Nat :=
  let quotient := numerator / denominator
  let twice := 2 * (numerator % denominator)
  if twice < denominator then quotient
  else if denominator < twice then quotient + 1
  else quotient + quotient % 2

/-- The low bits of the double nearest to a quotient, a half going to the even neighbour. -/
def nearest (numerator denominator : Nat) : Nat :=
  let scaled := numerator * unitsInOne
  let shift := (scaled / denominator).log2 - 52
  min (shift * leastNormal + roundHalfEven scaled (denominator <<< shift)) infinityMagnitude

def ofRatio (negative : Bool) (numerator denominator : Nat) : Binary64 :=
  ofMagnitude negative (nearest numerator denominator)

def ofNat (number : Nat) : Binary64 := ofRatio false number 1

def ofInt (number : Int) : Binary64 := ofRatio (decide (number < 0)) number.natAbs 1

def mul (x y : Binary64) : Binary64 :=
  let sign := x.negative != y.negative
  if x.isNaN || y.isNaN || (x.isInfinite && y.isZero) || (x.isZero && y.isInfinite) then nan
  else if x.isInfinite || y.isInfinite then ofMagnitude sign infinityMagnitude
  else ofRatio sign (x.units * y.units) (unitsInOne * unitsInOne)

def div (x y : Binary64) : Binary64 :=
  let sign := x.negative != y.negative
  if x.isNaN || y.isNaN || (x.isInfinite && y.isInfinite) || (x.isZero && y.isZero) then nan
  else if x.isInfinite || y.isZero then ofMagnitude sign infinityMagnitude
  else if y.isInfinite then ofMagnitude sign 0
  else ofRatio sign x.units y.units

/-- The number itself in units of the least positive number; infinities lie beyond all others. -/
def signedUnits (x : Binary64) : Int := if x.negative then -x.units else x.units

/-- The sum, rounded once. A sum of nothing is negative only if both terms are. -/
def add (x y : Binary64) : Binary64 :=
  if x.isNaN || y.isNaN || (x.isInfinite && y.isInfinite && x.negative != y.negative) then nan
  else if x.isInfinite then x
  else if y.isInfinite then y
  else
    let total := x.signedUnits + y.signedUnits
    let sign := if total = 0 then x.negative && y.negative else decide (total < 0)
    ofRatio sign total.natAbs unitsInOne

def sub (x y : Binary64) : Binary64 := add x (neg y)

end Binary64

end Telemetry
