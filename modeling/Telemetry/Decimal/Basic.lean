namespace Telemetry

/-! Decimal numerals: a coefficient and a power of ten. -/

/-- The number `coefficient * 10 ^ exponent`. -/
structure Decimal where
  coefficient : Nat
  exponent : Int
  deriving DecidableEq, Repr

namespace Decimal

def digitChar (digit : Nat) : Char := Char.ofNat (48 + digit)

def digitsAux : Nat → Nat → List Char → List Char
  | 0, _, tail => tail
  | fuel + 1, number, tail =>
    if number < 10 then digitChar number :: tail
    else digitsAux fuel (number / 10) (digitChar (number % 10) :: tail)

/-- The decimal digits of a number; zero has one. -/
def digits (number : Nat) : List Char := digitsAux (number.log2 + 1) number []

def padded (width number : Nat) : List Char :=
  let written := digits number
  List.replicate (width - written.length) '0' ++ written

def isDigit (c : Char) : Bool := '0' ≤ c ∧ c ≤ '9'

def digitValue (c : Char) : Nat := c.toNat - 48

def ofDigits (written : List Char) : Nat :=
  written.foldl (fun total c => 10 * total + digitValue c) 0

def ofInt (number : Int) : List Char :=
  if number < 0 then '-' :: digits number.natAbs else digits number.natAbs

def intText (number : Int) : String := String.ofList (ofInt number)

def natText (number : Nat) : String := String.ofList (digits number)

/-- The same number without zeros at the end of its coefficient. -/
def dropZeros (fuel : Nat) (decimal : Decimal) : Decimal :=
  match fuel with
  | 0 => decimal
  | fuel + 1 =>
    if decimal.coefficient % 10 = 0 ∧ decimal.coefficient ≠ 0 then
      dropZeros fuel ⟨decimal.coefficient / 10, decimal.exponent + 1⟩
    else decimal

end Decimal

end Telemetry
