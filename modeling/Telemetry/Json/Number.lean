import Telemetry.Json.Basic
import Telemetry.Binary64.Basic

namespace Telemetry.Json

open Telemetry

/-! Numbers. Up to 64 bits of digits are kept exactly; later whole digits only raise the power of
ten and later fraction digits are dropped. A number with a fraction, a power of ten or too many
digits is the kept significand, rounded, times or divided by a rounded power of ten, so it need not
be the double nearest to its text. -/

inductive Number where
  | natural (value : Nat)
  | negative (value : Int)
  | double (value : Binary64)
  deriving DecidableEq, Repr

def significandLimit : Nat := 0xFFFFFFFFFFFFFFFF

def exponentLimit : Nat := 0x7FFFFFFF

def powerOfTen (exponent : Nat) : Binary64 := Binary64.ofNat (Nat.pow 10 exponent)

/-- Adds digits to a significand as long as it stays within the limit: the significand, the number
of digits taken, and the rest. -/
def accumulate (significand taken : Nat) : Bytes → Nat × Nat × Bytes
  | [] => (significand, taken, [])
  | byte :: rest =>
    let next := significand * 10 + digitValue byte
    if isDigit byte && decide (next ≤ significandLimit) then accumulate next (taken + 1) rest
    else (significand, taken, byte :: rest)

/-- Divides by powers of ten up to the three-hundred-and-eighth until all are divided out or nothing
is left. -/
def divideByPower : Nat → Binary64 → Nat → Binary64
  | 0, x, _ => x
  | fuel + 1, x, exponent =>
    if exponent ≤ 308 then x.div (powerOfTen exponent)
    else if x.isZero then x
    else divideByPower fuel (x.div (powerOfTen 308)) (exponent - 308)

/-- The double that stands for `significand * 10 ^ exponent`; one that is too large is a fault. -/
def scaled (significand : Nat) (exponent : Int) : Except Fault Binary64 :=
  let x := Binary64.ofNat significand
  if exponent < 0 then .ok (divideByPower 4 x exponent.natAbs)
  else if exponent ≤ 308 then
    let product := x.mul (powerOfTen exponent.natAbs)
    if product.isInfinite then .error .malformed else .ok product
  else if x.isZero then .ok x
  else .error .malformed

def signed (negative : Bool) (x : Binary64) : Number := .double (if negative then x.neg else x)

def readScaled (negative : Bool) (significand : Nat) (exponent : Int) : Reader Number :=
  fun bytes => do return (signed negative (← scaled significand exponent), bytes)

/-- What follows the `e` of a number. A power of ten beyond the limit is an infinity, which is a
fault, or leaves nothing. -/
def readPower (negative : Bool) (significand : Nat) (start : Int) : Reader Number := fun bytes =>
  let (down, bytes) := match bytes with
    | byte :: rest =>
      if byte = ascii '+' then (false, rest)
      else if byte = ascii '-' then (true, rest)
      else (false, bytes)
    | [] => (false, [])
  match bytes with
  | [] => .error .unexpectedEnd
  | byte :: _ =>
    if !isDigit byte then .error .malformed
    else
      let power := (bytes.takeWhile isDigit).foldl (fun n byte => n * 10 + digitValue byte) 0
      let rest := bytes.dropWhile isDigit
      if exponentLimit < power then
        if significand ≠ 0 && !down then .error .malformed
        else .ok (signed negative Binary64.zero, rest)
      else readScaled negative significand (if down then start - power else start + power) rest

def readTail (negative : Bool) (significand : Nat) (exponent : Int) : Reader Number
  | [] => readScaled negative significand exponent []
  | byte :: rest =>
    if byte = ascii 'e' || byte = ascii 'E' then readPower negative significand exponent rest
    else readScaled negative significand exponent (byte :: rest)

/-- What follows the point of a number; at least one digit does. -/
def readFraction (negative : Bool) (significand : Nat) (start : Int) : Reader Number := fun bytes =>
  let (significand, taken, rest) := accumulate significand 0 bytes
  let exponent := start - taken
  match rest with
  | [] => if taken = 0 then .error .unexpectedEnd else readTail negative significand exponent []
  | byte :: _ =>
    if isDigit byte then readTail negative significand exponent (rest.dropWhile isDigit)
    else if taken = 0 then .error .malformed
    else readTail negative significand exponent rest

/-- What follows a significand that the next digit would push over the limit. -/
def readLong (negative : Bool) (significand : Nat) : Reader Number := fun bytes =>
  let exponent := (bytes.takeWhile isDigit).length
  match bytes.dropWhile isDigit with
  | [] => readTail negative significand exponent []
  | byte :: rest =>
    if byte = ascii '.' then readFraction negative significand exponent rest
    else readTail negative significand exponent (byte :: rest)

/-- A whole number as an exact integer where it fits: minus zero is the double. -/
def whole (negative : Bool) (significand : Nat) : Number :=
  if !negative then .natural significand
  else if significand = 0 || decide (0x8000000000000000 < significand) then
    .double (Binary64.ofNat significand).neg
  else .negative (-significand)

/-- What follows a significand within the limit. -/
def readShort (negative : Bool) (significand : Nat) : Reader Number
  | [] => .ok (whole negative significand, [])
  | byte :: rest =>
    if isDigit byte then readLong negative significand (byte :: rest)
    else if byte = ascii '.' then readFraction negative significand 0 rest
    else if byte = ascii 'e' || byte = ascii 'E' then readPower negative significand 0 rest
    else .ok (whole negative significand, byte :: rest)

/-- A number behind its sign. A zero in front of another digit is a fault. -/
def readUnsigned (negative : Bool) : Reader Number
  | [] => .error .unexpectedEnd
  | byte :: rest =>
    if byte = ascii '0' then
      match rest with
      | [] => readShort negative 0 []
      | next :: _ => if isDigit next then .error .malformed else readShort negative 0 rest
    else if isDigit byte then
      let (significand, _, rest) := accumulate (digitValue byte) 1 rest
      readShort negative significand rest
    else .error .malformed

def readNumber : Reader Number
  | [] => .error .unexpectedEnd
  | byte :: rest =>
    if byte = ascii '-' then readUnsigned true rest else readUnsigned false (byte :: rest)

def Number.toBinary64 : Number → Binary64
  | .natural value => Binary64.ofNat value
  | .negative value => Binary64.ofInt value
  | .double value => value

/-- The integer of 64 bits that an exact whole number is. -/
def Number.toInt64? : Number → Option Int64
  | .natural value => if value < 0x8000000000000000 then some (Int64.ofInt value) else none
  | .negative value => if -0x8000000000000000 ≤ value then some (Int64.ofInt value) else none
  | .double _ => none

end Telemetry.Json
