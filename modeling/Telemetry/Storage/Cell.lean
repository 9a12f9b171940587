import Telemetry.Binary64.Basic
import Telemetry.Metric.Sum

namespace Telemetry

open Telemetry

/-! The values in a table's columns and the arithmetic of queries on them: integers as long as they
fit 64 bits with a sign, doubles beyond, and nothing where an operand is missing. -/

inductive Cell where
  | null
  | integer (number : Int64)
  | real (number : Binary64)
  deriving DecidableEq, Repr

namespace Cell

/-- What a column of doubles keeps. It knows no value that is no number and only one zero. -/
def ofBinary64 (number : Binary64) : Cell :=
  if number.isNaN then .null
  else if number.isZero then .real .zero
  else .real number

def toBinary64? : Cell → Option Binary64
  | .null => none
  | .integer number => some (.ofInt number.toInt)
  | .real number => some number

/-- An integer result where it fits, else the doubles' result. -/
def arithmetic (onIntegers : Int → Int → Int) (onDoubles : Binary64 → Binary64 → Binary64)
    (left right : Cell) : Cell :=
  let inexact := match left.toBinary64?, right.toBinary64? with
    | some x, some y => ofBinary64 (onDoubles x y)
    | _, _ => .null
  match left, right with
  | .integer x, .integer y =>
    if Counter.Fits (onIntegers x.toInt y.toInt) then
      .integer (Int64.ofInt (onIntegers x.toInt y.toInt))
    else inexact
  | _, _ => inexact

def add : Cell → Cell → Cell := arithmetic (· + ·) .add

def sub : Cell → Cell → Cell := arithmetic (· - ·) .sub

def orElse : Cell → Cell → Cell
  | .null, other => other
  | cell, _ => cell

/-- The place of a cell's number among all numbers, in units of the least positive double. -/
def position? : Cell → Option Int
  | .null => none
  | .integer number => some (number.toInt * Binary64.unitsInOne)
  | .real number => some number.signedUnits

/-- Comparison; what is missing compares to nothing. -/
def le (left right : Cell) : Bool :=
  match left.position?, right.position? with
  | some x, some y => decide (x ≤ y)
  | _, _ => false

def lt (left right : Cell) : Bool :=
  match left.position?, right.position? with
  | some x, some y => decide (x < y)
  | _, _ => false

end Cell

end Telemetry
