import Telemetry.Binary64.Basic
import Telemetry.Decimal.Basic

namespace Telemetry.Decimal

open Telemetry

/-! The decimal numeral with the fewest digits that reads back as a given double. A numeral reads
back when it lies between the midpoints to the neighbouring doubles, the midpoints included exactly
when the low bit is clear. For each number of digits the two grid points around the double are the
only ones to try: if any point of the grid reads back, one of them does. -/

/-- Which of two numerals equally near to the double is written. -/
inductive Tie where
  | toEven
  | upward
  deriving DecidableEq, Repr

/-- A double's position between the midpoints to its neighbours, in units of `2 ^ (-1075)`. -/
structure Interval where
  low : Nat
  value : Nat
  high : Nat
  closed : Bool
  deriving DecidableEq, Repr

/-- The interval of the positive number with these low bits. -/
def Interval.ofMagnitude (magnitude : Nat) : Interval where
  low := Binary64.unitsOf (magnitude - 1) + Binary64.unitsOf magnitude
  value := 2 * Binary64.unitsOf magnitude
  high := Binary64.unitsOf magnitude + Binary64.unitsOf (magnitude + 1)
  closed := decide (magnitude % 2 = 0)

/-- The grid of multiples of a power of ten, laid over an interval: grid point `n` is at `n * step`
and the interval is stretched by `scale`. -/
structure Grid where
  exponent : Int
  step : Nat
  scale : Nat

def Grid.ofExponent (exponent : Int) : Grid where
  exponent := exponent
  step := 2 * Binary64.unitsInOne * Nat.pow 10 exponent.toNat
  scale := Nat.pow 10 (-exponent).toNat

def Grid.contains (grid : Grid) (interval : Interval) (point : Nat) : Bool :=
  let position := point * grid.step
  let low := interval.low * grid.scale
  let high := interval.high * grid.scale
  if interval.closed then decide (low ≤ position ∧ position ≤ high)
  else decide (low < position ∧ position < high)

/-- The grid point of the interval nearest to its value, if the interval holds one. -/
def Grid.pick? (grid : Grid) (tie : Tie) (interval : Interval) : Option Nat :=
  let value := interval.value * grid.scale
  let below := value / grid.step
  match grid.contains interval below, grid.contains interval (below + 1) with
  | false, false => none
  | true, false => some below
  | false, true => some (below + 1)
  | true, true =>
    let twice := 2 * value
    let middle := (2 * below + 1) * grid.step
    if twice < middle then some below
    else if middle < twice then some (below + 1)
    else match tie with
      | .toEven => some (below + below % 2)
      | .upward => some (below + 1)

/-- The number of places in front of the point, negative for zeros behind it: the least `places`
with the number below `10 ^ places`. -/
def places (magnitude : Nat) : Int :=
  (digits (Binary64.unitsOf magnitude * Nat.pow 10 400 / Binary64.unitsInOne)).length - 400

def shortestFrom (tie : Tie) (interval : Interval) (places : Int) : Nat → Nat → Decimal
  | 0, count =>
    let grid := Grid.ofExponent (places - count)
    ⟨interval.value * grid.scale / grid.step, grid.exponent⟩
  | fuel + 1, count =>
    let grid := Grid.ofExponent (places - count)
    match grid.pick? tie interval with
    | some point => ⟨point, grid.exponent⟩
    | none => shortestFrom tie interval places fuel (count + 1)

def shortest (tie : Tie) (magnitude : Nat) : Decimal :=
  dropZeros 20 (shortestFrom tie (Interval.ofMagnitude magnitude) (places magnitude) 17 1)

end Telemetry.Decimal
