import Telemetry.Gzip.Bits

namespace Telemetry.Gzip

open Telemetry

/-! Canonical codes. The widths of the code words determine them: words are numbered in order of
width and, at the same width, of symbol. -/

/-- How many symbols have a word of each width from 1 to 15, and the symbols in order of their
words. -/
structure Code where
  counts : List Nat
  symbols : Array Nat
  deriving Repr

namespace Code

def greatestWidth : Nat := 15

/-- The code with these widths, a symbol's width at its place; width zero means that the symbol has
no word. -/
def ofWidths (widths : List Nat) : Code :=
  let numbered := widths.zipIdx
  let places := (List.range greatestWidth).map (· + 1)
  { counts := places.map fun width => widths.count width
    symbols := (places.flatMap fun width =>
      numbered.filterMap fun (each, symbol) => if each = width then some symbol else none).toArray }

/-- How much of the words of the greatest width the code uses up, `2 ^ 15` when it is complete. -/
def weight (code : Code) : Nat :=
  code.counts.foldr (fun count (total : Nat × Nat) => (total.1 + count * total.2, 2 * total.2))
    (0, 1) |>.1

def isComplete (code : Code) : Bool := code.weight = 1 <<< greatestWidth

/-- Whether the code may stand for lengths or distances: it is complete or has at most one word. -/
def isUsable (code : Code) : Bool := code.isComplete || code.symbols.size ≤ 1

/-- Reads a word bit by bit. The words of the width reached begin with number `first` at place
`index` of the symbols. -/
def readWith (symbols : Array Nat) :
    List Nat → Nat → Nat → Nat → BitSource → Except GzipFault (Nat × BitSource)
  | [], _, _, _, _ => .error .corruptData
  | count :: counts, word, first, index, source => do
    let (bit, source) ← source.readBit
    let word := 2 * word + bit
    if word < first + count then
      match symbols[index + (word - first)]? with
      | some symbol => return (symbol, source)
      | none => .error .corruptData
    else readWith symbols counts word (2 * (first + count)) (index + count) source

def readSymbol (code : Code) (source : BitSource) : Except GzipFault (Nat × BitSource) :=
  readWith code.symbols code.counts 0 0 0 source

end Code

end Telemetry.Gzip
