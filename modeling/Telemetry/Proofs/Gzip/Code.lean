import Telemetry.Gzip.Deflate
import Telemetry.Proofs.Gzip.Bits

namespace Telemetry.Gzip

open Telemetry

/-! The words and the numbers that a packing is made of are read as they were meant. -/

namespace Code

/-- What a code makes of bits, and the bits that are left. -/
def decodeWith (symbols : Array Nat) :
    List Nat → Nat → Nat → Nat → List Nat → Option (Nat × List Nat)
  | [], _, _, _, _ => none
  | _ :: _, _, _, _, [] => none
  | count :: counts, word, first, index, bit :: bits =>
    let word := 2 * word + bit
    if word < first + count then symbols[index + (word - first)]?.map fun symbol => (symbol, bits)
    else decodeWith symbols counts word (2 * (first + count)) (index + count) bits

def decode (code : Code) (bits : List Nat) : Option (Nat × List Nat) :=
  decodeWith code.symbols code.counts 0 0 0 bits

theorem readWith_of_decodeWith {symbols : Array Nat} {counts : List Nat} {word first index : Nat}
    {bits more left : List Nat} {symbol : Nat} {source : BitSource} {rest : Bytes}
    (decoded : decodeWith symbols counts word first index bits = some (symbol, left))
    (holds : source.Holds (bits ++ more) rest) :
    ∃ next, readWith symbols counts word first index source = .ok (symbol, next) ∧
      next.Holds (left ++ more) rest := by
  induction counts generalizing word first index bits source with
  | nil => cases decoded
  | cons count counts induction =>
      cases bits with
      | nil => cases decoded
      | cons bit bits =>
          obtain ⟨next, read, nextHolds⟩ := holds.readBit
          rw [decodeWith] at decoded
          simp only [readWith, read, bind, Except.bind]
          split at decoded
          · next within =>
              obtain ⟨found, isFound, same⟩ := Option.map_eq_some_iff.mp decoded
              obtain ⟨rfl, rfl⟩ := Prod.mk.inj same
              rw [if_pos within, isFound]
              exact ⟨next, rfl, nextHolds⟩
          · next beyond =>
              rw [if_neg beyond]
              exact induction decoded nextHolds

/-- A word stands for a symbol whatever follows it. -/
theorem readSymbol_of_decode {code : Code} {word bits : List Nat} {symbol : Nat}
    {source : BitSource} {rest : Bytes} (decoded : code.decode word = some (symbol, []))
    (holds : source.Holds (word ++ bits) rest) :
    ∃ next, code.readSymbol source = .ok (symbol, next) ∧ next.Holds bits rest :=
  readWith_of_decodeWith decoded holds

end Code

def symbolBits (symbol : Nat) : List Nat :=
  highBits (fixedWord symbol).1 (fixedWord symbol).2

theorem decode_symbolBits :
    ∀ symbol < 288, fixedLengths.decode (symbolBits symbol) = some (symbol, []) := by
  decide +kernel

theorem decode_distance :
    ∀ place < 32, fixedDistances.decode (highBits 5 place) = some (place, []) := by
  decide +kernel

end Telemetry.Gzip
