import Telemetry.Gzip.Inflate

namespace Telemetry.Gzip

open Telemetry

/-! Writing compressed data as a single block of symbols with the fixed codes. A copy is taken from
the last place at which the next three octets were seen, if that is near enough. -/

/-- The last places of three octets in a row, by a hash of the octets; a place is one more than an
index, and zero is none. -/
abbrev Places := Array Nat

def placeCount : Nat := 0x8000

def farthest : Nat := 0x8000

def hashAt (data : Array UInt8) (index : Nat) : Nat :=
  let a := (data.getD index 0).toNat
  let b := (data.getD (index + 1) 0).toNat
  let c := (data.getD (index + 2) 0).toNat
  (a * 1249 + b * 33 + c * 8191) % placeCount

/-- How many octets, up to a limit, are the same from two indices on. -/
def commonLength (data : Array UInt8) (i j : Nat) : Nat → Nat
  | 0 => 0
  | limit + 1 =>
    if data.getD i 0 = data.getD j 0 then commonLength data (i + 1) (j + 1) limit + 1 else 0

/-- The word of a literal or of a length in the fixed code: its width and its bits. -/
def fixedWord (symbol : Nat) : Nat × Nat :=
  if symbol < 144 then (8, 48 + symbol)
  else if symbol < 256 then (9, 400 + (symbol - 144))
  else if symbol < 280 then (7, symbol - 256)
  else (8, 192 + (symbol - 280))

def writeSymbol (sink : BitSink) (symbol : Nat) : BitSink :=
  let (width, word) := fixedWord symbol
  sink.writeCode width word

/-- The last of so many symbols whose span begins at a number or below. -/
def symbolFor (span? : Nat → Option Span) (number : Nat) : Nat → Nat
  | 0 => 0
  | index + 1 =>
    match span? (index + 1) with
    | some span => if span.base ≤ number then index + 1 else symbolFor span? number index
    | none => symbolFor span? number index

def writeExtra (sink : BitSink) (span? : Option Span) (number : Nat) : BitSink :=
  match span? with
  | some span => sink.writeBits span.extra (number - span.base)
  | none => sink

def writeCopy (sink : BitSink) (length distance : Nat) : BitSink :=
  let lengthIndex := symbolFor lengthSpan? length 28
  let distanceIndex := symbolFor distanceSpan? distance 29
  let sink := writeSymbol sink (257 + lengthIndex)
  let sink := writeExtra sink (lengthSpan? lengthIndex) length
  let sink := sink.writeCode 5 distanceIndex
  writeExtra sink (distanceSpan? distanceIndex) distance

def writeSymbols (data : Array UInt8) : Nat → Nat → Places → BitSink → BitSink
  | 0, _, _, sink => sink
  | fuel + 1, index, places, sink =>
    if index < data.size then
      let hash := hashAt data index
      let place := places.getD hash 0
      let places := places.setIfInBounds hash (index + 1)
      let length :=
        if place = 0 ∨ farthest < index + 1 - place then 0
        else commonLength data (place - 1) index (min 258 (data.size - index))
      if 3 ≤ length then
        writeSymbols data fuel (index + length) places (writeCopy sink length (index + 1 - place))
      else
        writeSymbols data fuel (index + 1) places (writeSymbol sink (data.getD index 0).toNat)
    else sink

def deflate (bytes : Bytes) : Bytes :=
  let data := bytes.toArray
  let sink := (BitSink.empty.writeBits 1 1).writeBits 2 1
  let sink := writeSymbols data data.size 0 (Array.replicate placeCount 0) sink
  (writeSymbol sink endOfBlock).toBytes

end Telemetry.Gzip
