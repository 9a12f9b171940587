import Telemetry.Gzip.Code

namespace Telemetry.Gzip

open Telemetry

/-! Reading compressed data: blocks of stored octets, or of symbols that stand for octets and for
copies of earlier ones. -/

/-- The least length, or distance, that a symbol stands for, and how many bits are added to it. -/
structure Span where
  base : Nat
  extra : Nat
  deriving DecidableEq, Repr

def lengthSpan? (index : Nat) : Option Span :=
  if index < 4 then some ⟨3 + index, 0⟩
  else if index < 28 then
    let extra := index / 4 - 1
    some ⟨3 + (4 + index % 4) <<< extra, extra⟩
  else if index = 28 then some ⟨258, 0⟩
  else none

def distanceSpan? (index : Nat) : Option Span :=
  if index < 2 then some ⟨1 + index, 0⟩
  else if index < 30 then
    let extra := index / 2 - 1
    some ⟨1 + (2 + index % 2) <<< extra, extra⟩
  else none

def readSpan (span? : Option Span) (source : BitSource) : Except GzipFault (Nat × BitSource) :=
  match span? with
  | none => .error .corruptData
  | some span => do
    let (more, source) ← source.readBits span.extra
    return (span.base + more, source)

/-- Repeats octets from so far back, one by one, so that a copy may reach into itself. What lies
before the start is zero. -/
def copy (distance : Nat) : Nat → Array UInt8 → Array UInt8
  | 0, out => out
  | length + 1, out =>
    let byte := if distance ≤ out.size then out.getD (out.size - distance) 0 else 0
    copy distance length (out.push byte)

def endOfBlock : Nat := 256

def readSymbols (lengths distances : Code) :
    Nat → Array UInt8 → BitSource → Except GzipFault (Array UInt8 × BitSource)
  | 0, _, _ => .error .incompleteData
  | fuel + 1, out, source => do
    let (symbol, source) ← lengths.readSymbol source
    if symbol < endOfBlock then
      readSymbols lengths distances fuel (out.push (UInt8.ofNat symbol)) source
    else if symbol = endOfBlock then return (out, source)
    else
      let (length, source) ← readSpan (lengthSpan? (symbol - 257)) source
      let (place, source) ← distances.readSymbol source
      let (distance, source) ← readSpan (distanceSpan? place) source
      readSymbols lengths distances fuel (copy distance length out) source

def fixedLengthWidths : List Nat :=
  List.replicate 144 8 ++ List.replicate 112 9 ++ List.replicate 24 7 ++ List.replicate 8 8

def fixedLengths : Code := .ofWidths fixedLengthWidths
def fixedDistances : Code := .ofWidths (List.replicate 32 5)

/-- Which widths the widths of the code of widths belong to, in the order they are written. -/
def widthOrder : List Nat := [16, 17, 18, 0, 8, 7, 9, 6, 10, 5, 11, 4, 12, 3, 13, 2, 14, 1, 15]

def readShortWidths : Nat → BitSource → Except GzipFault (List Nat × BitSource)
  | 0, source => .ok ([], source)
  | count + 1, source => do
    let (width, source) ← source.readBits 3
    let (widths, source) ← readShortWidths count source
    return (width :: widths, source)

/-- So many widths; `done` holds those already read, last first. Three symbols repeat the last width
or zero. -/
def readWidths (code : Code) (total : Nat) :
    Nat → List Nat → BitSource → Except GzipFault (List Nat × BitSource)
  | 0, _, _ => .error .corruptData
  | fuel + 1, done, source => do
    if done.length = total then return (done.reverse, source)
    else if total < done.length then .error .corruptData
    else
      let (symbol, source) ← code.readSymbol source
      if symbol < 16 then readWidths code total fuel (symbol :: done) source
      else
        let (width, base, extra) ← match symbol, done with
          | 16, [] => .error .corruptData
          | 16, last :: _ => .ok (last, 3, 2)
          | 17, _ => .ok (0, 3, 3)
          | _, _ => .ok (0, 11, 7)
        let (more, source) ← source.readBits extra
        readWidths code total fuel (List.replicate (base + more) width ++ done) source

def readCodes (source : BitSource) : Except GzipFault (Code × Code × BitSource) := do
  let (lengthCount, source) ← source.readBits 5
  let (distanceCount, source) ← source.readBits 5
  let (widthCount, source) ← source.readBits 4
  let lengthCount := lengthCount + 257
  let distanceCount := distanceCount + 1
  if 286 < lengthCount ∨ 30 < distanceCount then .error .corruptData
  else
    let (short, source) ← readShortWidths (widthCount + 4) source
    let described := widthOrder.zip short
    let widthCode := Code.ofWidths <|
      (List.range 19).map fun width => (described.lookup width).getD 0
    if !widthCode.isComplete then .error .corruptData
    else
      let total := lengthCount + distanceCount
      let (widths, source) ← readWidths widthCode total (total + 1) [] source
      let lengths := Code.ofWidths (widths.take lengthCount)
      let distances := Code.ofWidths (widths.drop lengthCount)
      if lengths.isUsable && distances.isUsable then return (lengths, distances, source)
      else .error .corruptData

def readOctets : Nat → Array UInt8 → Bytes → Except GzipFault (Array UInt8 × Bytes)
  | 0, out, bytes => .ok (out, bytes)
  | _ + 1, _, [] => .error .incompleteData
  | count + 1, out, byte :: bytes => readOctets count (out.push byte) bytes

/-- A stored block: its length, the complement of its length, and its octets. -/
def readStored (out : Array UInt8) (source : BitSource) :
    Except GzipFault (Array UInt8 × BitSource) :=
  match source.aligned with
  | a :: b :: c :: d :: rest => do
    if c = ~~~a ∧ d = ~~~b then
      let (out, rest) ← readOctets (a.toNat + 256 * b.toNat) out rest
      return (out, .ofBytes rest)
    else .error .corruptData
  | _ => .error .incompleteData

/-- Blocks up to the one that is marked as the last. -/
def readBlocks : Nat → Array UInt8 → BitSource → Except GzipFault (Array UInt8 × BitSource)
  | 0, _, _ => .error .incompleteData
  | fuel + 1, out, source => do
    let (last, source) ← source.readBits 1
    let (kind, source) ← source.readBits 2
    let bits := 8 * source.bytes.length + 1
    let (out, source) ← match kind with
      | 0 => readStored out source
      | 1 => readSymbols fixedLengths fixedDistances bits out source
      | 2 => do
        let (lengths, distances, source) ← readCodes source
        readSymbols lengths distances bits out source
      | _ => .error .corruptData
    if last = 1 then return (out, source) else readBlocks fuel out source

def inflate (bytes : Bytes) : Except GzipFault (Bytes × Bytes) := do
  let (out, source) ← readBlocks (8 * bytes.length + 1) #[] (.ofBytes bytes)
  return (out.toList, source.aligned)

end Telemetry.Gzip
