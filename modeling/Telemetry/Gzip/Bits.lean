import Telemetry.Failure

namespace Telemetry.Gzip

open Telemetry

/-! Octets seen as bits, the lowest bit of each octet first. -/

/-- What is left to read: some octets, the lowest `used` bits of the first one gone. -/
structure BitSource where
  bytes : Bytes
  used : Nat
  deriving Repr

namespace BitSource

def ofBytes (bytes : Bytes) : BitSource := ⟨bytes, 0⟩

def readBit (source : BitSource) : Except GzipFault (Nat × BitSource) :=
  match source.bytes with
  | [] => .error .incompleteData
  | byte :: rest =>
    let bit := byte.toNat >>> source.used % 2
    .ok (bit, if source.used < 7 then ⟨source.bytes, source.used + 1⟩ else ⟨rest, 0⟩)

/-- A number of the given width, lowest bit first. -/
def readBits : Nat → BitSource → Except GzipFault (Nat × BitSource)
  | 0, source => .ok (0, source)
  | width + 1, source => do
    let (low, source) ← source.readBit
    let (high, source) ← readBits width source
    return (low + 2 * high, source)

def aligned (source : BitSource) : Bytes :=
  if source.used = 0 then source.bytes else source.bytes.drop 1

end BitSource

/-- Octets written so far, last first, and fewer than eight bits that fill no octet yet. -/
structure BitSink where
  done : Bytes
  pending : Nat
  count : Nat
  deriving Repr

namespace BitSink

def empty : BitSink := ⟨[], 0, 0⟩

def settle : Nat → Bytes → Nat → Nat → BitSink
  | 0, done, pending, count => ⟨done, pending, count⟩
  | fuel + 1, done, pending, count =>
    if count < 8 then ⟨done, pending, count⟩
    else settle fuel (UInt8.ofNat (pending % 256) :: done) (pending / 256) (count - 8)

/-- Appends a number of the given width, lowest bit first. -/
def writeBits (sink : BitSink) (width number : Nat) : BitSink :=
  settle (width + 1) sink.done (sink.pending + number <<< sink.count) (sink.count + width)

/-- Appends a number of the given width, highest bit first. -/
def writeCode (sink : BitSink) : Nat → Nat → BitSink
  | 0, _ => sink
  | width + 1, number => (sink.writeBits 1 (number >>> width % 2)).writeCode width number

def toBytes (sink : BitSink) : Bytes :=
  let done := if sink.count = 0 then sink.done else UInt8.ofNat sink.pending :: sink.done
  done.reverse

end BitSink

end Telemetry.Gzip
