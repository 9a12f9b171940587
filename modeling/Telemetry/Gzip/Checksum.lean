import Telemetry.Bytes

namespace Telemetry.Gzip

open Telemetry

/-! The cyclic redundancy check of gzip: the remainder modulo a fixed polynomial of degree 32, the
lowest bit first, taken octet by octet with a table of the remainders of single octets. -/

def polynomial : UInt32 := 0xEDB88320

def remainder : Nat → UInt32 → UInt32
  | 0, word => word
  | bits + 1, word =>
    remainder bits (if word &&& 1 = 1 then (word >>> 1) ^^^ polynomial else word >>> 1)

def remainders : Array UInt32 := Array.ofFn fun index : Fin 256 => remainder 8 index.val.toUInt32

def checksumStep (word : UInt32) (byte : UInt8) : UInt32 :=
  remainders.getD ((word ^^^ byte.toUInt32) &&& 0xFF).toNat 0 ^^^ (word >>> 8)

def checksum (bytes : Bytes) : UInt32 :=
  bytes.foldl checksumStep 0xFFFFFFFF ^^^ 0xFFFFFFFF

end Telemetry.Gzip
