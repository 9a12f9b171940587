import Telemetry.Gzip.Checksum
import Telemetry.Gzip.Deflate

namespace Telemetry.Gzip

open Telemetry

/-! Compressed data between a header and a trailer. The trailer holds the checksum and the length of
the data. -/

structure Flags where
  headerChecksum : Bool
  extra : Bool
  name : Bool
  comment : Bool
  reserved : Bool
  deriving DecidableEq, Repr

def Flags.ofByte (byte : UInt8) : Flags where
  headerChecksum := byte &&& 2 ≠ 0
  extra := byte &&& 4 ≠ 0
  name := byte &&& 8 ≠ 0
  comment := byte &&& 16 ≠ 0
  reserved := byte &&& 0xE0 ≠ 0

def fieldLimit : Nat := 65535

/-- The octets behind a text of at most so many octets and the zero that ends it. -/
def skipText : Nat → Bytes → Except GzipFault Bytes
  | _, [] => .error .unexpectedEnd
  | room, byte :: rest =>
    if byte = 0 then .ok rest
    else match room with
      | 0 => .error .headerTooLong
      | room + 1 => skipText room rest

/-- The octets behind a field that begins with its length. -/
def skipExtra : Bytes → Except GzipFault Bytes
  | low :: high :: rest =>
    let length := low.toNat + 256 * high.toNat
    if length ≤ rest.length then .ok (rest.drop length) else .error .unexpectedEnd
  | _ => .error .unexpectedEnd

/-- The octets behind a checksum of the header, which are all octets in front of it. -/
def skipHeaderChecksum (whole : Bytes) : Bytes → Except GzipFault Bytes
  | low :: high :: rest =>
    let header := whole.take (whole.length - (rest.length + 2))
    if (checksum header).toNat % 0x10000 = low.toNat + 256 * high.toNat then .ok rest
    else .error .checksum
  | _ => .error .unexpectedEnd

/-- The octets behind the header. All ten octets of its fixed part are needed before any is looked
at. -/
def skipHeader (bytes : Bytes) : Except GzipFault Bytes :=
  match bytes with
  | first :: second :: method :: flags :: _ :: _ :: _ :: _ :: _ :: _ :: rest => do
    let flags := Flags.ofByte flags
    if first ≠ 0x1F ∨ second ≠ 0x8B ∨ method ≠ 8 ∨ flags.reserved then .error .invalidHeader
    else
      let rest ← if flags.extra then skipExtra rest else .ok rest
      let rest ← if flags.name then skipText fieldLimit rest else .ok rest
      let rest ← if flags.comment then skipText fieldLimit rest else .ok rest
      if flags.headerChecksum then skipHeaderChecksum bytes rest else .ok rest
  | _ => .error .unexpectedEnd

def trailer (data : Bytes) : Bytes :=
  Bytes.ofWordLE (checksum data) ++ Bytes.ofWordLE (UInt32.ofNat data.length)

/-- Reads the first member; whatever follows it is left alone. -/
def decompress (bytes : Bytes) : Except GzipFault Bytes := do
  let rest ← skipHeader bytes
  let (data, rest) ← inflate rest
  if rest.length < 8 then .error .unexpectedEnd
  else if rest.take 8 = trailer data then .ok data
  else .error .checksum

/-- No name, no time, greatest compression, no particular system. -/
def header : Bytes := [0x1F, 0x8B, 8, 0, 0, 0, 0, 0, 2, 0xFF]

def member (packed data : Bytes) : Bytes := header ++ packed ++ trailer data

def compress (data : Bytes) : Bytes := member (deflate data) data

end Telemetry.Gzip
