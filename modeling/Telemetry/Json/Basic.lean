import Telemetry.Bytes

namespace Telemetry.Json

open Telemetry

/-! Reading JSON from octets, left to right. A reader takes the octets in front of it and answers a
value with the octets it left, or the first fault it met. -/

/-- The first problem met while reading left to right. -/
inductive Fault where
  /-- The octets are no JSON, whatever follows them. -/
  | malformed
  /-- The octets are JSON so far, but not of the wanted shape. -/
  | mismatch
  /-- The octets end inside a value. -/
  | unexpectedEnd
  deriving DecidableEq, Repr

abbrev Reader (α : Type) := Bytes → Except Fault (α × Bytes)

abbrev ascii (c : Char) : UInt8 := c.toUInt8

def isSpace (byte : UInt8) : Bool :=
  byte = 0x20 || byte = 0x0A || byte = 0x09 || byte = 0x0D

def skipSpace (bytes : Bytes) : Bytes := bytes.dropWhile isSpace

def isDigit (byte : UInt8) : Bool := 0x30 ≤ byte && byte ≤ 0x39

def digitValue (byte : UInt8) : Nat := byte.toNat - 0x30

/-- The rest of a literal name whose first letter has been read. -/
def readName (name : Bytes) (bytes : Bytes) : Except Fault Bytes :=
  match name, bytes with
  | [], bytes => .ok bytes
  | _ :: _, [] => .error .unexpectedEnd
  | letter :: name, byte :: bytes =>
    if letter = byte then readName name bytes else .error .malformed

/-- Reads a whole text: one value, and nothing but blanks behind it. -/
def decode {α : Type} (reader : Reader α) (bytes : Bytes) : Except Fault α := do
  let (value, rest) ← reader bytes
  if (skipSpace rest).isEmpty then .ok value else .error .malformed

end Telemetry.Json
