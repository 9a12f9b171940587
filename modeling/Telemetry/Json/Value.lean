import Telemetry.Json.Number
import Telemetry.Json.Skip

namespace Telemetry.Json

open Telemetry

/-! Readers of single values and of lists of them. -/

/-- The fault of a value that is not of the wanted kind: the value itself may be malformed. -/
def unwanted (byte : UInt8) (rest : Bytes) : Fault :=
  let blame {α : Type} (outcome : Except Fault α) : Fault :=
    match outcome with
    | .ok _ => .mismatch
    | .error fault => fault
  if byte = ascii 'n' then blame (readName (Bytes.ofText "ull") rest)
  else if byte = ascii 't' then blame (readName (Bytes.ofText "rue") rest)
  else if byte = ascii 'f' then blame (readName (Bytes.ofText "alse") rest)
  else if byte = ascii '-' || isDigit byte then blame (readNumber (byte :: rest))
  else if byte = quote then blame (readQuoted rest)
  else if byte = ascii '[' || byte = ascii '\x7b' then .mismatch
  else .malformed

def afterSpace {α : Type} (reader : UInt8 → Bytes → Except Fault α) (bytes : Bytes) :
    Except Fault α :=
  match skipSpace bytes with
  | [] => .error .unexpectedEnd
  | byte :: rest => reader byte rest

def readText : Reader String := afterSpace fun byte rest =>
  if byte = quote then readQuoted rest else .error (unwanted byte rest)

/-- A number that the given conversion accepts. -/
def readConverted {α : Type} (convert : Number → Option α) : Reader α :=
  afterSpace fun byte rest =>
    if byte = ascii '-' || isDigit byte then do
      let (number, rest) ← readNumber (byte :: rest)
      match convert number with
      | some value => .ok (value, rest)
      | none => .error .mismatch
    else .error (unwanted byte rest)

def readBinary64 : Reader Binary64 := readConverted fun number => some number.toBinary64

def readInt64 : Reader Int64 := readConverted Number.toInt64?

/-- A value, or the literal that stands for its absence. -/
def readOptional {α : Type} (reader : Reader α) : Reader (Option α) := fun bytes =>
  let present : Except Fault (Option α × Bytes) := do
    let (value, rest) ← reader bytes
    return (some value, rest)
  match skipSpace bytes with
  | byte :: rest =>
    if byte = ascii 'n' then do return (none, ← readName (Bytes.ofText "ull") rest) else present
  | [] => present

/-- Looks for a further element of a list whose opening bracket, or some elements, have been read:
the octets of the element, or none in front of the closing bracket. -/
def nextElement (first : Bool) : Bytes → Except Fault (Option Bytes) := afterSpace fun byte rest =>
  if byte = ascii ']' then .ok none
  else if first then .ok (some (byte :: rest))
  else if byte = ascii ',' then
    afterSpace (fun byte rest =>
      if byte = ascii ']' then .error .malformed else .ok (some (byte :: rest))) rest
  else .error .malformed

def closeList : Bytes → Except Fault Bytes := afterSpace fun byte rest =>
  if byte = ascii ']' then .ok rest
  else .error .malformed

/-- The elements up to the closing bracket; `done` holds those already read, last first. -/
def readElements {α : Type} (reader : Reader α) : Nat → Bool → List α → Reader (List α)
  | 0, _, _, _ => .error .malformed
  | fuel + 1, first, done, bytes => do
    match ← nextElement first bytes with
    | none => return (done.reverse, ← closeList bytes)
    | some bytes =>
      let (value, rest) ← reader bytes
      readElements reader fuel false (value :: done) rest

def readList {α : Type} (reader : Reader α) : Reader (List α) := afterSpace fun byte rest =>
  if byte = ascii '[' then readElements reader (rest.length + 1) true [] rest
  else .error (unwanted byte rest)

def writeList (elements : List Bytes) : Bytes :=
  ascii '[' :: (elements.intersperse [ascii ',']).flatten ++ [ascii ']']

/-- Members between braces, separated by commas, in the given order. -/
def writeObject (members : List (String × Bytes)) : Bytes :=
  let written := members.map fun (name, value) => writeText name ++ ascii ':' :: value
  ascii '\x7b' :: (written.intersperse [ascii ',']).flatten ++ [ascii '\x7d']

end Telemetry.Json
