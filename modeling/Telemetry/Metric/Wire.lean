import Telemetry.Metric.Basic
import Telemetry.Json.Value

namespace Telemetry

open Telemetry

/-! The JSON form of metrics. Writing puts the fields in a fixed order and leaves absent ones out;
reading takes an object with the fields in any order or an array in the written order. -/

inductive WireField where
  | id
  | kind
  | delta
  | value
  | hash
  deriving DecidableEq, Repr

namespace WireField

def name : WireField → String
  | .id => "id"
  | .kind => "type"
  | .delta => "delta"
  | .value => "value"
  | .hash => "hash"

def ofName? (name : String) : Option WireField :=
  [id, kind, delta, value, hash].find? fun field => field.name = name

def isRequired : WireField → Bool
  | .id | .kind => true
  | _ => false

end WireField

structure WireDraft where
  id : Option String
  kind : Option String
  delta : Option (Option Int64)
  value : Option (Option Binary64)
  hash : Option (Option String)
  deriving DecidableEq, Repr

namespace WireDraft

open Json

def empty : WireDraft := ⟨none, none, none, none, none⟩

def has (draft : WireDraft) : WireField → Bool
  | .id => draft.id.isSome
  | .kind => draft.kind.isSome
  | .delta => draft.delta.isSome
  | .value => draft.value.isSome
  | .hash => draft.hash.isSome

def read (draft : WireDraft) : WireField → Reader WireDraft
  | .id, bytes => do
    let (id, rest) ← readText bytes
    return ({ draft with id := some id }, rest)
  | .kind, bytes => do
    let (kind, rest) ← readText bytes
    return ({ draft with kind := some kind }, rest)
  | .delta, bytes => do
    let (delta, rest) ← readOptional readInt64 bytes
    return ({ draft with delta := some delta }, rest)
  | .value, bytes => do
    let (value, rest) ← readOptional readBinary64 bytes
    return ({ draft with value := some value }, rest)
  | .hash, bytes => do
    let (hash, rest) ← readOptional readText bytes
    return ({ draft with hash := some hash }, rest)

def metric? (draft : WireDraft) : Except Fault Metric :=
  match draft.id, draft.kind with
  | some id, some kind =>
    .ok ⟨id, Kind.ofName kind, draft.delta.join, draft.value.join, draft.hash.join⟩
  | _, _ => .error .mismatch

/-- The elements of an array, one for each field in order; optional fields may be missing at the
end. -/
def readElements (first : Bool) (draft : WireDraft) : List WireField → Reader WireDraft
  | [], bytes => .ok (draft, bytes)
  | field :: fields, bytes => do
    match ← nextElement first bytes with
    | none => if field.isRequired then .error .mismatch else .ok (draft, bytes)
    | some bytes =>
      let (draft, rest) ← draft.read field bytes
      readElements false draft fields rest

/-- The members of an object up to its closing brace. A field may come once, in any place; unknown
members are passed over. -/
def readMembers : Nat → Bool → WireDraft → Reader WireDraft
  | 0, _, _, _ => .error .malformed
  | fuel + 1, first, draft, bytes =>
    afterSpace (fun byte rest =>
      let member : Bytes → Except Fault (WireDraft × Bytes) := fun bytes => do
        let (name, rest) ← readQuoted bytes
        let value : Bytes → Except Fault Bytes := afterSpace fun byte rest =>
          if byte = ascii ':' then .ok rest else .error .malformed
        match WireField.ofName? name with
        | some field =>
          if draft.has field then .error .mismatch
          else
            let (draft, rest) ← draft.read field (← value rest)
            readMembers fuel false draft rest
        | none =>
          let rest ← skipValue (← value rest)
          readMembers fuel false draft rest
      if byte = ascii '\x7d' then .ok (draft, rest)
      else if first then if byte = quote then member rest else .error .malformed
      else if byte = ascii ',' then
        afterSpace (fun byte rest =>
          if byte = quote then member rest else .error .malformed) rest
      else .error .malformed) bytes

/-- A value whose fields, when it is an array, come in the given order. -/
def readRecord (order : List WireField) : Reader WireDraft := afterSpace fun byte rest => do
  if byte = ascii '[' then
    let (draft, rest) ← readElements true empty order rest
    return (draft, ← closeList rest)
  else if byte = ascii '\x7b' then readMembers (rest.length + 1) true empty rest
  else .error (unwanted byte rest)

end WireDraft

namespace Metric

open Json

def wireOrder : List WireField := [.id, .kind, .delta, .value, .hash]

/-- Reads one metric. A missing field is found only when the object is complete. -/
def readWire : Reader Metric := fun bytes => do
  let (draft, rest) ← WireDraft.readRecord wireOrder bytes
  return (← draft.metric?, rest)

def ofWire (bytes : Bytes) : Except Failure Metric :=
  (decode readWire bytes).mapError .serialization

def listOfWire (bytes : Bytes) : Except Failure (List Metric) :=
  (decode (readList readWire) bytes).mapError .serialization

end Metric

namespace Json

/-- The wire form of a double; values that are no numbers become null. -/
def writeBinary64 (x : Binary64) : Bytes :=
  if x.isFinite then (Decimal.wireChars x).map ascii else Bytes.ofText "null"

def writeInt64 (x : Int64) : Bytes := (Decimal.ofInt x.toInt).map ascii

end Json

namespace Metric

open Json

def toWire (metric : Metric) : Bytes :=
  writeObject <|
    [("id", writeText metric.id), ("type", writeText metric.kind.name)] ++
    (metric.delta.map fun delta => ("delta", writeInt64 delta)).toList ++
    (metric.value.map fun value => ("value", writeBinary64 value)).toList ++
    (metric.hash.map fun hash => ("hash", writeText hash)).toList

def listToWire (metrics : List Metric) : Bytes := writeList (metrics.map toWire)

end Metric

end Telemetry
