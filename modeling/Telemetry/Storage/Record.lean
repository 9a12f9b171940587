import Std.Data.ExtTreeMap
import Telemetry.Metric.Wire

namespace Telemetry

open Telemetry

/-! Records as a key-value store keeps them. -/

structure Record where
  id : String
  kind : String
  value : Option Binary64
  delta : Option Int64
  hash : Option String
  deriving DecidableEq, Repr

namespace Record

open Json

/-- What the record says about a metric; a signature that came with it is forgotten. -/
def toMetric (record : Record) : Metric :=
  ⟨record.id, Kind.ofName record.kind, record.delta, record.value, none⟩

def wireOrder : List WireField := [.id, .kind, .value, .delta, .hash]

def ofWire (bytes : Bytes) : Except Failure Record :=
  let reader : Reader Record := fun bytes => do
    let (draft, rest) ← WireDraft.readRecord wireOrder bytes
    match draft.id, draft.kind with
    | some id, some kind =>
      return (⟨id, kind, draft.value.join, draft.delta.join, draft.hash.join⟩, rest)
    | _, _ => .error .mismatch
  (decode reader bytes).mapError .serialization

def writeNullable {α : Type} (write : α → Bytes) (value : Option α) : Bytes :=
  (value.map write).getD (Bytes.ofText "null")

def toWire (record : Record) : Bytes :=
  writeObject [("id", writeText record.id), ("type", writeText record.kind),
    ("value", writeNullable writeBinary64 record.value),
    ("delta", writeNullable writeInt64 record.delta),
    ("hash", writeNullable writeText record.hash)]

end Record

inductive RecordCall where
  | get
  | put
  | scan
  | ping
  deriving DecidableEq, Repr

def RecordCall.name : RecordCall → String
  | .get => "get"
  | .put => "put"
  | .scan => "scan"
  | .ping => "ping"

/-- Records by their keys. Calls of the kinds in `broken` are refused. -/
structure RecordStore where
  records : Std.ExtTreeMap String Record
  broken : List RecordCall

namespace RecordStore

def empty : RecordStore := ⟨∅, []⟩

def guardCall (store : RecordStore) (call : RecordCall) : Except Failure Unit :=
  if call ∈ store.broken then .error (.storage (.stated (call.name ++ " failed"))) else .ok ()

def get (store : RecordStore) (key : String) : Except Failure (Option Record) := do
  store.guardCall .get
  return store.records[key]?

def put (store : RecordStore) (key : String) (record : Record) : Except Failure RecordStore := do
  store.guardCall .put
  return { store with records := store.records.insert key record }

def scan (store : RecordStore) : Except Failure (List Record) := do
  store.guardCall .scan
  return store.records.toList.map Prod.snd

def ping (store : RecordStore) : Except Failure Unit := store.guardCall .ping

end RecordStore

end Telemetry
