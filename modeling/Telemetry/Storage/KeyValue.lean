import Telemetry.Metric.Sum
import Telemetry.Storage.Backend
import Telemetry.Storage.Record

namespace Telemetry.KeyValue

open Telemetry

/-! Metrics in a record store, one record for each kind and id. A counter is read and written back
under a lock for its key. -/

def gaugeRecord (metric : Metric) (value : Binary64) : Record :=
  ⟨metric.id, Kind.gauge.name, some value, none, metric.hash⟩

def counterRecord (id : String) (sum : Int64) : Record :=
  ⟨id, Kind.counter.name, none, some sum, none⟩

/-- The sum that a record holds; no record, or one without a sum, counts as zero. -/
def sumOf (record : Option Record) : Int64 := (record.bind (·.delta)).getD 0

def addToCounter (store : RecordStore) (id key : String) (delta : Int64) :
    Except Failure RecordStore := do
  match Counter.add? (sumOf (← store.get key)) delta with
  | some sum => store.put key (counterRecord id sum)
  | none => .error (.badRequest (.overflow id))

def apply (store : RecordStore) (metric : Metric) : Except Failure RecordStore :=
  match metric.kind, metric.value, metric.delta with
  | .gauge, some value, _ => store.put metric.storageKey (gaugeRecord metric value)
  | .counter, _, some delta => addToCounter store metric.id metric.storageKey delta
  | _, _, _ => metric.validate.map fun _ => store

def save (metric : Metric) (key : String) (store : RecordStore) :
    Except Failure Unit × RecordStore :=
  let saved := do
    metric.admit key
    apply store metric
  match saved with
  | .ok store => (.ok (), store)
  | .error failure => (.error failure, store)

def find (store : RecordStore) (query : Metric) (key : String) : Except Failure Metric := do
  query.admitQuery
  query.answer ((← store.get query.storageKey).map Record.toMetric) key

def backend : Backend RecordStore where
  name _ := "kv"
  save := save
  find query key store := find store query key
  all store := store.scan.map (List.map Record.toMetric)
  check := RecordStore.ping

end Telemetry.KeyValue
