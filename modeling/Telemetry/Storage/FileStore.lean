import Telemetry.Disk
import Telemetry.Duration.Basic
import Telemetry.Metric.Sum
import Telemetry.Metric.Wire
import Telemetry.Storage.Backend
import Telemetry.Text.Blank

namespace Telemetry

open Telemetry

/-! Metrics in memory, written to a file from time to time. A snapshot holds one metric a line; it
is written beside the file and then takes its place. -/

structure FileStore where
  gauges : Std.ExtTreeMap String Binary64
  counters : Std.ExtTreeMap String Int64
  storeFile : Option String
  /-- The time between snapshots; none at all means a snapshot after each write. -/
  interval : Duration

namespace FileStore

def empty (storeFile : Option String) (interval : Duration) : FileStore :=
  ⟨∅, ∅, storeFile, interval⟩

def inMemory : FileStore := empty none .zero

def snapshotsOnWrite (store : FileStore) : Bool :=
  store.storeFile.isSome && store.interval.isZero

def apply (store : FileStore) (metric : Metric) : Except Failure FileStore :=
  match metric.kind, metric.value, metric.delta with
  | .gauge, some value, _ => .ok { store with gauges := store.gauges.insert metric.id value }
  | .counter, _, some delta =>
    match Counter.add? (store.counters.getD metric.id 0) delta with
    | some sum => .ok { store with counters := store.counters.insert metric.id sum }
    | none => .error (.badRequest (.overflow metric.id))
  | _, _, _ => metric.validate.map fun _ => store

/-- All metrics, gauges first, each kind in order of the ids. -/
def dump (store : FileStore) : List Metric :=
  store.gauges.toList.map (fun (id, value) => Metric.gauge id value) ++
    store.counters.toList.map fun (id, sum) => Metric.counter id sum

def snapshotText (metrics : List Metric) : Bytes :=
  metrics.flatMap fun metric => metric.toWire ++ [0x0A]

/-- Where a snapshot is written before it takes the place of the last one. -/
def draftPath (path : String) : String := path ++ ".tmp"

/-- Replaces the file by the metrics; the answer is their number. -/
def replaceFile (path : String) (metrics : List Metric) (disk : Disk) :
    Except Failure Nat × Disk :=
  match disk.write (draftPath path) (snapshotText metrics) with
  | .error cause => (.error (.io (.system cause)), disk)
  | .ok disk =>
    match disk.rename (draftPath path) path with
    | .error cause => (.error (.io (.system cause)), disk)
    | .ok disk => (.ok metrics.length, disk)

def snapshot (store : FileStore) (disk : Disk) : Except Failure Nat × Disk :=
  match store.storeFile with
  | none => (.ok 0, disk)
  | some path => replaceFile path store.dump disk

def replayLine (store : FileStore) (line : List Char) : Except Failure FileStore := do
  let metric ← Metric.ofWire (Bytes.ofText (String.ofList line))
  metric.admit ""
  store.apply metric

/-- Takes in lines in order up to the first that is refused; those before it stay taken in. The
answer is their number. -/
def replay (count : Nat) (store : FileStore) : List (List Char) → Except Failure Nat × FileStore
  | [] => (.ok count, store)
  | line :: lines =>
    match store.replayLine line with
    | .ok store => replay (count + 1) store lines
    | .error failure => (.error failure, store)

def isBlankLine (line : List Char) : Bool := line.all Text.isBlank

def restore (store : FileStore) (disk : Disk) : Except Failure Nat × FileStore :=
  match store.storeFile with
  | none => (.ok 0, store)
  | some path =>
    match disk.readText path with
    | .error .noSuchFile => (.ok 0, store)
    | .error cause => (.error (.io (.system cause)), store)
    | .ok text => store.replay 0 ((Text.lines text.toList).filter fun line => !isBlankLine line)

/-- Saves a metric; a store that writes a snapshot each time answers what that answers. -/
def save (metric : Metric) (key : String) : FileStore × Disk →
    Except Failure Unit × FileStore × Disk
  | (store, disk) =>
    match metric.admit key with
    | .error failure => (.error failure, store, disk)
    | .ok () =>
      match store.apply metric with
      | .error failure => (.error failure, store, disk)
      | .ok store =>
        if store.snapshotsOnWrite then
          match store.snapshot disk with
          | (.ok _, disk) => (.ok (), store, disk)
          | (.error failure, disk) => (.error failure, store, disk)
        else (.ok (), store, disk)

def lookup (store : FileStore) (kind : Kind) (id : String) : Option Metric :=
  match kind with
  | .gauge => store.gauges[id]?.map (Metric.gauge id)
  | .counter => store.counters[id]?.map (Metric.counter id)
  | .unknown _ => none

def find (store : FileStore) (query : Metric) (key : String) : Except Failure Metric := do
  query.admitQuery
  query.answer (store.lookup query.kind query.id) key

def backend : Backend (FileStore × Disk) where
  name _ := "file"
  save := save
  find query key := fun (store, _) => store.find query key
  all := fun (store, _) => .ok store.dump
  check := fun _ => .ok ()

end FileStore

end Telemetry
