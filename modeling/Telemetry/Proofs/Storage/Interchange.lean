import Telemetry.Proofs.Storage.FileStore
import Telemetry.Proofs.Storage.KeyValue
import Telemetry.Proofs.Storage.Table
import Telemetry.Storage.Open

namespace Telemetry

open Telemetry

/-! The three ways to keep metrics cannot be told apart by what they answer, and opened storage is
one of them. -/

theorem replies_interchangeable (calls : List StorageCall)
    (regular : ∀ call ∈ calls, call.IsRegular) (storeFile : Option String) (interval : Duration)
    (quiet : (FileStore.empty storeFile interval).snapshotsOnWrite = false) (disk : Disk) :
    FileStore.backend.replies calls (.empty storeFile interval, disk) = Ledger.replies ∅ calls ∧
      KeyValue.backend.replies calls .empty = Ledger.replies ∅ calls ∧
      Table.backend.replies calls .empty = Ledger.replies ∅ calls := by
  refine ⟨?_, ?_, ?_⟩
  · exact FileStore.simulation.replies calls regular
      ⟨FileStore.represents_empty storeFile interval, quiet⟩ Ledger.isRegular_empty
  · exact KeyValue.simulation.replies calls regular KeyValue.represents_empty
      Ledger.isRegular_empty
  · exact Table.simulation.replies calls regular Table.represents_empty Ledger.isRegular_empty

/-- One id under both kinds, a sum that would leave the range, a metric of an unknown kind, and a
batch with a signature that is none. -/
def boundaryCalls : List StorageCall :=
  [.save (.counter "a:b" 0x7FFFFFFFFFFFFFFF) "", .save (.gauge "a:b" .infinity) "key",
    .save (.counter "a:b" 1) "", .save (.query "a:b" (.unknown "histogram")) "",
    .saveMany [.counter "c" 2, { Metric.counter "c" 3 with hash := some "zz" }] "key",
    .find (.query "a:b" .counter) "key", .all]

theorem boundaryCalls_interchangeable :
    (∀ call ∈ boundaryCalls, call.IsRegular) ∧
      (FileStore.empty (some "metrics") ⟨5000000000⟩).snapshotsOnWrite = false ∧
      FileStore.backend.replies boundaryCalls (.empty (some "metrics") ⟨5000000000⟩, .empty) =
        Ledger.replies ∅ boundaryCalls ∧
      KeyValue.backend.replies boundaryCalls .empty = Ledger.replies ∅ boundaryCalls ∧
      Table.backend.replies boundaryCalls .empty = Ledger.replies ∅ boundaryCalls :=
  have regular : ∀ call ∈ boundaryCalls, call.IsRegular := by decide
  ⟨regular, rfl, replies_interchangeable boundaryCalls regular _ _ rfl _⟩

namespace Storage

def Represents : Storage × Disk → Ledger → Prop
  | (.file store, disk), ledger => FileStore.Keeps (store, disk) ledger
  | (.database _ table, _), ledger => table.Represents ledger
  | (.keyValue store, _), ledger => store.Represents ledger

theorem simulation : Simulation backend Represents where
  save := by
    rintro ⟨storage, disk⟩ ledger metric key represents
    cases storage with
    | file store =>
        have keeps : FileStore.Keeps (store, disk) ledger := represents
        exact FileStore.simulation.save metric key keeps
    | database path table => exact Table.simulation.save metric key represents
    | keyValue store => exact KeyValue.simulation.save metric key represents
  find := by
    rintro ⟨storage, disk⟩ ledger query key represents regular
    cases storage with
    | file store =>
        have keeps : FileStore.Keeps (store, disk) ledger := represents
        exact FileStore.simulation.find query key keeps regular
    | database path table => exact Table.simulation.find query key represents regular
    | keyValue store => exact KeyValue.simulation.find query key represents regular
  all := by
    rintro ⟨storage, disk⟩ ledger represents regular
    cases storage with
    | file store =>
        have keeps : FileStore.Keeps (store, disk) ledger := represents
        exact FileStore.simulation.all keeps regular
    | database path table => exact Table.simulation.all represents regular
    | keyValue store => exact KeyValue.simulation.all represents regular

end Storage

end Telemetry
