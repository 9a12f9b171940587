import Telemetry.Proofs.Storage.Access
import Telemetry.Proofs.Storage.Dump
import Telemetry.Proofs.Storage.FileStore
import Telemetry.Proofs.Storage.Table
import Telemetry.Storage.Open

namespace Telemetry

open Telemetry

/-! What storage can come to hold. There is always a ledger for it, whatever was called and whatever
failed, also where each save writes a snapshot and where a database can only be read. -/

namespace Table

theorem apply_of_isReadOnly {table : Table} (readOnly : table.isReadOnly = true)
    (metric : Metric) : ∃ failure, table.apply metric = .error failure := by
  cases metric.content with
  | gauge value isGauge holds =>
      simp only [apply, isGauge, holds, readOnly, if_true]
      exact ⟨_, rfl⟩
  | counter delta isCounter holds =>
      simp only [apply, isCounter, holds, readOnly, if_true]
      exact ⟨_, rfl⟩
  | invalid failure invalid => exact ⟨failure, apply_invalid invalid⟩

theorem save_of_isReadOnly {table : Table} (readOnly : table.isReadOnly = true) (metric : Metric)
    (key : String) : ∃ failure, table.save metric key = (.error failure, table) := by
  rw [save_eq_saveBy]
  cases admission : metric.admit key with
  | error failure => exact ⟨failure, Metric.saveBy_refused admission table⟩
  | ok admitted =>
      obtain ⟨failure, refusal⟩ := apply_of_isReadOnly readOnly metric
      refine ⟨failure, ?_⟩
      rw [Metric.saveBy_admitted admission, refusal]

def writable (table : Table) : Table := { table with isReadOnly := false }

theorem writable_eq {table : Table} (notReadOnly : table.isReadOnly = false) :
    table.writable = table := by
  rw [writable, ← notReadOnly]

end Table

namespace Ledger

theorem find_series {query : Metric} {series : Series} (sameKind : query.kind = series.kind)
    (sameId : query.id = series.id) (ledger : Ledger) (key : String) :
    ledger.find query key = query.answer ((ledger.lookup series).map series.metric) key := by
  rw [find, Metric.admitQuery, sameKind, sameId]
  cases series <;> rfl

end Ledger

namespace Storage

/-- The ledger of what storage holds. -/
def Holds : Storage → Ledger → Prop
  | .file store, ledger => store.Represents ledger
  | .database _ table, ledger => table.writable.Represents ledger
  | .keyValue store, ledger => store.Represents ledger

/-- What comes back of a reading: a database keeps doubles in a column. -/
def reread : Storage → (series : Series) → series.Reading → series.Reading
  | .database _ _, series, reading => series.reread reading
  | _, _, reading => reading

namespace Holds

variable {storage : Storage} {ledger : Ledger}

/-- What a save does is done to the ledger, or nothing is; that it fails tells neither from the
other. -/
theorem save (holds : storage.Holds ledger) (metric : Metric) (key : String) (disk : Disk) :
    (∃ failure, (save metric key (storage, disk)).1 = .error failure ∧
      (save metric key (storage, disk)).2.1.Holds ledger) ∨
    ((save metric key (storage, disk)).1 = .ok () → (ledger.save metric key).1 = .ok ()) ∧
      (save metric key (storage, disk)).2.1.Holds (ledger.save metric key).2 := by
  cases storage with
  | file store =>
      have represents : store.Represents ledger := holds
      obtain ⟨sameResult, stillHolds⟩ :=
        Simulation.saveBy represents (represents.apply metric) key
      refine .inr ⟨fun saved => sameResult.symm.trans (FileStore.saveBy_of_save saved), ?_⟩
      show FileStore.Represents (FileStore.save metric key (store, disk)).2.1 _
      rw [FileStore.fst_snd_save]
      exact stillHolds
  | database path table =>
      cases readOnly : table.isReadOnly with
      | true =>
          obtain ⟨failure, refused⟩ := Table.save_of_isReadOnly readOnly metric key
          refine .inl ⟨failure, congrArg Prod.fst refused, ?_⟩
          show Table.Represents (table.save metric key).2.writable _
          rw [refused]
          exact holds
      | false =>
          rw [Holds, Table.writable_eq readOnly] at holds
          obtain ⟨sameResult, stillHolds⟩ := Table.simulation.save metric key holds
          refine .inr ⟨fun saved => sameResult.symm.trans saved, ?_⟩
          change (table.save metric key).2.Represents _ at stillHolds
          show Table.Represents (table.save metric key).2.writable _
          rw [Table.writable_eq stillHolds.writable]
          exact stillHolds
  | keyValue store =>
      obtain ⟨sameResult, stillHolds⟩ := KeyValue.simulation.save metric key holds
      exact .inr ⟨fun saved => sameResult.symm.trans saved, stillHolds⟩

theorem save_of_ok (holds : storage.Holds ledger) {metric : Metric} {key : String} {disk : Disk}
    (saved : (Storage.save metric key (storage, disk)).1 = .ok ()) :
    (ledger.save metric key).1 = .ok () ∧
      (Storage.save metric key (storage, disk)).2.1.Holds (ledger.save metric key).2 := by
  rcases holds.save metric key disk with ⟨failure, failed, -⟩ | ⟨succeeds, stillHolds⟩
  · rw [failed] at saved
    cases saved
  · exact ⟨succeeds saved, stillHolds⟩

theorem find_series (holds : storage.Holds ledger) {query : Metric} {series : Series}
    (sameKind : query.kind = series.kind) (sameId : query.id = series.id) (key : String)
    (disk : Disk) :
    backend.find query key (storage, disk) =
      query.answer ((ledger.lookup series).map fun reading =>
        series.metric (storage.reread series reading)) key := by
  cases storage with
  | file store =>
      have represents : store.Represents ledger := holds
      show store.find query key = _
      rw [represents.find_eq, Ledger.find_series sameKind sameId]
      rfl
  | database path table =>
      have represents : table.writable.Represents ledger := holds
      have row := represents.mapM_row? series
      rw [← sameId, ← sameKind] at row
      show table.writable.find query key = _
      rw [Table.find, row, Metric.admitQuery, sameKind]
      cases series <;> rfl
  | keyValue store =>
      have represents : store.Represents ledger := holds
      show KeyValue.find store query key = _
      rw [KeyValue.find_eq represents, Ledger.find_series sameKind sameId]
      rfl

theorem exists_all (holds : storage.Holds ledger) (disk : Disk) :
    ∃ metrics, backend.all (storage, disk) = .ok metrics ∧ metrics.Nodup ∧
      ∀ metric, metric ∈ metrics ↔ ∃ series reading, ledger.lookup series = some reading ∧
        series.metric (storage.reread series reading) = metric := by
  cases storage with
  | file store =>
      have represents : store.Represents ledger := holds
      refine ⟨store.dump, rfl, store.nodup_dump, fun metric => ?_⟩
      rw [← Multiset.mem_coe, represents.dump_eq, Ledger.mem_listing]
      rfl
  | database path table =>
      have represents : table.writable.Represents ledger := holds
      exact represents.exists_all
  | keyValue store =>
      have represents : store.Represents ledger := holds
      refine ⟨_, ?_, represents.nodup_metrics, represents.mem_metrics⟩
      show store.scan.map (List.map Record.toMetric) = _
      rw [represents.scan_eq]
      rfl

end Holds

def isDatabase : Storage → Bool
  | .database _ _ => true
  | _ => false

theorem reread_of_isDatabase {storage : Storage} (isDatabase : storage.isDatabase = true) :
    storage.reread = Series.reread := by
  cases storage with
  | file store => cases isDatabase
  | database path table => rfl
  | keyValue store => cases isDatabase

theorem reread_of_not_isDatabase {storage : Storage} (isOther : storage.isDatabase = false)
    (series : Series) (reading : series.Reading) : storage.reread series reading = reading := by
  cases storage with
  | file store => rfl
  | database path table => cases isOther
  | keyValue store => rfl

theorem isDatabase_save (metric : Metric) (key : String) (storage : Storage) (disk : Disk) :
    (save metric key (storage, disk)).2.1.isDatabase = storage.isDatabase := by
  cases storage <;> rfl

/-- What happens to storage: it is called, or the files beside it change, by a snapshot or by anyone
else. -/
inductive Event where
  | called (call : StorageCall)
  | changed (disk : Disk)

def Event.written : Event → List Metric
  | .called call => call.written
  | .changed _ => []

def Event.happen : Event → Storage × Disk → Storage × Disk
  | .called call, state => (backend.reply call state).2
  | .changed disk, (storage, _) => (storage, disk)

theorem Event.happen_keeps {Keeps : Storage → Prop} {event : Event}
    (save : ∀ metric ∈ event.written, ∀ key storage disk, Keeps storage →
      Keeps (save metric key (storage, disk)).2.1)
    {state : Storage × Disk} (keeps : Keeps state.1) : Keeps (event.happen state).1 := by
  cases event with
  | called call =>
      cases call with
      | save metric key => exact save metric (List.mem_singleton.mpr rfl) key state.1 state.2 keeps
      | saveMany metrics key =>
          exact @Backend.saveMany_keeps _ backend (fun state => Keeps state.1) key metrics
            (fun metric member state => save metric member key state.1 state.2) state keeps
      | find query key => exact keeps
      | all => exact keeps
  | changed disk => exact keeps

/-- The state after events that came one after the other. -/
def after : List Event → Storage × Disk → Storage × Disk
  | [], state => state
  | event :: events, state => after events (event.happen state)

theorem after_keeps {Keeps : Storage → Prop} {events : List Event}
    (save : ∀ event ∈ events, ∀ metric ∈ event.written, ∀ key storage disk, Keeps storage →
      Keeps (save metric key (storage, disk)).2.1)
    {state : Storage × Disk} (keeps : Keeps state.1) : Keeps (after events state).1 := by
  induction events generalizing state with
  | nil => exact keeps
  | cons event events induction =>
      refine induction (fun other member => save other (List.mem_cons_of_mem _ member)) ?_
      exact event.happen_keeps (save event List.mem_cons_self) keeps

theorem isDatabase_after (events : List Event) (state : Storage × Disk) :
    (after events state).1.isDatabase = state.1.isDatabase :=
  @after_keeps (fun storage => storage.isDatabase = state.1.isDatabase) events
    (fun _ _ metric _ key storage disk same =>
      (isDatabase_save metric key storage disk).trans same) state rfl

/-- Storage goes on holding a ledger, and what saves keep of a ledger is kept of that one. -/
theorem after_holds {Keeps : Ledger → Prop} {events : List Event}
    (kept : ∀ event ∈ events, ∀ metric ∈ event.written, ∀ key ledger, Keeps ledger →
      Keeps (Ledger.save metric key ledger).2)
    {state : Storage × Disk} {ledger : Ledger} (holds : state.1.Holds ledger)
    (keeps : Keeps ledger) : ∃ next, (after events state).1.Holds next ∧ Keeps next := by
  refine @after_keeps (fun storage => ∃ ledger, storage.Holds ledger ∧ Keeps ledger) events ?_
    state ⟨ledger, holds, keeps⟩
  rintro event member metric isWritten key storage disk ⟨ledger, holds, keeps⟩
  rcases holds.save metric key disk with ⟨failure, -, stillHolds⟩ | ⟨-, stillHolds⟩
  · exact ⟨_, stillHolds, keeps⟩
  · exact ⟨_, stillHolds, kept event member metric isWritten key ledger keeps⟩

/-- The states that storage can be in. It is opened with nothing in it, or a database with what an
earlier one was closed with; a file is taken in on request. -/
inductive Reachable : Storage × Disk → Prop where
  | file (storeFile : Option String) (interval : Duration) (disk : Disk) :
      Reachable (.file (.empty storeFile interval), disk)
  | database (path : Option String) (disk : Disk) : Reachable (.database path .empty, disk)
  | keyValue (disk : Disk) : Reachable (.keyValue .empty, disk)
  | happened {state : Storage × Disk} (reachable : Reachable state) (event : Event) :
      Reachable (event.happen state)
  | restored {storage : Storage} {disk : Disk} (reachable : Reachable (storage, disk)) :
      Reachable ((storage.restore disk).2, disk)
  | reopened {path : Option String} {table : Table} {disk : Disk}
      (reachable : Reachable (.database path table, disk)) (other : Option String)
      (isReadOnly : Bool) : Reachable (.database other { table with isReadOnly }, disk)

theorem Reachable.exists_holds {state : Storage × Disk} (reachable : Reachable state) :
    ∃ ledger, state.1.Holds ledger := by
  induction reachable with
  | file storeFile interval disk => exact ⟨∅, FileStore.represents_empty storeFile interval⟩
  | database path disk => exact ⟨∅, Table.represents_empty⟩
  | keyValue disk => exact ⟨∅, KeyValue.represents_empty⟩
  | happened reachable event induction =>
      obtain ⟨ledger, holds⟩ := induction
      obtain ⟨next, stillHolds, -⟩ := @after_holds (fun _ => True) [event]
        (fun _ _ _ _ _ _ _ => trivial) _ _ holds trivial
      exact ⟨next, stillHolds⟩
  | @restored storage disk reachable induction =>
      obtain ⟨ledger, holds⟩ := induction
      cases storage with
      | file store => exact FileStore.Represents.restore holds disk
      | database path table => exact ⟨ledger, holds⟩
      | keyValue store => exact ⟨ledger, holds⟩
  | reopened reachable other isReadOnly induction => exact induction

/-- Every table that is kept is one that a database was closed with. -/
def KeepsReachable (machine : Machine) : Prop :=
  ∀ (name : String) (table : Table), machine.tables[name]? = some table →
    ∃ path disk, Reachable (.database path table, disk)

theorem reachable_of_openTable {machine after : Machine} {source : DataSource} {path : String}
    {table : Table} (kept : KeepsReachable machine)
    (opened : machine.openTable source path = (.ok table, after)) (other : Option String)
    (disk : Disk) : Reachable (.database other table, disk) := by
  have empty (isEmpty : Table.empty = table) : Reachable (.database other table, disk) := by
    rw [← isEmpty]
    exact .database other disk
  simp only [Machine.openTable] at opened
  split at opened
  · cases opened
  · next name located =>
      split at opened
      · cases opened
      · split at opened
        · next content isFile known found =>
            obtain ⟨path, before, reachable⟩ := kept name known found
            obtain rfl := Except.ok.inj (Prod.mk.inj opened).1
            exact (reachable.reopened other source.isReadOnly).happened (.changed disk)
        · split at opened
          · split at opened
            · cases opened
            · exact empty (Except.ok.inj (Prod.mk.inj opened).1)
          · cases opened
      · split at opened
        · cases opened
        · split at opened
          · cases opened
          · exact empty (Except.ok.inj (Prod.mk.inj opened).1)

theorem reachable_of_openDatabase {machine after : Machine} {name : String} {storage : Storage}
    (kept : KeepsReachable machine)
    (opened : openDatabase name machine = (.ok storage, after)) (disk : Disk) :
    Reachable (storage, disk) := by
  unfold openDatabase at opened
  split at opened
  · cases opened
  · next source named =>
      split at opened
      · cases opened
      · split at opened
        · split at opened
          · cases opened
          · obtain rfl := Except.ok.inj (Prod.mk.inj opened).1
            exact .database none disk
        · next path hasPath =>
            split at opened
            · cases opened
            · next table afterwards isOpen =>
                obtain rfl := Except.ok.inj (Prod.mk.inj opened).1
                exact reachable_of_openTable kept isOpen (some path) disk

theorem reachable_openFile (config : StorageConfig) (start disk : Disk) :
    Reachable (.file (openFile config start), disk) := by
  have empty : Reachable (.file (.empty (some config.storeFile) config.storeInterval), start) :=
    .file _ _ start
  have opened : Reachable (.file (openFile config start), start) := by
    unfold openFile
    split
    · exact empty.restored
    · exact empty
  exact opened.happened (.changed disk)

/-- Storage that is opened can be in the state in which it is opened. -/
theorem reachable_of_ofConfig {config : StorageConfig} {machine after : Machine}
    {storage : Storage} (kept : KeepsReachable machine)
    (opened : ofConfig config machine = (.ok storage, after)) (disk : Disk) :
    Reachable (storage, disk) := by
  unfold ofConfig at opened
  split at opened
  · obtain rfl := Except.ok.inj (Prod.mk.inj opened).1
    exact reachable_openFile config machine.disk disk
  · split at opened
    · cases opened
    · exact reachable_of_openDatabase kept opened disk
  · split at opened
    · cases opened
    · obtain rfl := Except.ok.inj (Prod.mk.inj opened).1
      exact .keyValue disk

end Storage

end Telemetry
