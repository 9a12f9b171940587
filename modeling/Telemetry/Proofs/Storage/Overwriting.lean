import Telemetry.Proofs.Storage.Atomicity
import Telemetry.Proofs.Storage.RoundTrip

namespace Telemetry

open Telemetry

/-! Snapshots over snapshots. Whether a snapshot can be written does not depend on what is in it,
and one that follows another leaves nothing of it. So of a store that writes one on each save, a
list of metrics leaves the last. -/

namespace Disk

theorem erase_set (disk : Disk) (name : String) (entry : Entry) :
    erase (disk.set name entry) name = disk.erase name := by
  refine congrArg Disk.mk (Std.ExtTreeMap.ext_getElem? fun each => ?_)
  rw [set, Std.ExtTreeMap.getElem?_erase, Std.ExtTreeMap.getElem?_insert,
    Std.ExtTreeMap.getElem?_erase]
  split <;> rfl

theorem moved_moved (disk : Disk) (source target : String) (entry other : Entry) :
    set (erase (set (disk.erase source) target entry) source) target other =
      set (disk.erase source) target other := by
  refine congrArg Disk.mk (Std.ExtTreeMap.ext_getElem? fun each => ?_)
  simp only [set, erase, Std.ExtTreeMap.getElem?_insert, Std.ExtTreeMap.getElem?_erase]
  split
  · rfl
  · split <;> rfl

theorem accepts_of_rename {disk next : Disk} {source target : String} {content : Bytes}
    (holds : disk.read source = .ok content) (renamed : disk.rename source target = .ok next) :
    disk.Accepts target := by
  obtain ⟨sourceName, sourceLocated, isFile⟩ := read_eq_ok.mp holds
  have moves := renamed
  unfold rename at moves
  obtain ⟨_, _, moves⟩ := exists_of_bind_eq_ok moves
  obtain ⟨targetName, targetLocated, -⟩ := exists_of_bind_eq_ok moves
  exact ⟨targetName, targetLocated, (rename_eq sourceLocated targetLocated isFile renamed).1⟩

/-- Writing a file makes no other place one that a file can be written to. -/
theorem accepts_of_write {disk next : Disk} {path other : String} {content : Bytes}
    (written : disk.write path content = .ok next) (accepts : next.Accepts other) :
    disk.Accepts other := by
  obtain ⟨name, located, notDirectory, rfl⟩ := write_eq_ok.mp written
  obtain ⟨target, targetLocated, targetNotDirectory⟩ := accepts
  refine ⟨target, (keeps_of_set disk name content).locate targetLocated, fun isDirectory => ?_⟩
  exact targetNotDirectory (keeps_set disk notDirectory _ target isDirectory)

end Disk

namespace FileStore

variable {path draft target : String} {disk written : Disk}

/-- Where a snapshot is drafted and where it goes, and that a file can be written at both. -/
structure Places (path draft target : String) (disk : Disk) : Prop where
  drafted : disk.locate (draftPath path) = .ok draft
  draftFree : disk.entry? draft ≠ some .directory
  located : disk.locate path = .ok target
  free : disk.entry? target ≠ some .directory

def overwritten (disk : Disk) (draft target : String) (listed : List Metric) : Disk :=
  (disk.erase draft).set target (.file (snapshotText listed))

namespace Places

theorem replaceFile_eq (places : Places path draft target disk) (listed : List Metric) :
    replaceFile path listed disk = (.ok listed.length, overwritten disk draft target listed) := by
  have isDrafted : disk.write (draftPath path) (snapshotText listed) =
      .ok (disk.set draft (.file (snapshotText listed))) :=
    Disk.write_eq_ok.mpr ⟨draft, places.drafted, places.draftFree, rfl⟩
  have accepts : disk.Accepts path := ⟨target, places.located, places.free⟩
  obtain ⟨moved, isRenamed, -⟩ :=
    (accepts.of_write isDrafted).rename (Disk.read_write isDrafted)
  have keeps := Disk.keeps_set disk places.draftFree (.file (snapshotText listed))
  obtain ⟨source, sourceLocated, isFile⟩ := Disk.read_eq_ok.mp (Disk.read_write isDrafted)
  obtain rfl : draft = source :=
    Except.ok.inj ((keeps.locate places.drafted).symm.trans sourceLocated)
  obtain ⟨-, rfl⟩ := Disk.rename_eq sourceLocated (keeps.locate places.located) isFile isRenamed
  rw [replaceFile, isDrafted]
  simp only [isRenamed, Disk.erase_set, overwritten]

theorem overwritten (places : Places path draft target disk) (listed : List Metric) :
    Places path draft target (overwritten disk draft target listed) := by
  have keepsErased := Disk.keeps_erase disk places.draftFree
  have stillFree := Disk.entry?_erase_ne_directory places.free draft
  have keeps := Disk.keeps_set _ stillFree (.file (snapshotText listed))
  constructor
  · exact keeps.locate (keepsErased.locate places.drafted)
  · exact Disk.entry?_set_ne_directory
      (Disk.entry?_erase_ne_directory places.draftFree draft) target _
  · exact keeps.locate (keepsErased.locate places.located)
  · exact Disk.entry?_set_ne_directory stillFree target _

theorem replaceFile_overwritten (places : Places path draft target disk)
    (listed others : List Metric) :
    replaceFile path others (FileStore.overwritten disk draft target listed) =
      replaceFile path others disk := by
  rw [(places.overwritten listed).replaceFile_eq, places.replaceFile_eq]
  exact congrArg (Except.ok others.length, ·) (Disk.moved_moved disk draft target _ _)

theorem exists_of_replaceFile {listed : List Metric} {count : Nat}
    (isReplaced : replaceFile path listed disk = (.ok count, written)) :
    ∃ draft target, Places path draft target disk := by
  unfold replaceFile at isReplaced
  split at isReplaced
  · cases (Prod.mk.inj isReplaced).1
  · next drafted isDrafted =>
      split at isReplaced
      · cases (Prod.mk.inj isReplaced).1
      · next moved isRenamed =>
          obtain ⟨draft, draftLocated, draftFree, -⟩ := Disk.write_eq_ok.mp isDrafted
          have accepts := Disk.accepts_of_rename (Disk.read_write isDrafted) isRenamed
          obtain ⟨target, located, free⟩ := Disk.accepts_of_write isDrafted accepts
          exact ⟨draft, target, draftLocated, draftFree, located, free⟩

end Places

theorem eq_of_represents {store other : FileStore} {ledger : Ledger}
    (represents : store.Represents ledger) (otherRepresents : other.Represents ledger)
    (sameFile : store.storeFile = other.storeFile)
    (sameInterval : store.interval = other.interval) :
    store = other := by
  have gauges : store.gauges = other.gauges := Std.ExtTreeMap.ext_getElem? fun id =>
    (represents.gauges id).trans (otherRepresents.gauges id).symm
  have counters : store.counters = other.counters := Std.ExtTreeMap.ext_getElem? fun id =>
    (represents.counters id).trans (otherRepresents.counters id).symm
  cases store
  cases other
  simp only [mk.injEq]
  exact ⟨gauges, counters, sameFile, sameInterval⟩

/-- Every snapshot that a save asks for can be written. -/
def Persists (store : FileStore) (disk : Disk) : Prop :=
  store.snapshotsOnWrite = true →
    ∃ path draft target, store.storeFile = some path ∧ Places path draft target disk

/-- The disk after a save that went well. -/
def settled (store : FileStore) (disk : Disk) : Disk :=
  if store.snapshotsOnWrite then (store.snapshot disk).2 else disk

section Saves

variable {store next : FileStore} {ledger : Ledger} {metric : Metric} {key : String}

theorem save_of_refused {failure : Failure}
    (refused : (metric.saveBy apply key store).1 = .error failure) :
    save metric key (store, disk) = (.error failure, store, disk) := by
  have kept := Metric.snd_saveBy_of_error refused
  rw [save_eq]
  cases outcome : metric.saveBy apply key store with
  | mk result changed =>
      rw [outcome] at refused kept
      obtain rfl : result = .error failure := refused
      obtain rfl : changed = store := kept
      rfl

theorem saveBy_frame (store : FileStore) (metric : Metric) (key : String) :
    (metric.saveBy apply key store).2.storeFile = store.storeFile ∧
      (metric.saveBy apply key store).2.interval = store.interval := by
  cases admission : metric.admit key with
  | error failure => rw [Metric.saveBy_refused admission]; exact ⟨rfl, rfl⟩
  | ok admitted =>
      rw [Metric.saveBy_admitted admission]
      cases stored : store.apply metric with
      | error failure => exact ⟨rfl, rfl⟩
      | ok changed => exact apply_frame stored

theorem snapshot_eq_replaceFile (isFile : store.storeFile = some path) (disk : Disk) :
    store.snapshot disk = replaceFile path store.dump disk := by
  rw [snapshot, isFile]

theorem Persists.frame (persists : store.Persists disk)
    (sameFile : next.storeFile = store.storeFile) (sameInterval : next.interval = store.interval) :
    next.Persists disk := by
  unfold Persists snapshotsOnWrite at persists ⊢
  rw [sameFile, sameInterval]
  exact persists

theorem Persists.settled (persists : store.Persists disk) :
    store.Persists (store.settled disk) := by
  intro writes
  obtain ⟨path, draft, target, isFile, places⟩ := persists writes
  refine ⟨path, draft, target, isFile, ?_⟩
  rw [FileStore.settled, if_pos writes, snapshot_eq_replaceFile isFile, places.replaceFile_eq]
  exact places.overwritten store.dump

theorem Persists.settled_settled (persists : store.Persists disk)
    (sameFile : next.storeFile = store.storeFile) (sameInterval : next.interval = store.interval) :
    next.settled (store.settled disk) = next.settled disk := by
  have sameWrites : next.snapshotsOnWrite = store.snapshotsOnWrite := by
    rw [snapshotsOnWrite, snapshotsOnWrite, sameFile, sameInterval]
  rw [FileStore.settled, FileStore.settled, FileStore.settled, sameWrites]
  cases writes : store.snapshotsOnWrite with
  | false => rfl
  | true =>
      obtain ⟨path, draft, target, isFile, places⟩ := persists writes
      simp only [if_true]
      rw [snapshot_eq_replaceFile isFile, snapshot_eq_replaceFile (sameFile.trans isFile),
        snapshot_eq_replaceFile (sameFile.trans isFile), places.replaceFile_eq,
        places.replaceFile_overwritten]

theorem save_of_persists (persists : store.Persists disk)
    (saved : (metric.saveBy apply key store).1 = .ok ()) :
    save metric key (store, disk) =
      (.ok (), (metric.saveBy apply key store).2,
        (metric.saveBy apply key store).2.settled disk) := by
  obtain ⟨sameFile, sameInterval⟩ := saveBy_frame store metric key
  rw [save_eq]
  cases outcome : metric.saveBy apply key store with
  | mk result next =>
      rw [outcome] at saved sameFile sameInterval
      obtain rfl : result = .ok () := saved
      cases writes : next.snapshotsOnWrite with
      | false => simp [FileStore.settled, writes]
      | true =>
          obtain ⟨path, draft, target, isFile, places⟩ :=
            persists.frame sameFile sameInterval writes
          simp only [FileStore.settled, writes, if_true, snapshot_eq_replaceFile isFile,
            places.replaceFile_eq]

/-- A store that cannot write its snapshots takes nothing in. -/
theorem exists_failure_of_not_persists (stuck : ¬ store.Persists disk) (metric : Metric)
    (key : String) : ∃ failure, (save metric key (store, disk)).1 = .error failure := by
  cases result : (save metric key (store, disk)).1 with
  | error failure => exact ⟨failure, rfl⟩
  | ok saved =>
      refine absurd (fun writes => ?_) stuck
      obtain ⟨sameFile, sameInterval⟩ := saveBy_frame store metric key
      rw [save_eq] at result
      split at result
      · cases result
      · next next outcome =>
          rw [outcome] at sameFile sameInterval
          have stillWrites : next.snapshotsOnWrite = true := by
            rw [snapshotsOnWrite, sameFile, sameInterval]
            exact writes
          rw [if_pos stillWrites] at result
          split at result
          · next count written isWritten =>
              unfold snapshot at isWritten
              split at isWritten
              · next noFile => simp [snapshotsOnWrite, noFile] at stillWrites
              · next path isFile =>
                  obtain ⟨draft, target, places⟩ := Places.exists_of_replaceFile isWritten
                  exact ⟨path, draft, target, sameFile.symm.trans isFile, places⟩
          · cases result

/-- Only a snapshot that failed keeps a store from answering as its maps do. -/
theorem isIo_of_save {failure : Failure} (saved : (metric.saveBy apply key store).1 = .ok ())
    (failed : (save metric key (store, disk)).1 = .error failure) : failure.isIo = true := by
  rw [save_eq] at failed
  cases outcome : metric.saveBy apply key store with
  | mk result next =>
      rw [outcome] at saved failed
      obtain rfl : result = .ok () := saved
      simp only at failed
      split at failed
      · split at failed
        · cases failed
        · next cause written snapshot =>
            obtain rfl := Except.error.inj failed
            exact isIo_of_snapshot (congrArg Prod.fst snapshot)
      · cases failed

end Saves

/-- A list of metrics is taken in as the ledger takes it in. Of the snapshots, the last is left. -/
theorem exists_saveMany {store : FileStore} {ledger : Ledger} (represents : store.Represents ledger)
    (persists : store.Persists disk) (metrics : List Metric) (key : String) :
    ∃ final after, backend.saveMany key metrics (store, disk) =
        ((ledger.saveMany key metrics).1, final, after) ∧
      final.Represents (ledger.saveMany key metrics).2 ∧
      final.storeFile = store.storeFile ∧ final.interval = store.interval ∧
      ((ledger.saveMany key metrics).1 = .ok () → metrics ≠ [] → after = final.settled disk) := by
  induction metrics generalizing store ledger disk with
  | nil => exact ⟨store, disk, rfl, represents, rfl, rfl, fun _ some => absurd rfl some⟩
  | cons metric metrics induction =>
      obtain ⟨sameResult, stillRepresents⟩ :=
        Simulation.saveBy represents (represents.apply metric) key
      obtain ⟨sameFile, sameInterval⟩ := saveBy_frame store metric key
      have isSave : backend.save metric key (store, disk) = save metric key (store, disk) := rfl
      rw [Backend.saveMany, Ledger.saveMany, isSave]
      cases outcome : ledger.save metric key with
      | mk result nextLedger =>
          rw [outcome] at sameResult stillRepresents
          cases result with
          | error failure =>
              rw [save_of_refused sameResult]
              have kept := Ledger.save_refused (congrArg Prod.fst outcome)
              rw [outcome] at kept
              obtain rfl : nextLedger = ledger := kept
              exact ⟨store, disk, rfl, represents, rfl, rfl, fun taken => absurd taken error_ne_ok⟩
          | ok stored =>
              rw [save_of_persists persists sameResult]
              have persistsThen := persists.frame sameFile sameInterval
              obtain ⟨final, after, rest, representsFinal, finalFile, finalInterval, isSettled⟩ :=
                induction stillRepresents persistsThen.settled
              refine ⟨final, after, rest, representsFinal, finalFile.trans sameFile,
                finalInterval.trans sameInterval, fun taken _ => ?_⟩
              -- The snapshot of this save is seen only where no other is written over it.
              by_cases last : metrics = []
              · subst last
                obtain ⟨-, rfl, rfl⟩ := rest
                rfl
              · rw [isSettled taken last]
                exact persistsThen.settled_settled finalFile finalInterval

end FileStore

end Telemetry
