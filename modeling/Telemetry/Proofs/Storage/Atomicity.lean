import Telemetry.Proofs.Server.Effects
import Telemetry.Proofs.Signature
import Telemetry.Proofs.Storage.Reachable
import Telemetry.Proofs.Storage.Sums

namespace Telemetry

open Telemetry

/-! What a save that failed leaves behind: nothing, unless it is the snapshot that failed. That one
is written when the metric is in the maps already, and they are not taken back. -/

def Failure.isIo : Failure → Bool
  | .io _ => true
  | _ => false

/-- A computation that never fails for the sake of a file. -/
def WithoutIo {α : Type} (result : Except Failure α) : Prop :=
  ∀ failure, result = .error failure → failure.isIo = false

namespace WithoutIo

variable {α β : Type} {result : Except Failure α}

theorem ok (value : α) : WithoutIo (.ok value : Except Failure α) := fun _ failed => nomatch failed

theorem error {failure : Failure} (notIo : failure.isIo = false) :
    WithoutIo (.error failure : Except Failure α) := by
  intro other failed
  rw [← Except.error.inj failed]
  exact notIo

theorem bind {next : α → Except Failure β} (first : WithoutIo result)
    (behind : ∀ value, WithoutIo (next value)) : WithoutIo (result >>= next) := by
  intro failure failed
  rcases error_of_bind_eq_error failed with early | ⟨value, -, late⟩
  · exact first failure early
  · exact behind value failure late

theorem map (first : WithoutIo result) (change : α → β) : WithoutIo (result.map change) := by
  cases result with
  | error failure => exact .error (first failure rfl)
  | ok value => exact .ok _

end WithoutIo

namespace Metric

theorem withoutIo_validate (metric : Metric) : WithoutIo metric.validate := by
  unfold validate
  split
  · split
    · exact .ok ()
    · exact .error rfl
  · split
    · exact .ok ()
    · exact .error rfl
  · exact .error rfl

theorem withoutIo_admit (metric : Metric) (key : String) : WithoutIo <| metric.admit key := by
  intro failure refused
  rcases error_of_bind_eq_error refused with invalid | ⟨valid, validity, unverified⟩
  · exact metric.withoutIo_validate failure invalid
  · obtain ⟨text, canonical⟩ := Signature.canonical_of_validate validity
    obtain ⟨hash, -, rfl⟩ := Signature.failure_of_verify canonical unverified
    rfl

theorem withoutIo_saveBy {State : Type} {apply : State → Metric → Except Failure State}
    {metric : Metric} {state : State} (applies : WithoutIo (apply state metric)) (key : String) :
    WithoutIo (metric.saveBy apply key state).1 := by
  cases admission : metric.admit key with
  | error failure =>
      rw [saveBy_refused admission]
      exact .error (metric.withoutIo_admit key failure admission)
  | ok admitted =>
      rw [saveBy_admitted admission]
      cases stored : apply state metric with
      | error failure => exact .error (applies failure stored)
      | ok changed => exact .ok ()

end Metric

theorem Table.withoutIo_apply (table : Table) (metric : Metric) :
    WithoutIo (table.apply metric) := by
  have guarded : WithoutIo (if table.isReadOnly = true then .error (.database .readOnly)
      else .ok table) := by
    split
    · exact .error rfl
    · exact .ok table
  unfold apply
  split
  · exact guarded.bind fun _ => .ok _
  · refine guarded.bind fun table => ?_
    split
    · exact .error rfl
    · exact .ok _
  · exact metric.withoutIo_validate.map _

namespace RecordStore

theorem withoutIo_guardCall (store : RecordStore) (call : RecordCall) :
    WithoutIo (store.guardCall call) := by
  unfold guardCall
  split
  · exact .error rfl
  · exact .ok ()

theorem withoutIo_put (store : RecordStore) (key : String) (record : Record) :
    WithoutIo (store.put key record) :=
  (store.withoutIo_guardCall .put).bind fun _ => .ok _

end RecordStore

theorem KeyValue.withoutIo_apply (store : RecordStore) (metric : Metric) :
    WithoutIo (apply store metric) := by
  unfold apply
  split
  · exact store.withoutIo_put _ _
  · refine ((store.withoutIo_guardCall .get).bind fun _ => .ok _).bind fun record => ?_
    split
    · exact store.withoutIo_put _ _
    · exact .error rfl
  · exact metric.withoutIo_validate.map _

namespace FileStore

theorem withoutIo_apply (store : FileStore) (metric : Metric) : WithoutIo (store.apply metric) := by
  unfold apply
  split
  · exact .ok _
  · split
    · exact .ok _
    · exact .error rfl
  · exact metric.withoutIo_validate.map _

theorem isIo_of_snapshot {store : FileStore} {disk : Disk} {failure : Failure}
    (failed : (store.snapshot disk).1 = .error failure) : failure.isIo = true := by
  unfold snapshot at failed
  split at failed
  · cases failed
  · unfold replaceFile at failed
    split at failed
    · rw [← Except.error.inj failed]
      rfl
    · split at failed
      · rw [← Except.error.inj failed]
        rfl
      · cases failed

/-- The failure tells whether the metric is in the maps. -/
theorem failed_save {metric : Metric} {key : String} {store : FileStore} {disk : Disk}
    {failure : Failure} (failed : (save metric key (store, disk)).1 = .error failure) :
    (failure.isIo = false ∧ (save metric key (store, disk)).2 = (store, disk)) ∨
      failure.isIo = true ∧ store.snapshotsOnWrite = true ∧
        (metric.saveBy apply key store).1 = .ok () := by
  rw [save_eq] at failed ⊢
  cases outcome : metric.saveBy apply key store with
  | mk result changed =>
      rw [outcome] at failed
      cases result with
      | error refusal =>
          have refused : (metric.saveBy apply key store).1 = .error refusal := by rw [outcome]
          have kept := Metric.snd_saveBy_of_error refused
          rw [outcome] at kept
          obtain rfl := Except.error.inj failed
          refine .inl ⟨?_, congrArg (·, disk) kept⟩
          exact Metric.withoutIo_saveBy (store.withoutIo_apply metric) key _ refused
      | ok saved =>
          have writes := snapshotsOnWrite_saveBy store metric key
          rw [outcome] at writes
          simp only at failed
          split at failed
          · next snapshotsOnWrite =>
              refine .inr ⟨?_, writes.symm.trans snapshotsOnWrite, rfl⟩
              split at failed
              · cases failed
              · next cause written snapshot =>
                  obtain rfl := Except.error.inj failed
                  exact isIo_of_snapshot (congrArg Prod.fst snapshot)
          · cases failed

end FileStore

namespace Storage

theorem Holds.sum_eq {storage : Storage} {ledger : Ledger} (holds : storage.Holds ledger)
    (id : String) (disk : Disk) : backend.sum id (storage, disk) = ledger.sum id := by
  apply Backend.sum_eq_of_find
  have asked : (Metric.query id .counter).kind = (Series.counter id).kind := rfl
  rw [holds.find_series asked rfl, Ledger.find_series asked rfl]
  cases storage <;> rfl

theorem snd_of_failed_save {state : Storage × Disk} {metric : Metric} {key : String}
    {failure : Failure} (failed : (backend.save metric key state).1 = .error failure)
    (notIo : failure.isIo = false) : (backend.save metric key state).2 = state := by
  obtain ⟨storage, disk⟩ := state
  cases storage with
  | file store =>
      have failedThere : (FileStore.save metric key (store, disk)).1 = .error failure := failed
      rcases FileStore.failed_save failedThere with ⟨-, kept⟩ | ⟨io, -⟩
      · exact congrArg (fun state : FileStore × Disk => (Storage.file state.1, state.2)) kept
      · rw [notIo] at io
        cases io
  | database path table =>
      have kept := Table.isAtomic_backend metric key table failure failed
      exact congrArg (fun table => (Storage.database path table, disk)) kept
  | keyValue store =>
      have kept := KeyValue.isAtomic_backend metric key store failure failed
      exact congrArg (fun store => (Storage.keyValue store, disk)) kept

theorem file_of_failed_save {state : Storage × Disk} {metric : Metric} {key : String}
    {failure : Failure} (failed : (backend.save metric key state).1 = .error failure)
    (io : failure.isIo = true) :
    ∃ store, state.1 = .file store ∧ store.snapshotsOnWrite = true ∧
      (metric.saveBy FileStore.apply key store).1 = .ok () ∧
      (backend.save metric key state).2.1 = .file (metric.saveBy FileStore.apply key store).2 := by
  obtain ⟨storage, disk⟩ := state
  cases storage with
  | file store =>
      have failedThere : (FileStore.save metric key (store, disk)).1 = .error failure := failed
      rcases FileStore.failed_save failedThere with ⟨notIo, -⟩ | ⟨-, writes, saved⟩
      · rw [notIo] at io
        cases io
      · have applied := FileStore.fst_snd_save metric key store disk
        exact ⟨store, rfl, writes, saved, congrArg Storage.file applied⟩
  | database path table =>
      have failedThere : (table.save metric key).1 = .error failure := failed
      rw [Table.save_eq_saveBy] at failedThere
      rw [Metric.withoutIo_saveBy (table.withoutIo_apply metric) key failure failedThere] at io
      cases io
  | keyValue store =>
      have failedThere : (KeyValue.save metric key store).1 = .error failure := failed
      rw [KeyValue.save_eq_saveBy] at failedThere
      rw [Metric.withoutIo_saveBy (KeyValue.withoutIo_apply store metric) key failure
        failedThere] at io
      cases io

/-- To the ledger, a save of which only the snapshot failed is a save. -/
theorem Holds.save_of_failed {state : Storage × Disk} {ledger : Ledger}
    (held : state.1.Holds ledger) {metric : Metric} {key : String} {failure : Failure}
    (failed : (backend.save metric key state).1 = .error failure) (io : failure.isIo = true) :
    (ledger.save metric key).1 = .ok () ∧
      (backend.save metric key state).2.1.Holds (ledger.save metric key).2 := by
  obtain ⟨store, isFile, -, saved, applied⟩ := file_of_failed_save failed io
  obtain ⟨storage, disk⟩ := state
  obtain rfl : storage = .file store := isFile
  have represents : store.Represents ledger := held
  obtain ⟨sameResult, stillRepresents⟩ :=
    Simulation.saveBy represents (represents.apply metric) key
  refine ⟨sameResult.symm.trans saved, ?_⟩
  rw [applied]
  exact stillRepresents

theorem Holds.sum_of_failed_save {state : Storage × Disk} {ledger : Ledger}
    (held : state.1.Holds ledger) {metric : Metric} {key : String} {failure : Failure}
    (failed : (backend.save metric key state).1 = .error failure) (io : failure.isIo = true)
    (id : String) :
    backend.sum id (backend.save metric key state).2 = backend.sum id state + metric.gain id := by
  obtain ⟨saved, heldThen⟩ := held.save_of_failed failed io
  exact (heldThen.sum_eq id _).trans
    ((Ledger.sum_save_of_ok saved id).trans
      (congrArg (· + metric.gain id) (held.sum_eq id state.2).symm))

/-- A save that fails for any other reason than a file leaves no trace. One that fails for the sake
of a file has been done: it is the snapshot that was not written. -/
theorem replies_of_failed_save {state : Storage × Disk} {metric : Metric} {key : String}
    {failure : Failure} (failed : (backend.save metric key state).1 = .error failure) :
    (failure.isIo = false → ∀ calls,
      backend.replies calls (backend.save metric key state).2 = backend.replies calls state) ∧
    (failure.isIo = true →
      (∃ store, state.1 = .file store ∧ store.snapshotsOnWrite = true ∧
        (metric.saveBy FileStore.apply key store).1 = .ok () ∧
        (backend.save metric key state).2.1 = .file (metric.saveBy FileStore.apply key store).2) ∧
      (Reachable state → ∀ id, backend.sum id (backend.save metric key state).2 =
        backend.sum id state + metric.gain id)) := by
  constructor
  · intro notIo calls
    rw [snd_of_failed_save failed notIo]
  · intro io
    refine ⟨file_of_failed_save failed io, fun reachable => ?_⟩
    obtain ⟨ledger, held⟩ := reachable.exists_holds
    exact held.sum_of_failed_save failed io

/-- Where the draft of a snapshot would go there is a directory. -/
def blockedState : Storage × Disk :=
  (.file (.empty (some "metrics.json") .zero), Disk.empty.set "/metrics.json.tmp" .directory)

theorem reachable_blockedState : Reachable blockedState := .file _ _ _

theorem replies_of_failed_save_blocked :
    Reachable blockedState ∧
      ((backend.save (.query "c" .counter) "" blockedState).1 =
          .error (.badRequest (.missingDelta "c")) ∧
        ∀ calls, backend.replies calls (backend.save (.query "c" .counter) "" blockedState).2 =
          backend.replies calls blockedState) ∧
      (backend.save (.counter "c" 5) "" blockedState).1 = .error (.io (.system .isDirectory)) ∧
      backend.sum "c" (backend.save (.counter "c" 5) "" blockedState).2 =
        backend.sum "c" blockedState + 5 := by
  have refused : (backend.save (.query "c" .counter) "" blockedState).1 =
      .error (.badRequest (.missingDelta "c")) := rfl
  have unchanged := (replies_of_failed_save refused).1 rfl
  have failed : (backend.save (.counter "c" 5) "" blockedState).1 =
      .error (.io (.system .isDirectory)) := rfl
  obtain ⟨-, counted⟩ := (replies_of_failed_save failed).2 rfl
  exact ⟨reachable_blockedState, ⟨refused, unchanged⟩, failed,
    counted reachable_blockedState "c"⟩

theorem not_forall_replies_of_failed_save :
    ¬ ∀ (state : Storage × Disk) (metric : Metric) (key : String) (failure : Failure),
      Reachable state → (backend.save metric key state).1 = .error failure → ∀ calls,
        backend.replies calls (backend.save metric key state).2 = backend.replies calls state := by
  intro leavesNoTrace
  have failed : (backend.save (.counter "c" 5) "" blockedState).1 =
      .error (.io (.system .isDirectory)) := rfl
  have same := leavesNoTrace _ _ _ _ reachable_blockedState failed [.find (.query "c" .counter) ""]
  have counted : backend.replies [.find (.query "c" .counter) ""]
      (backend.save (.counter "c" 5) "" blockedState).2 = [.found (.ok (.counter "c" 5))] := rfl
  have absent : backend.replies [.find (.query "c" .counter) ""] blockedState =
      [.found (.error (.notFound (.nothingSaved "counter" "c")))] := rfl
  rw [counted, absent] at same
  cases same

end Storage

end Telemetry
