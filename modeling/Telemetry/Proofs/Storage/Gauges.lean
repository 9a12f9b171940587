import Telemetry.Proofs.Signature
import Telemetry.Proofs.Storage.Dump
import Telemetry.Proofs.Storage.Reachable

namespace Telemetry

open Telemetry

/-! What is read of a gauge that was set: the value it was set to, whatever double that is, except
that a column of a database takes a NaN for an empty one and loses the sign of a zero. -/

theorem Cell.reread_eq_self_iff {value : Binary64} : reread value = value ↔ value.IsRegular := by
  constructor
  · intro same
    by_contra irregular
    rw [reread, if_neg irregular] at same
    rw [← same] at irregular
    exact irregular (by decide)
  · exact reread_of_isRegular

theorem Series.names_metric (series : Series) (reading : series.Reading) :
    series.names (series.metric reading) = true := by
  cases series <;> exact decide_eq_true ⟨rfl, rfl⟩

theorem Ledger.lookup_gauge_save {metric : Metric} {id : String}
    (unset : metric.setting? id = none) (key : String) (ledger : Ledger) :
    (ledger.save metric key).2.lookup (.gauge id) = ledger.lookup (.gauge id) := by
  cases result : (ledger.save metric key).1 with
  | error failure => rw [save_refused result]
  | ok saved => rw [lookup_gauge_save_of_ok result, unset, Option.none_or]

namespace Storage

theorem reread_gauge_eq_iff (storage : Storage) (id : String) (value : Binary64) :
    storage.reread (.gauge id) value = value ↔
      (storage.isDatabase = true → value.IsRegular) := by
  cases isDatabase : storage.isDatabase with
  | true =>
      rw [reread_of_isDatabase isDatabase]
      simp only [forall_true_left]
      exact Cell.reread_eq_self_iff
  | false =>
      refine iff_of_true (reread_of_not_isDatabase isDatabase (.gauge id) value) ?_
      exact fun other => nomatch other

theorem reread_gauge_of_ne {storage : Storage} {id : String} {value : Binary64}
    (changed : storage.reread (.gauge id) value ≠ value) :
    storage.reread (.gauge id) value = .zero := by
  rw [Ne, reread_gauge_eq_iff, Classical.not_imp] at changed
  rw [reread_of_isDatabase changed.1]
  exact if_neg changed.2

/-- Every look at a gauge, by a query or in a listing, shows one value. -/
structure ShowsGauge (id : String) (value : Binary64) (state : Storage × Disk) : Prop where
  find : ∀ query key, query.kind = .gauge → query.id = id →
    ∃ found, backend.find query key state = .ok found ∧
      Signature.IsSigned (.gauge id value) found
  all : ∃ listed, backend.all state = .ok listed ∧
    listed.filter (Series.gauge id).names = [.gauge id value]

namespace Holds

variable {storage : Storage} {ledger : Ledger} {id : String} {value : Binary64}

theorem filter_all (holds : storage.Holds ledger) {series : Series} {reading : series.Reading}
    (found : ledger.lookup series = some reading) (disk : Disk) :
    ∃ listed, backend.all (storage, disk) = .ok listed ∧
      listed.filter series.names = [series.metric (storage.reread series reading)] := by
  obtain ⟨listed, lists, nodup, mem_iff⟩ := holds.exists_all disk
  refine ⟨listed, lists, ?_⟩
  have members : ∀ metric, metric ∈ listed.filter series.names ↔
      metric ∈ [series.metric (storage.reread series reading)] := by
    intro metric
    rw [List.mem_filter, mem_iff, List.mem_singleton]
    constructor
    · rintro ⟨⟨other, otherReading, otherFound, rfl⟩, named⟩
      obtain rfl := Series.eq_of_names named (other.names_metric _)
      rw [Option.some.inj (otherFound.symm.trans found)]
    · rintro rfl
      exact ⟨⟨series, reading, found, rfl⟩, series.names_metric _⟩
  have perm := (List.perm_ext_iff_of_nodup (nodup.filter _) (List.nodup_singleton _)).mpr members
  exact List.perm_singleton.mp perm

theorem shows_reread (holds : storage.Holds ledger) (set : ledger.lookup (.gauge id) = some value)
    (disk : Disk) :
    ShowsGauge id (storage.reread (.gauge id) value) (storage, disk) where
  find query key isGauge sameId := by
    have valid : (Metric.gauge id (storage.reread (.gauge id) value)).validate = .ok () := rfl
    obtain ⟨found, attached⟩ := Signature.attach_of_validate valid key
    refine ⟨found, ?_, Signature.isSigned_of_attach attached⟩
    have asked : query.kind = (Series.gauge id).kind := isGauge
    rw [holds.find_series asked sameId, set]
    exact attached
  all := holds.filter_all set disk

end Holds

/-- A gauge that was set keeps its value through all that does not set it again. -/
theorem Reachable.showsGauge {state : Storage × Disk} (reachable : Reachable state)
    {metric : Metric} {value : Binary64} (isGauge : metric.kind = .gauge)
    (holds : metric.value = some value) {key : String}
    (saved : (backend.save metric key state).1 = .ok ()) {later : List Event}
    (others : ∀ event ∈ later, ∀ written ∈ event.written, written.setting? metric.id = none) :
    ∃ read, ShowsGauge metric.id read (after later (backend.save metric key state).2) ∧
      (read = value ↔ (state.1.isDatabase = true → value.IsRegular)) ∧
      (read ≠ value → read = .zero) := by
  obtain ⟨ledger, held⟩ := reachable.exists_holds
  obtain ⟨stored, holdsStored⟩ := held.save_of_ok saved
  have set : (ledger.save metric key).2.lookup (.gauge metric.id) = some value := by
    rw [Ledger.lookup_gauge_save_of_ok stored, Metric.setting?, if_pos ⟨isGauge, rfl⟩, holds]
    rfl
  obtain ⟨final, holdsFinal, stillSet⟩ := after_holds
    (fun event member written isWritten key ledger (set : ledger.lookup (.gauge metric.id) = _) =>
      (Ledger.lookup_gauge_save (others event member written isWritten) key ledger).trans set)
    holdsStored set
  have sameKind : (after later (save metric key (state.1, state.2)).2).1.isDatabase =
      state.1.isDatabase :=
    (isDatabase_after later _).trans (isDatabase_save metric key state.1 state.2)
  refine ⟨_, holdsFinal.shows_reread stillSet _, ?_, reread_gauge_of_ne⟩
  rw [reread_gauge_eq_iff, sameKind]

/-- A counter of the gauge's name, another gauge in one batch with a metric that is refused, and
another disk. -/
def eventsElsewhere : List Event :=
  [.called (.save (.counter "g" 1) ""),
    .called (.saveMany [.gauge "h" .nan, .query "g" (.unknown "g")] ""), .changed .empty]

theorem showsGauge_infinity :
    Reachable (.database none .empty, .empty) ∧
      (backend.save (.gauge "g" .infinity) "" (.database none .empty, .empty)).1 = .ok () ∧
      (∀ event ∈ eventsElsewhere, ∀ written ∈ event.written, written.setting? "g" = none) ∧
      ShowsGauge "g" .infinity (after eventsElsewhere
        (backend.save (.gauge "g" .infinity) "" (.database none .empty, .empty)).2) := by
  have reachable : Reachable (.database none .empty, .empty) := .database none .empty
  have saved : (backend.save (.gauge "g" .infinity) "" (.database none .empty, .empty)).1 =
      .ok () := rfl
  have others : ∀ event ∈ eventsElsewhere, ∀ written ∈ event.written,
      written.setting? "g" = none := by decide
  obtain ⟨read, shown, same, -⟩ := reachable.showsGauge rfl rfl saved others
  have regular : Binary64.infinity.IsRegular := by decide
  rw [same.mpr fun _ => regular] at shown
  exact ⟨reachable, saved, others, shown⟩

theorem not_forall_showsGauge :
    ¬ ∀ (state : Storage × Disk) (metric : Metric) (value : Binary64) (key : String)
      (later : List Event), Reachable state → metric.kind = .gauge → metric.value = some value →
        (backend.save metric key state).1 = .ok () →
        (∀ event ∈ later, ∀ written ∈ event.written, written.setting? metric.id = none) →
        ShowsGauge metric.id value (after later (backend.save metric key state).2) := by
  intro keeps
  have shown := keeps (.database none .empty, .empty) (.gauge "g" .nan) .nan "" []
    (.database none .empty) rfl rfl rfl (by simp)
  obtain ⟨listed, lists, single⟩ := shown.all
  have actual : backend.all (backend.save (.gauge "g" .nan) "" (.database none .empty, .empty)).2 =
      .ok [.gauge "g" .zero] := rfl
  obtain rfl := Except.ok.inj (actual.symm.trans lists)
  have different : [Metric.gauge "g" .zero].filter (Series.gauge "g").names ≠
      [.gauge "g" .nan] := by decide
  exact different single

end Storage

end Telemetry
