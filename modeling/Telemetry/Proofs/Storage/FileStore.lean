import Telemetry.Proofs.Storage.Refinement
import Telemetry.Storage.FileStore

namespace Telemetry.FileStore

open Telemetry

/-! The store in memory stands for a ledger: one map holds its gauges, the other its counters. -/

structure Represents (store : FileStore) (ledger : Ledger) : Prop where
  gauges : ∀ id, store.gauges[id]? = ledger.lookup (.gauge id)
  counters : ∀ id, store.counters[id]? = (ledger.lookup (.counter id)).map Counter.Total.toInt64

theorem represents_empty (storeFile : Option String) (interval : Duration) :
    (empty storeFile interval).Represents ∅ where
  gauges _ := Std.ExtTreeMap.getElem?_empty
  counters _ := Std.ExtTreeMap.getElem?_empty

theorem apply_invalid {store : FileStore} {metric : Metric} {failure : Failure}
    (invalid : metric.validate = .error failure) : store.apply metric = .error failure :=
  Metric.change_invalid invalid _ _ _

theorem apply_frame {store changed : FileStore} {metric : Metric}
    (stored : store.apply metric = .ok changed) :
    changed.storeFile = store.storeFile ∧ changed.interval = store.interval := by
  unfold apply at stored
  split at stored
  · rw [← Except.ok.inj stored]
    exact ⟨rfl, rfl⟩
  · split at stored
    · rw [← Except.ok.inj stored]
      exact ⟨rfl, rfl⟩
    · cases stored
  · cases validity : metric.validate with
    | error failure =>
        rw [validity] at stored
        cases stored
    | ok valid =>
        rw [validity] at stored
        rw [← Except.ok.inj stored]
        exact ⟨rfl, rfl⟩

theorem snapshotsOnWrite_of_apply {store changed : FileStore} {metric : Metric}
    (stored : store.apply metric = .ok changed) :
    changed.snapshotsOnWrite = store.snapshotsOnWrite := by
  obtain ⟨sameFile, sameInterval⟩ := apply_frame stored
  rw [snapshotsOnWrite, snapshotsOnWrite, sameFile, sameInterval]

theorem snapshotsOnWrite_saveBy (store : FileStore) (metric : Metric) (key : String) :
    (metric.saveBy apply key store).2.snapshotsOnWrite = store.snapshotsOnWrite := by
  cases admission : metric.admit key with
  | error failure => rw [Metric.saveBy_refused admission]
  | ok admitted =>
      rw [Metric.saveBy_admitted admission]
      cases stored : store.apply metric with
      | error failure => rfl
      | ok changed => exact snapshotsOnWrite_of_apply stored

theorem save_eq (metric : Metric) (key : String) (store : FileStore) (disk : Disk) :
    save metric key (store, disk) =
      match metric.saveBy apply key store with
      | (.error failure, store) => (.error failure, store, disk)
      | (.ok (), store) =>
        if store.snapshotsOnWrite then
          match store.snapshot disk with
          | (.ok _, disk) => (.ok (), store, disk)
          | (.error failure, disk) => (.error failure, store, disk)
        else (.ok (), store, disk) := by
  rw [save, Metric.saveBy]
  cases metric.admit key with
  | error failure => rfl
  | ok admitted => cases store.apply metric <;> rfl

/-- In memory a save is done once the metric is admitted and applied, whatever becomes of the
snapshot. -/
theorem fst_snd_save (metric : Metric) (key : String) (store : FileStore) (disk : Disk) :
    (save metric key (store, disk)).2.1 = (metric.saveBy apply key store).2 := by
  rw [save_eq]
  split
  · next failure changed outcome => rw [outcome]
  · next changed outcome =>
      rw [outcome]
      split
      · split <;> rfl
      · rfl

theorem saveBy_of_save {metric : Metric} {key : String} {store : FileStore} {disk : Disk}
    (saved : (save metric key (store, disk)).1 = .ok ()) :
    (metric.saveBy apply key store).1 = .ok () := by
  rw [save_eq] at saved
  split at saved
  · cases saved
  · next changed outcome => rw [outcome]

theorem save_of_quiet {store : FileStore} (quiet : store.snapshotsOnWrite = false)
    (metric : Metric) (key : String) (disk : Disk) :
    save metric key (store, disk) =
      ((metric.saveBy apply key store).1, (metric.saveBy apply key store).2, disk) := by
  have stillQuiet := (snapshotsOnWrite_saveBy store metric key).trans quiet
  rw [save_eq]
  split
  · next failure changed outcome => rw [outcome]
  · next changed outcome =>
      rw [outcome] at stillQuiet ⊢
      exact if_neg (by simp [stillQuiet])

theorem mem_dump {store : FileStore} {metric : Metric} :
    metric ∈ store.dump ↔
      (∃ id value, store.gauges[id]? = some value ∧ Metric.gauge id value = metric) ∨
        ∃ id sum, store.counters[id]? = some sum ∧ Metric.counter id sum = metric := by
  simp only [dump, List.mem_append, List.mem_map, Prod.exists,
    Std.ExtTreeMap.mem_toList_iff_getElem?_eq_some]

theorem nodup_dump (store : FileStore) : store.dump.Nodup := by
  have nodupOfDistinct {Value : Type} (entries : Std.ExtTreeMap String Value) :
      entries.toList.Nodup :=
    entries.distinct_keys_toList.imp fun distinct same => distinct (by simp [same])
  refine List.Nodup.append ?_ ?_ ?_
  · refine (nodupOfDistinct store.gauges).map ?_
    rintro ⟨id, value⟩ ⟨other, otherValue⟩ same
    simpa [Metric.gauge] using same
  · refine (nodupOfDistinct store.counters).map ?_
    rintro ⟨id, sum⟩ ⟨other, otherSum⟩ same
    simpa [Metric.counter] using same
  · intro metric isGauge isCounter
    obtain ⟨gauge, _, rfl⟩ := List.mem_map.mp isGauge
    obtain ⟨counter, _, same⟩ := List.mem_map.mp isCounter
    simp [Metric.gauge, Metric.counter] at same

namespace Represents

variable {store : FileStore} {ledger : Ledger}

theorem insert_gauge (represents : store.Represents ledger) (id : String) (value : Binary64) :
    Represents { store with gauges := store.gauges.insert id value }
      (ledger.insert (.gauge id) value) where
  gauges other := by
    rw [Std.ExtTreeMap.getElem?_insert]
    by_cases same : id = other
    · subst same
      rw [Finmap.lookup_insert, if_pos Std.ReflCmp.compare_self]
    · rw [Finmap.lookup_insert_of_ne _ (by simpa using Ne.symm same), if_neg (by simpa using same)]
      exact represents.gauges other
  counters other := by
    rw [Finmap.lookup_insert_of_ne _ (by simp)]
    exact represents.counters other

theorem insert_counter (represents : store.Represents ledger) (id : String)
    (total : Counter.Total) :
    Represents { store with counters := store.counters.insert id total.toInt64 }
      (ledger.insert (.counter id) total) where
  gauges other := by
    rw [Finmap.lookup_insert_of_ne _ (by simp)]
    exact represents.gauges other
  counters other := by
    rw [Std.ExtTreeMap.getElem?_insert]
    by_cases same : id = other
    · subst same
      rw [Finmap.lookup_insert, if_pos Std.ReflCmp.compare_self]
      rfl
    · rw [Finmap.lookup_insert_of_ne _ (by simpa using Ne.symm same), if_neg (by simpa using same)]
      exact represents.counters other

theorem getD_counters (represents : store.Represents ledger) (id : String) :
    store.counters.getD id 0 = (ledger.total id).toInt64 := by
  rw [Std.ExtTreeMap.getD_eq_getD_getElem?, represents.counters, Ledger.total]
  cases ledger.lookup (.counter id) with
  | none => rfl
  | some total => rfl

theorem apply (represents : store.Represents ledger) (metric : Metric) :
    Agreement Represents (store.apply metric) (ledger.apply metric) := by
  cases metric.content with
  | gauge value isGauge holds =>
      rw [Ledger.apply_gauge isGauge holds]
      simp only [FileStore.apply, isGauge, holds]
      exact .stored (represents.insert_gauge metric.id value)
  | counter delta isCounter holds =>
      simp only [FileStore.apply, isCounter, holds, represents.getD_counters, Counter.add?_toInt64]
      by_cases fits : Counter.Fits ((ledger.total metric.id).number + delta.toInt)
      · rw [Ledger.apply_counter isCounter holds fits, dif_pos fits]
        exact .stored (represents.insert_counter metric.id ⟨_, fits⟩)
      · rw [Ledger.apply_overflow isCounter holds fits, dif_neg fits]
        exact .refused _
  | invalid failure invalid =>
      rw [Ledger.apply_invalid invalid, apply_invalid invalid]
      exact .refused failure

theorem lookup_eq (represents : store.Represents ledger) (kind : Kind) (id : String) :
    store.lookup kind id = ledger.metric? kind id := by
  cases kind with
  | gauge =>
      rw [FileStore.lookup, represents.gauges]
      rfl
  | counter =>
      rw [FileStore.lookup, represents.counters, Option.map_map]
      rfl
  | unknown name => rfl

theorem find_eq (represents : store.Represents ledger) (query : Metric) (key : String) :
    store.find query key = ledger.find query key := by
  rw [FileStore.find, Ledger.find, represents.lookup_eq]

theorem dump_eq (represents : store.Represents ledger) :
    (store.dump : Multiset Metric) = ledger.listing := by
  refine Ledger.eq_listing store.nodup_dump fun metric => ?_
  rw [mem_dump]
  constructor
  · rintro (⟨id, value, found, rfl⟩ | ⟨id, sum, found, rfl⟩)
    · exact ⟨.gauge id, value, (represents.gauges id).symm.trans found, rfl⟩
    · rw [represents.counters, Option.map_eq_some_iff] at found
      obtain ⟨total, found, rfl⟩ := found
      exact ⟨.counter id, total, found, rfl⟩
  · rintro ⟨series, reading, found, rfl⟩
    cases series with
    | gauge id => exact .inl ⟨id, reading, (represents.gauges id).trans found, rfl⟩
    | counter id =>
        refine .inr ⟨id, Counter.Total.toInt64 reading, ?_, rfl⟩
        rw [represents.counters, found]
        rfl

end Represents

/-- A store that writes no snapshot on a save, beside a disk. -/
structure Keeps (state : FileStore × Disk) (ledger : Ledger) : Prop where
  represents : state.1.Represents ledger
  quiet : state.1.snapshotsOnWrite = false

theorem simulation : Simulation backend Keeps where
  save := by
    rintro ⟨store, disk⟩ ledger metric key ⟨represents, quiet⟩
    obtain ⟨sameResult, stillRepresents⟩ :=
      Simulation.saveBy represents (represents.apply metric) key
    have outcome := save_of_quiet quiet metric key disk
    refine ⟨?_, ?_, ?_⟩
    · exact (congrArg Prod.fst outcome).trans sameResult
    · show (save metric key (store, disk)).2.1.Represents _
      rw [outcome]
      exact stillRepresents
    · show (save metric key (store, disk)).2.1.snapshotsOnWrite = false
      rw [outcome]
      exact (snapshotsOnWrite_saveBy store metric key).trans quiet
  find := fun query key keeps _ => keeps.represents.find_eq query key
  all := fun keeps _ => ⟨_, rfl, keeps.represents.dump_eq⟩

end Telemetry.FileStore
