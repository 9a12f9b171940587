import Telemetry.Proofs.Storage.Refinement
import Telemetry.Storage.KeyValue

namespace Telemetry

open Telemetry

/-! Records stand for a ledger: each series has a key of its own, and the record under it holds what
the ledger holds. -/

namespace Series

def key (series : Series) : String := series.kind.name ++ ":" ++ series.id

theorem key_gauge_ne_key_counter (id other : String) : key (.gauge id) ≠ key (.counter other) := by
  intro same
  have sameCharacters := congrArg String.toList same
  simp [key, kind, Kind.name] at sameCharacters

theorem key_injective : Function.Injective key := by
  intro series other same
  cases series with
  | gauge id =>
      cases other with
      | gauge other => exact congrArg gauge ((String.append_right_inj _).mp same)
      | counter other => exact absurd same (key_gauge_ne_key_counter id other)
  | counter id =>
      cases other with
      | gauge other => exact absurd same.symm (key_gauge_ne_key_counter other id)
      | counter other => exact congrArg counter ((String.append_right_inj _).mp same)

end Series

theorem Metric.storageKey_gauge {metric : Metric} (isGauge : metric.kind = .gauge) :
    metric.storageKey = Series.key (.gauge metric.id) := by
  rw [Metric.storageKey, isGauge]
  rfl

theorem Metric.storageKey_counter {metric : Metric} (isCounter : metric.kind = .counter) :
    metric.storageKey = Series.key (.counter metric.id) := by
  rw [Metric.storageKey, isCounter]
  rfl

namespace KeyValue

@[simp] theorem toMetric_gaugeRecord (metric : Metric) (value : Binary64) :
    (gaugeRecord metric value).toMetric = .gauge metric.id value := rfl

@[simp] theorem toMetric_counterRecord (id : String) (sum : Int64) :
    (counterRecord id sum).toMetric = .counter id sum := rfl

end KeyValue

/-- A record store that refuses no call and holds one record for each series of the ledger. -/
structure RecordStore.Represents (store : RecordStore) (ledger : Ledger) : Prop where
  records : ∀ series, (store.records[series.key]?).map Record.toMetric =
    (ledger.lookup series).map series.metric
  keys : ∀ key record, store.records[key]? = some record → ∃ series, Series.key series = key
  unbroken : store.broken = []

namespace RecordStore.Represents

variable {store : RecordStore} {ledger : Ledger}

theorem get_eq (represents : store.Represents ledger) (key : String) :
    store.get key = .ok store.records[key]? := by
  rw [get, guardCall, represents.unbroken]
  rfl

theorem put_eq (represents : store.Represents ledger) (key : String) (record : Record) :
    store.put key record = .ok { store with records := store.records.insert key record } := by
  rw [put, guardCall, represents.unbroken]
  rfl

theorem scan_eq (represents : store.Represents ledger) :
    store.scan = .ok (store.records.toList.map Prod.snd) := by
  rw [scan, guardCall, represents.unbroken]
  rfl

theorem insert (represents : store.Represents ledger) {series : Series} {reading : series.Reading}
    {record : Record} (sameMetric : record.toMetric = series.metric reading) :
    Represents { store with records := store.records.insert series.key record }
      (ledger.insert series reading) where
  records other := by
    rw [Std.ExtTreeMap.getElem?_insert]
    by_cases same : series = other
    · subst same
      rw [Finmap.lookup_insert, if_pos Std.ReflCmp.compare_self]
      exact congrArg some sameMetric
    · have otherKey : series.key ≠ other.key := fun sameKey => same (Series.key_injective sameKey)
      rw [Finmap.lookup_insert_of_ne _ (Ne.symm same), if_neg (by simpa using otherKey)]
      exact represents.records other
  keys key found holds := by
    rw [Std.ExtTreeMap.getElem?_insert] at holds
    by_cases same : series.key = key
    · exact ⟨series, same⟩
    · rw [if_neg (by simpa using same)] at holds
      exact represents.keys key found holds
  unbroken := represents.unbroken

theorem sumOf_eq (represents : store.Represents ledger) (id : String) :
    KeyValue.sumOf store.records[Series.key (.counter id)]? = (ledger.total id).toInt64 := by
  have kept := represents.records (.counter id)
  rw [Ledger.total]
  cases held : store.records[Series.key (.counter id)]? with
  | none =>
      rw [held] at kept
      rw [Option.map_eq_none_iff.mp kept.symm]
      rfl
  | some record =>
      rw [held] at kept
      obtain ⟨total, found, same⟩ := Option.map_eq_some_iff.mp kept.symm
      have sameDelta : some total.toInt64 = record.delta := congrArg Metric.delta same
      rw [found, KeyValue.sumOf, Option.bind_some, ← sameDelta]
      rfl

theorem mem_metrics (represents : store.Represents ledger) (metric : Metric) :
    metric ∈ (store.records.toList.map Prod.snd).map Record.toMetric ↔
      ∃ series reading, ledger.lookup series = some reading ∧ series.metric reading = metric := by
  simp only [List.mem_map, Prod.exists, Std.ExtTreeMap.mem_toList_iff_getElem?_eq_some,
    exists_eq_right]
  constructor
  · rintro ⟨record, ⟨key, held⟩, rfl⟩
    obtain ⟨series, rfl⟩ := represents.keys key record held
    have kept := represents.records series
    rw [held] at kept
    obtain ⟨reading, found, same⟩ := Option.map_eq_some_iff.mp kept.symm
    exact ⟨series, reading, found, same⟩
  · rintro ⟨series, reading, found, rfl⟩
    have kept := represents.records series
    rw [found] at kept
    obtain ⟨record, held, same⟩ := Option.map_eq_some_iff.mp kept
    exact ⟨record, ⟨series.key, held⟩, same⟩

theorem nodup_metrics (represents : store.Represents ledger) :
    ((store.records.toList.map Prod.snd).map Record.toMetric).Nodup := by
  have nodup : store.records.toList.Nodup :=
    store.records.distinct_keys_toList.imp fun distinct same => distinct (by simp [same])
  rw [List.map_map]
  refine nodup.map_on ?_
  rintro ⟨key, record⟩ member ⟨otherKey, otherRecord⟩ otherMember same
  have held := Std.ExtTreeMap.mem_toList_iff_getElem?_eq_some.mp member
  have otherHeld := Std.ExtTreeMap.mem_toList_iff_getElem?_eq_some.mp otherMember
  -- Both keys are keys of series, and one metric belongs to one series.
  obtain ⟨series, rfl⟩ := represents.keys key record held
  obtain ⟨other, rfl⟩ := represents.keys otherKey otherRecord otherHeld
  have kept := represents.records series
  have otherKept := represents.records other
  rw [held] at kept
  rw [otherHeld] at otherKept
  obtain ⟨reading, _, holds⟩ := Option.map_eq_some_iff.mp kept.symm
  obtain ⟨otherReading, _, otherHolds⟩ := Option.map_eq_some_iff.mp otherKept.symm
  obtain rfl := Series.eq_of_metric_eq (holds.trans (same.trans otherHolds.symm))
  rw [Option.some.inj (held.symm.trans otherHeld)]

end RecordStore.Represents

namespace KeyValue

variable {store : RecordStore} {ledger : Ledger}

theorem apply_gauge {metric : Metric} {value : Binary64} (isGauge : metric.kind = .gauge)
    (holds : metric.value = some value) :
    apply store metric = store.put metric.storageKey (gaugeRecord metric value) := by
  simp only [apply, isGauge, holds]

theorem apply_counter {metric : Metric} {delta : Int64} (isCounter : metric.kind = .counter)
    (holds : metric.delta = some delta) :
    apply store metric = addToCounter store metric.id metric.storageKey delta := by
  simp only [apply, isCounter, holds]

theorem apply_invalid {metric : Metric} {failure : Failure}
    (invalid : metric.validate = .error failure) : apply store metric = .error failure :=
  Metric.change_invalid invalid _ _ _

theorem addToCounter_eq (represents : store.Represents ledger) (id : String) (delta : Int64) :
    addToCounter store id (Series.key (.counter id)) delta =
      match Counter.add? (ledger.total id).toInt64 delta with
      | some sum => .ok { store with
          records := store.records.insert (Series.key (.counter id)) (counterRecord id sum) }
      | none => .error (.badRequest (.overflow id)) := by
  unfold addToCounter
  rw [represents.get_eq]
  simp only [bind, Except.bind, represents.sumOf_eq]
  cases Counter.add? (ledger.total id).toInt64 delta with
  | none => rfl
  | some sum => exact represents.put_eq _ _

theorem apply_agreement (represents : store.Represents ledger) (metric : Metric) :
    Agreement RecordStore.Represents (apply store metric) (ledger.apply metric) := by
  cases metric.content with
  | gauge value isGauge holds =>
      rw [Ledger.apply_gauge isGauge holds, apply_gauge isGauge holds, represents.put_eq,
        Metric.storageKey_gauge isGauge]
      exact .stored (represents.insert (toMetric_gaugeRecord metric value))
  | counter delta isCounter holds =>
      rw [apply_counter isCounter holds, Metric.storageKey_counter isCounter,
        addToCounter_eq represents, Counter.add?_toInt64]
      by_cases fits : Counter.Fits ((ledger.total metric.id).number + delta.toInt)
      · rw [Ledger.apply_counter isCounter holds fits, dif_pos fits]
        exact .stored (represents.insert (toMetric_counterRecord metric.id _))
      · rw [Ledger.apply_overflow isCounter holds fits, dif_neg fits]
        exact .refused _
  | invalid failure invalid =>
      rw [Ledger.apply_invalid invalid, apply_invalid invalid]
      exact .refused failure

theorem save_eq_saveBy (metric : Metric) (key : String) (store : RecordStore) :
    save metric key store = metric.saveBy apply key store := by
  unfold save Metric.saveBy
  cases metric.admit key with
  | error failure => rfl
  | ok admitted => cases apply store metric <;> rfl

theorem find_eq (represents : store.Represents ledger) (query : Metric) (key : String) :
    find store query key = ledger.find query key := by
  rw [find, Ledger.find, represents.get_eq]
  cases kind : query.kind with
  | gauge =>
      rw [Metric.storageKey_gauge kind]
      exact congrArg (fun found => query.admitQuery >>= fun _ => query.answer found key)
        (represents.records (.gauge query.id))
  | counter =>
      rw [Metric.storageKey_counter kind]
      exact congrArg (fun found => query.admitQuery >>= fun _ => query.answer found key)
        (represents.records (.counter query.id))
  | unknown name =>
      simp only [Metric.admitQuery, kind]
      rfl

theorem simulation : Simulation backend RecordStore.Represents where
  save metric key represents := by
    show (save _ _ _).1 = _ ∧ RecordStore.Represents (save _ _ _).2 _
    rw [save_eq_saveBy]
    exact Simulation.saveBy represents (apply_agreement represents metric) key
  find query key represents _ := find_eq represents query key
  all := by
    intro store ledger represents _
    refine ⟨_, ?_, Ledger.eq_listing represents.nodup_metrics represents.mem_metrics⟩
    show store.scan.map (List.map Record.toMetric) = _
    rw [represents.scan_eq]
    rfl

theorem represents_empty : RecordStore.empty.Represents ∅ where
  records series := by
    rw [RecordStore.empty, Std.ExtTreeMap.getElem?_empty]
    rfl
  keys key record held := by
    rw [RecordStore.empty, Std.ExtTreeMap.getElem?_empty] at held
    cases held
  unbroken := rfl

end KeyValue

end Telemetry
