import Telemetry.Proofs.Outcome
import Telemetry.Proofs.Storage.KeyValue
import Telemetry.Proofs.Storage.Sums

namespace Telemetry

open Telemetry

/-! Calls to a record store, made one after the other, and what each of them leaves as it is. An
addition to a counter has two halves: a record is read, and another is written in its place. -/

namespace Backend

variable {State : Type} {backend : Backend State}

/-- The state after calls that came one after the other. -/
def after (backend : Backend State) : List StorageCall → State → State
  | [], state => state
  | call :: calls, state => backend.after calls (backend.reply call state).2

theorem after_append (calls more : List StorageCall) (state : State) :
    backend.after (calls ++ more) state = backend.after more (backend.after calls state) := by
  induction calls generalizing state with
  | nil => rfl
  | cons call calls induction => exact induction _

theorem replies_cons (call : StorageCall) (calls : List StorageCall) (state : State) :
    backend.replies (call :: calls) state =
      (backend.reply call state).1 :: backend.replies calls (backend.reply call state).2 := rfl

theorem replies_append (calls more : List StorageCall) (state : State) :
    backend.replies (calls ++ more) state =
      backend.replies calls state ++ backend.replies more (backend.after calls state) := by
  induction calls generalizing state with
  | nil => rfl
  | cons call calls induction => exact congrArg (_ :: ·) (induction _)

end Backend

namespace RecordStore

variable {store changed : RecordStore} {key other : String} {record : Record}

theorem eq_of_put (stored : store.put key record = .ok changed) :
    changed = { store with records := store.records.insert key record } := by
  unfold put at stored
  cases guarded : store.guardCall .put with
  | error failure =>
      rw [guarded] at stored
      cases stored
  | ok allowed =>
      rw [guarded] at stored
      exact (Except.ok.inj stored).symm

theorem getElem?_of_put (stored : store.put key record = .ok changed) (elsewhere : key ≠ other) :
    changed.records[other]? = store.records[other]? := by
  rw [eq_of_put stored, Std.ExtTreeMap.getElem?_insert, if_neg (by simpa using elsewhere)]

theorem get_of_put (stored : store.put key record = .ok changed) (elsewhere : key ≠ other) :
    changed.get other = store.get other := by
  have untouched := getElem?_of_put stored elsewhere
  rw [eq_of_put stored] at untouched ⊢
  simp only [get, guardCall, untouched]

theorem eq_of_get {found : Option Record} (got : store.get key = .ok found) :
    found = store.records[key]? := by
  unfold get at got
  cases guarded : store.guardCall .get with
  | error failure =>
      rw [guarded] at got
      cases got
  | ok allowed =>
      rw [guarded] at got
      exact (Except.ok.inj got).symm

end RecordStore

def StorageReply.isSaved : StorageReply → Bool
  | .saved (.ok ()) => true
  | _ => false

namespace KeyValue

variable {store : RecordStore}

def total (store : RecordStore) (id : String) : Int :=
  (sumOf store.records[Series.key (.counter id)]?).toInt

/-- The answer to a save, and the store after it. -/
def settle (store : RecordStore) : Except Failure RecordStore → StorageReply × RecordStore
  | .ok changed => (.saved (.ok ()), changed)
  | .error failure => (.saved (.error failure), store)

/-- A delta on its way to the sum of a counter. -/
structure Addition where
  id : String
  delta : Int64

namespace Addition

def key (addition : Addition) : String := Series.key (.counter addition.id)

/-- What comes of the record that was read: the second half of an addition. -/
def writeBack (addition : Addition) (store : RecordStore) (found : Option Record) :
    Except Failure RecordStore :=
  match Counter.add? (sumOf found) addition.delta with
  | some sum => store.put addition.key (counterRecord addition.id sum)
  | none => .error (.badRequest (.overflow addition.id))

theorem addToCounter_eq (addition : Addition) (store : RecordStore) :
    addToCounter store addition.id addition.key addition.delta =
      store.get addition.key >>= addition.writeBack store := rfl

theorem get_writeBack (addition : Addition) (found : Option Record) {other : String}
    (elsewhere : addition.key ≠ other) :
    (settle store (addition.writeBack store found)).2.get other = store.get other := by
  unfold writeBack
  split
  · next sum added =>
      cases stored : store.put addition.key (counterRecord addition.id sum) with
      | error failure => rfl
      | ok changed => exact RecordStore.get_of_put stored elsewhere
  · rfl

theorem total_writeBack {addition : Addition} {found : Option Record} {changed : RecordStore}
    (got : store.get addition.key = .ok found)
    (stored : addition.writeBack store found = .ok changed) (id : String) :
    total changed id = total store id + if addition.id = id then addition.delta.toInt else 0 := by
  obtain rfl := RecordStore.eq_of_get got
  unfold writeBack at stored
  split at stored
  · next sum added =>
      by_cases same : addition.id = id
      · subst same
        rw [if_pos rfl, total, RecordStore.eq_of_put stored]
        show (sumOf (store.records.insert addition.key _)[addition.key]?).toInt = _
        rw [Std.ExtTreeMap.getElem?_insert_self]
        exact Counter.toInt_add? added
      · have elsewhere : addition.key ≠ Series.key (.counter id) :=
          fun sameKey => same (Series.counter.inj (Series.key_injective sameKey))
        rw [if_neg same, Int.add_zero, total, total, RecordStore.getElem?_of_put stored elsewhere]
  · cases stored

end Addition

inductive Access where
  | save (metric : Metric) (key : String)
  | find (query : Metric) (key : String)

namespace Access

def toCall : Access → StorageCall
  | .save metric key => .save metric key
  | .find query key => .find query key

/-- What the call does if no other call is made meanwhile. -/
def perform (access : Access) (store : RecordStore) : StorageReply × RecordStore :=
  backend.reply access.toCall store

/-- The addition that a call asks for and that is not refused at once. -/
def addition? : Access → Option Addition
  | .save metric key =>
    match metric.admit key, metric.kind, metric.delta with
    | .ok (), .counter, some delta => some ⟨metric.id, delta⟩
    | _, _, _ => none
  | .find _ _ => none

theorem addition?_eq_some {access : Access} {addition : Addition}
    (adds : access.addition? = some addition) :
    ∃ metric key, access = .save metric key ∧ metric.admit key = .ok () ∧
      metric.kind = .counter ∧ metric.delta = some addition.delta ∧ metric.id = addition.id := by
  cases access with
  | find query key => cases adds
  | save metric key =>
      simp only [addition?] at adds
      split at adds
      · next delta admitted isCounter holds =>
          obtain rfl := Option.some.inj adds
          exact ⟨metric, key, rfl, admitted, isCounter, holds, rfl⟩
      · cases adds

theorem perform_addition {access : Access} {addition : Addition}
    (adds : access.addition? = some addition) (store : RecordStore) :
    access.perform store = settle store (store.get addition.key >>= addition.writeBack store) := by
  obtain ⟨metric, key, rfl, admitted, isCounter, holds, sameId⟩ := addition?_eq_some adds
  rw [← addition.addToCounter_eq, Addition.key, ← sameId, ← Metric.storageKey_counter isCounter,
    ← apply_counter isCounter holds]
  show (KeyValue.save metric key store).map StorageReply.saved id = _
  rw [KeyValue.save, admitted]
  cases apply store metric <;> rfl

theorem perform_refused {metric : Metric} {key : String} {failure : Failure}
    (refusal : metric.admit key = .error failure) (store : RecordStore) :
    (Access.save metric key).perform store = (.saved (.error failure), store) := by
  show (KeyValue.save metric key store).map StorageReply.saved id = _
  rw [save_eq_saveBy, Metric.saveBy_refused refusal]
  rfl

theorem perform_gauge {metric : Metric} {key : String} {value : Binary64}
    (admitted : metric.admit key = .ok ()) (isGauge : metric.kind = .gauge)
    (holds : metric.value = some value) (store : RecordStore) :
    (Access.save metric key).perform store =
      settle store (store.put (Series.key (.gauge metric.id)) (gaugeRecord metric value)) := by
  show (KeyValue.save metric key store).map StorageReply.saved id = _
  rw [save_eq_saveBy, Metric.saveBy_admitted admitted, apply_gauge isGauge holds,
    Metric.storageKey_gauge isGauge]
  cases store.put (Series.key (.gauge metric.id)) (gaugeRecord metric value) <;> rfl

/-- A call that is no addition leaves the records of counters alone. -/
theorem get_perform {access : Access} (single : access.addition? = none) (id : String) :
    (access.perform store).2.get (Series.key (.counter id)) =
      store.get (Series.key (.counter id)) := by
  cases access with
  | find query key => rfl
  | save metric key =>
      cases metric.admission key with
      | refused failure refusal => rw [perform_refused refusal]
      | gauge value admitted isGauge holds =>
          rw [perform_gauge admitted isGauge holds]
          cases stored : store.put (Series.key (.gauge metric.id)) (gaugeRecord metric value) with
          | error failure => rfl
          | ok changed =>
              exact RecordStore.get_of_put stored (Series.key_gauge_ne_key_counter metric.id id)
      | counter delta admitted isCounter holds =>
          simp only [addition?, admitted, isCounter, holds] at single
          cases single

/-- The metric of a save that is answered with success. -/
def acknowledged? : Access → StorageReply → Option Metric
  | .save metric _, .saved (.ok ()) => some metric
  | _, _ => none

theorem perform_unsaved {access : Access} (unsaved : (access.perform store).1.isSaved = false) :
    (access.perform store).2 = store := by
  cases access with
  | find query key => rfl
  | save metric key =>
      simp only [perform, toCall, Backend.reply, backend, Prod.map, save_eq_saveBy] at unsaved ⊢
      unfold Metric.saveBy at unsaved ⊢
      split at unsaved
      · rfl
      · split at unsaved
        · rfl
        · cases unsaved

theorem gains_acknowledged (metric : Metric) (key id : String) :
    Metric.gains id ((Access.save metric key).acknowledged? (.saved (.ok ()))).toList =
      metric.gain id := Int.add_zero _

theorem total_perform (access : Access) (store : RecordStore) (id : String) :
    total (access.perform store).2 id =
      total store id + Metric.gains id (access.acknowledged? (access.perform store).1).toList := by
  cases access with
  | find query key => exact (Int.add_zero _).symm
  | save metric key =>
      cases metric.admission key with
      | refused failure refusal =>
          rw [perform_refused refusal]
          exact (Int.add_zero _).symm
      | gauge value admitted isGauge holds =>
          have noGain : metric.gain id = 0 := if_neg (by simp [Metric.AddsTo, isGauge])
          rw [perform_gauge admitted isGauge holds]
          cases stored : store.put (Series.key (.gauge metric.id)) (gaugeRecord metric value) with
          | error failure => exact (Int.add_zero _).symm
          | ok changed =>
              have elsewhere := Series.key_gauge_ne_key_counter metric.id id
              rw [settle, gains_acknowledged, noGain, Int.add_zero, total, total,
                RecordStore.getElem?_of_put stored elsewhere]
      | counter delta admitted isCounter holds =>
          have adds : (Access.save metric key).addition? = some ⟨metric.id, delta⟩ := by
            simp only [addition?, admitted, isCounter, holds]
          have gain : metric.gain id = if metric.id = id then delta.toInt else 0 := by
            simp [Metric.gain, Metric.AddsTo, isCounter, holds]
          rw [perform_addition adds]
          cases outcome : store.get (Addition.key ⟨metric.id, delta⟩) >>=
              Addition.writeBack ⟨metric.id, delta⟩ store with
          | error failure => exact (Int.add_zero _).symm
          | ok changed =>
              obtain ⟨found, got, stored⟩ := exists_of_bind_eq_ok outcome
              rw [settle, gains_acknowledged, gain]
              exact Addition.total_writeBack got stored id

end Access

end KeyValue

end Telemetry
