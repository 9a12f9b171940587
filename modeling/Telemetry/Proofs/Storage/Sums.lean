import Telemetry.Proofs.Storage.Refinement

namespace Telemetry

open Telemetry

/-! The sum of one counter under writes: a delta of its own is added whole or not at all, and
nothing else moves it. A gauge is what it was set to last. -/

/-- A metric that adds to the counter with an id. -/
def Metric.AddsTo (metric : Metric) (id : String) : Prop := metric.kind = .counter ∧ metric.id = id

instance (metric : Metric) (id : String) : Decidable (metric.AddsTo id) :=
  inferInstanceAs (Decidable (_ ∧ _))

namespace Metric

def gain (id : String) (metric : Metric) : Int :=
  if metric.AddsTo id then (metric.delta.getD 0).toInt else 0

def gains (id : String) : List Metric → Int
  | [] => 0
  | metric :: metrics => metric.gain id + gains id metrics

@[simp] theorem gains_nil (id : String) : gains id [] = 0 := rfl

@[simp] theorem gains_cons (id : String) (metric : Metric) (metrics : List Metric) :
    gains id (metric :: metrics) = metric.gain id + gains id metrics := rfl

theorem gains_append (id : String) (metrics others : List Metric) :
    gains id (metrics ++ others) = gains id metrics + gains id others := by
  induction metrics with
  | nil => simp
  | cons metric metrics induction =>
      rw [List.cons_append, gains_cons, induction, gains_cons, Int.add_assoc]

theorem gains_of_perm {metrics others : List Metric} (perm : metrics.Perm others) (id : String) :
    gains id metrics = gains id others := by
  induction perm with
  | nil => rfl
  | cons metric perm induction => rw [gains_cons, gains_cons, induction]
  | swap metric other metrics => simp only [gains_cons, Int.add_left_comm]
  | trans perm next induction more => rw [induction, more]

/-- The value that a metric sets the gauge with an id to. -/
def setting? (id : String) (metric : Metric) : Option Binary64 :=
  if metric.kind = .gauge ∧ metric.id = id then metric.value else none

/-- The value of a gauge after metrics have been taken in. -/
def setting (id : String) (before : Option Binary64) (metrics : List Metric) : Option Binary64 :=
  metrics.foldl (fun value metric => (metric.setting? id).or value) before

end Metric

namespace Ledger

variable {ledger : Ledger} {metric : Metric} {id : String}

@[simp] theorem sum_insert_gauge (ledger : Ledger) (name id : String) (value : Binary64) :
    sum (ledger.insert (.gauge name) value) id = ledger.sum id := by
  rw [sum, total, Finmap.lookup_insert_of_ne _ (by simp)]
  rfl

@[simp] theorem sum_insert_counter (ledger : Ledger) (id : String) (total : Counter.Total) :
    sum (ledger.insert (.counter id) total) id = total.number := by
  rw [sum, Ledger.total, Finmap.lookup_insert]
  rfl

theorem sum_insert_counter_of_ne {name : String} (other : name ≠ id) (total : Counter.Total) :
    sum (ledger.insert (.counter name) total) id = ledger.sum id := by
  rw [sum, Ledger.total, Finmap.lookup_insert_of_ne _ (by simpa using Ne.symm other)]
  rfl

theorem save_refused {key : String} {failure : Failure}
    (refusal : (ledger.save metric key).1 = .error failure) :
    (ledger.save metric key).2 = ledger :=
  Metric.snd_saveBy_of_error refusal

theorem sum_save_of_not_addsTo (other : ¬ metric.AddsTo id) (key : String) :
    (ledger.save metric key).2.sum id = ledger.sum id := by
  cases metric.admission key with
  | refused failure refusal => rw [save, Metric.saveBy_refused refusal]
  | gauge value admitted isGauge holds =>
      rw [save, Metric.saveBy_admitted admitted, apply_gauge isGauge holds]
      exact sum_insert_gauge ledger metric.id id value
  | counter delta admitted isCounter holds =>
      have otherId : metric.id ≠ id := fun same => other ⟨isCounter, same⟩
      rw [save, Metric.saveBy_admitted admitted]
      by_cases fits : Counter.Fits (ledger.sum metric.id + delta.toInt)
      · rw [apply_counter isCounter holds fits]
        exact sum_insert_counter_of_ne otherId _
      · rw [apply_overflow isCounter holds fits]

theorem sum_save_of_addsTo (addsTo : metric.AddsTo id) {delta : Int64}
    (holds : metric.delta = some delta) {key : String}
    (saved : (ledger.save metric key).1 = .ok ()) :
    (ledger.save metric key).2.sum id = ledger.sum id + delta.toInt := by
  obtain ⟨isCounter, rfl⟩ := addsTo
  cases admission : metric.admit key with
  | error failure =>
      rw [save, Metric.saveBy_refused admission] at saved
      cases saved
  | ok admitted =>
      rw [save, Metric.saveBy_admitted admission] at saved ⊢
      by_cases fits : Counter.Fits (ledger.sum metric.id + delta.toInt)
      · rw [apply_counter isCounter holds fits]
        exact sum_insert_counter ledger metric.id _
      · rw [apply_overflow isCounter holds fits] at saved
        cases saved

theorem sum_save_of_ok {key : String} (saved : (ledger.save metric key).1 = .ok ()) (id : String) :
    (ledger.save metric key).2.sum id = ledger.sum id + metric.gain id := by
  by_cases addsTo : metric.AddsTo id
  · cases metric.admission key with
    | refused failure refusal =>
        rw [save, Metric.saveBy_refused refusal] at saved
        cases saved
    | gauge value admitted isGauge holds =>
        rw [addsTo.1] at isGauge
        cases isGauge
    | counter delta admitted isCounter holds =>
        rw [sum_save_of_addsTo addsTo holds saved, Metric.gain, if_pos addsTo, holds]
        rfl
  · rw [sum_save_of_not_addsTo addsTo key, Metric.gain, if_neg addsTo, Int.add_zero]

theorem lookup_gauge_save_of_ok {key : String} (saved : (ledger.save metric key).1 = .ok ())
    (id : String) :
    (ledger.save metric key).2.lookup (.gauge id) =
      (metric.setting? id).or (ledger.lookup (.gauge id)) := by
  cases metric.admission key with
  | refused failure refusal =>
      rw [save, Metric.saveBy_refused refusal] at saved
      cases saved
  | gauge value admitted isGauge holds =>
      rw [save, Metric.saveBy_admitted admitted, apply_gauge isGauge holds, Metric.setting?]
      by_cases same : metric.id = id
      · subst same
        rw [if_pos ⟨isGauge, rfl⟩, holds]
        exact Finmap.lookup_insert _
      · rw [if_neg fun names => same names.2]
        exact Finmap.lookup_insert_of_ne _ (by simpa using Ne.symm same)
  | counter delta admitted isCounter holds =>
      have notGauge : ¬ (metric.kind = .gauge ∧ metric.id = id) := by simp [isCounter]
      rw [save, Metric.saveBy_admitted admitted] at saved ⊢
      rw [Metric.setting?, if_neg notGauge]
      by_cases fits : Counter.Fits (ledger.sum metric.id + delta.toInt)
      · rw [apply_counter isCounter holds fits]
        exact Finmap.lookup_insert_of_ne _ (by simp)
      · rw [apply_overflow isCounter holds fits]
        rfl

theorem saveMany_concat {start : Ledger} {key : String} {metrics : List Metric}
    (taken : start.saveMany key metrics = (.ok (), ledger)) (metric : Metric) :
    start.saveMany key (metrics ++ [metric]) = ledger.save metric key := by
  induction metrics generalizing start with
  | nil =>
      obtain rfl := (Prod.mk.inj taken).2
      rw [List.nil_append, saveMany]
      obtain ⟨result, next⟩ := start.save metric key
      cases result <;> rfl
  | cons first metrics induction =>
      rw [saveMany] at taken
      rw [List.cons_append, saveMany]
      cases saved : start.save first key with
      | mk result next =>
          rw [saved] at taken
          cases result with
          | ok stored => exact induction taken
          | error failure => cases taken

theorem sum_saveMany_of_ok {start : Ledger} {key : String} {metrics : List Metric}
    (taken : start.saveMany key metrics = (.ok (), ledger)) (id : String) :
    ledger.sum id = start.sum id + Metric.gains id metrics := by
  induction metrics generalizing start with
  | nil =>
      obtain rfl := (Prod.mk.inj taken).2
      exact (Int.add_zero _).symm
  | cons metric metrics induction =>
      rw [saveMany] at taken
      cases saved : start.save metric key with
      | mk result next =>
          rw [saved] at taken
          cases result with
          | error failure => cases taken
          | ok stored =>
              have added := sum_save_of_ok (congrArg Prod.fst saved) id
              rw [saved] at added
              rw [induction taken, added, Metric.gains_cons, Int.add_assoc]

theorem lookup_gauge_saveMany_of_ok {start : Ledger} {key : String} {metrics : List Metric}
    (taken : start.saveMany key metrics = (.ok (), ledger)) (id : String) :
    ledger.lookup (.gauge id) = Metric.setting id (start.lookup (.gauge id)) metrics := by
  induction metrics generalizing start with
  | nil =>
      obtain rfl := (Prod.mk.inj taken).2
      rfl
  | cons metric metrics induction =>
      rw [saveMany] at taken
      cases saved : start.save metric key with
      | mk result next =>
          rw [saved] at taken
          cases result with
          | error failure => cases taken
          | ok stored =>
              have set := lookup_gauge_save_of_ok (congrArg Prod.fst saved) id
              rw [saved] at set
              rw [induction taken, set]
              rfl

theorem sum_saveMany_of_not_addsTo {metrics : List Metric}
    (others : ∀ metric ∈ metrics, ¬ metric.AddsTo id) (key : String) :
    (ledger.saveMany key metrics).2.sum id = ledger.sum id := by
  induction metrics generalizing ledger with
  | nil => rfl
  | cons metric metrics induction =>
      have kept : (ledger.save metric key).2.sum id = ledger.sum id :=
        sum_save_of_not_addsTo (others metric (by simp)) key
      rw [saveMany]
      split
      · next next saved =>
          rw [saved] at kept
          rw [induction fun other member => others other (by simp [member])]
          exact kept
      · next failure next saved =>
          rw [saved] at kept
          exact kept

/-- Where the delta for a counter comes last, it is added exactly if the whole list is taken in. -/
theorem sum_saveMany_append {others : List Metric} {last : Metric}
    (othersElsewhere : ∀ metric ∈ others, ¬ metric.AddsTo id) (addsTo : last.AddsTo id)
    {delta : Int64} (holds : last.delta = some delta) (key : String) :
    (ledger.saveMany key (others ++ [last])).2.sum id =
      match (ledger.saveMany key (others ++ [last])).1 with
      | .ok () => ledger.sum id + delta.toInt
      | .error _ => ledger.sum id := by
  -- Nothing in front of the last metric moves the sum, be it refused or not.
  induction others generalizing ledger with
  | nil =>
      rw [List.nil_append, saveMany]
      cases saved : ledger.save last key with
      | mk result next =>
          cases result with
          | ok stored =>
              have added : (ledger.save last key).2.sum id = ledger.sum id + delta.toInt :=
                sum_save_of_addsTo addsTo holds (congrArg Prod.fst saved)
              rw [saved] at added
              exact added
          | error failure =>
              have kept := save_refused (congrArg Prod.fst saved)
              rw [saved] at kept
              exact congrArg (fun ledger => Ledger.sum ledger id) kept
  | cons metric others induction =>
      have kept : (ledger.save metric key).2.sum id = ledger.sum id :=
        sum_save_of_not_addsTo (othersElsewhere metric (by simp)) key
      rw [List.cons_append, saveMany]
      cases saved : ledger.save metric key with
      | mk result next =>
          rw [saved] at kept
          cases result with
          | ok stored =>
              rw [← kept]
              exact induction fun other member => othersElsewhere other (by simp [member])
          | error failure => exact kept

end Ledger

/-- The sum of a counter as a query reads it; one that is not found counts as zero. -/
def Backend.sum {State : Type} (backend : Backend State) (id : String) (state : State) : Int :=
  match backend.find (.query id .counter) "" state with
  | .ok metric => (metric.delta.getD 0).toInt
  | .error _ => 0

theorem Backend.sum_eq_of_find {State : Type} {backend : Backend State} {state : State}
    {ledger : Ledger} {id : String}
    (found : backend.find (.query id .counter) "" state = ledger.find (.query id .counter) "") :
    backend.sum id state = ledger.sum id := by
  rw [Backend.sum, found, Ledger.sum, Ledger.total]
  cases held : ledger.lookup (.counter id) with
  | none => simp [Ledger.find, Ledger.metric?, Metric.query, Metric.admitQuery, Metric.answer, held,
      bind, Except.bind, Counter.Total.zero]
  | some total => simp [Ledger.find, Ledger.metric?, Metric.query, Metric.admitQuery, Metric.answer,
      held, bind, Except.bind, Signature.attach, Series.metric, Metric.counter]

theorem Simulation.sum_eq {State : Type} {backend : Backend State}
    {Represents : State → Ledger → Prop} (simulation : Simulation backend Represents)
    {state : State} {ledger : Ledger} (represents : Represents state ledger) (id : String) :
    backend.sum id state = ledger.sum id :=
  Backend.sum_eq_of_find (simulation.find _ "" represents fun isGauge => nomatch isGauge)

end Telemetry
