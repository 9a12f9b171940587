import Telemetry.Storage.Backend

namespace Telemetry

open Telemetry

/-! What storage makes of a metric before it looks at its state. -/

theorem Metric.admit_eq_ok {metric : Metric} {key : String} :
    metric.admit key = .ok () ↔
      metric.validate = .ok () ∧ Signature.verify metric key = .ok () := by
  unfold Metric.admit
  cases metric.validate with
  | error failure => simp [bind, Except.bind]
  | ok valid => cases valid; simp [bind, Except.bind]

theorem Metric.validate_gauge {metric : Metric} {value : Binary64} (isGauge : metric.kind = .gauge)
    (holds : metric.value = some value) : metric.validate = .ok () := by
  simp only [Metric.validate, isGauge, holds, Option.isSome_some, if_true]

theorem Metric.validate_counter {metric : Metric} {delta : Int64}
    (isCounter : metric.kind = .counter) (holds : metric.delta = some delta) :
    metric.validate = .ok () := by
  simp only [Metric.validate, isCounter, holds, Option.isSome_some, if_true]

/-- What a metric asks for: to set a gauge, to add to a counter, or nothing that can be done. -/
inductive Content (metric : Metric) : Prop where
  | gauge (value : Binary64) (isGauge : metric.kind = .gauge) (holds : metric.value = some value)
  | counter (delta : Int64) (isCounter : metric.kind = .counter)
      (holds : metric.delta = some delta)
  | invalid (failure : Failure) (invalid : metric.validate = .error failure)

theorem Metric.content (metric : Metric) : Content metric := by
  cases kind : metric.kind with
  | gauge =>
      cases holds : metric.value with
      | none =>
          refine .invalid (.badRequest (.missingValue metric.id)) ?_
          simp only [Metric.validate, kind, holds, Option.isSome_none, Bool.false_eq_true, if_false]
      | some value => exact .gauge value kind holds
  | counter =>
      cases holds : metric.delta with
      | none =>
          refine .invalid (.badRequest (.missingDelta metric.id)) ?_
          simp only [Metric.validate, kind, holds, Option.isSome_none, Bool.false_eq_true, if_false]
      | some delta => exact .counter delta kind holds
  | unknown name =>
      refine .invalid (.notImplemented (.unknownKind name)) ?_
      simp only [Metric.validate, kind]

/-- All storage goes by what a metric asks for, and refuses one that asks for nothing that can be
done as the check does. -/
theorem Metric.change_invalid {State : Type} {metric : Metric} {failure : Failure}
    (invalid : metric.validate = .error failure) (set : Binary64 → Except Failure State)
    (add : Int64 → Except Failure State) (keep : Unit → State) :
    (match metric.kind, metric.value, metric.delta with
      | .gauge, some value, _ => set value
      | .counter, _, some delta => add delta
      | _, _, _ => metric.validate.map keep) = .error failure := by
  split
  · next isGauge holds =>
      rw [validate_gauge isGauge holds] at invalid
      cases invalid
  · next isCounter holds =>
      rw [validate_counter isCounter holds] at invalid
      cases invalid
  · rw [invalid]
    rfl

inductive Admission (metric : Metric) (key : String) : Prop where
  | refused (failure : Failure) (refusal : metric.admit key = .error failure)
  | gauge (value : Binary64) (admitted : metric.admit key = .ok ())
      (isGauge : metric.kind = .gauge) (holds : metric.value = some value)
  | counter (delta : Int64) (admitted : metric.admit key = .ok ())
      (isCounter : metric.kind = .counter) (holds : metric.delta = some delta)

theorem Metric.admission (metric : Metric) (key : String) : Admission metric key := by
  cases outcome : metric.admit key with
  | error failure => exact .refused failure outcome
  | ok admitted =>
      cases metric.content with
      | gauge value isGauge holds => exact .gauge value outcome isGauge holds
      | counter delta isCounter holds => exact .counter delta outcome isCounter holds
      | invalid failure invalid =>
          have valid := (Metric.admit_eq_ok.mp outcome).1
          rw [invalid] at valid
          cases valid

/-- Saving as every storage does it: admission first, then a change of state or none. -/
def Metric.saveBy {State : Type} (apply : State → Metric → Except Failure State) (metric : Metric)
    (key : String) (state : State) : Except Failure Unit × State :=
  match metric.admit key with
  | .error failure => (.error failure, state)
  | .ok () =>
    match apply state metric with
    | .error failure => (.error failure, state)
    | .ok state => (.ok (), state)

theorem Metric.saveBy_refused {State : Type} {apply : State → Metric → Except Failure State}
    {metric : Metric} {key : String} {failure : Failure}
    (refusal : metric.admit key = .error failure) (state : State) :
    metric.saveBy apply key state = (.error failure, state) := by
  unfold Metric.saveBy
  rw [refusal]

theorem Metric.saveBy_admitted {State : Type} {apply : State → Metric → Except Failure State}
    {metric : Metric} {key : String} (admitted : metric.admit key = .ok ()) (state : State) :
    metric.saveBy apply key state =
      match apply state metric with
      | .error failure => (.error failure, state)
      | .ok state => (.ok (), state) := by
  unfold Metric.saveBy
  rw [admitted]

theorem Metric.snd_saveBy_of_error {State : Type} {apply : State → Metric → Except Failure State}
    {metric : Metric} {key : String} {state : State} {failure : Failure}
    (refusal : (metric.saveBy apply key state).1 = .error failure) :
    (metric.saveBy apply key state).2 = state := by
  unfold Metric.saveBy at refusal ⊢
  split at refusal
  · rfl
  · split at refusal
    · rfl
    · cases refusal

/-- What holds of the state and is kept by each save is kept by a list of them. -/
theorem Backend.saveMany_keeps {State : Type} {backend : Backend State} {Keeps : State → Prop}
    {key : String} {metrics : List Metric}
    (save : ∀ metric ∈ metrics, ∀ state, Keeps state → Keeps (backend.save metric key state).2)
    {state : State} (keeps : Keeps state) : Keeps (backend.saveMany key metrics state).2 := by
  induction metrics generalizing state with
  | nil => exact keeps
  | cons metric metrics induction =>
      have kept := save metric List.mem_cons_self state keeps
      unfold Backend.saveMany
      split
      · next next saved =>
          rw [saved] at kept
          exact induction (fun other member => save other (List.mem_cons_of_mem _ member)) kept
      · next failure next saved =>
          rw [saved] at kept
          exact kept

end Telemetry
