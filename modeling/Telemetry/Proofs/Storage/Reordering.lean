import Telemetry.Proofs.Storage.Dump

namespace Telemetry

open Telemetry

/-! Metrics in another order. To a gauge only matters what it is set to last, and to a counter only
that its sum stays in range on the way; so all that matters is the order among the metrics of one
series. -/

namespace Metric

/-- The same metrics, those of one kind and id in the same order. -/
structure Reordered (metrics others : List Metric) : Prop where
  perm : metrics.Perm others
  inOrder : ∀ kind id, metrics.filter (fun metric => metric.kind = kind ∧ metric.id = id) =
    others.filter fun metric => metric.kind = kind ∧ metric.id = id

theorem Reordered.symm {metrics others : List Metric} (reordered : Reordered metrics others) :
    Reordered others metrics :=
  ⟨reordered.perm.symm, fun kind id => (reordered.inOrder kind id).symm⟩

theorem Reordered.filter_names {metrics others : List Metric} (reordered : Reordered metrics others)
    (series : Series) : metrics.filter series.names = others.filter series.names :=
  reordered.inOrder series.kind series.id

theorem setting?_eq_none {id : String} {metric : Metric}
    (unnamed : (Series.gauge id).names metric = false) : metric.setting? id = none :=
  if_neg (of_decide_eq_false unnamed)

theorem setting_filter (id : String) (before : Option Binary64) (metrics : List Metric) :
    setting id before (metrics.filter (Series.gauge id).names) = setting id before metrics := by
  induction metrics generalizing before with
  | nil => rfl
  | cons metric metrics induction =>
      cases named : (Series.gauge id).names metric with
      | true =>
          rw [List.filter_cons_of_pos named]
          exact induction _
      | false =>
          have kept : setting id before (metric :: metrics) = setting id before metrics := by
            rw [setting, List.foldl_cons, setting?_eq_none named]
            rfl
          rw [List.filter_cons_of_neg (by simp [named]), induction, kept]

theorem Reordered.setting_eq {metrics others : List Metric} (reordered : Reordered metrics others)
    (id : String) (before : Option Binary64) :
    setting id before metrics = setting id before others := by
  rw [← setting_filter, reordered.filter_names, setting_filter]

theorem setting_of_counters {metrics : List Metric}
    (counters : ∀ metric ∈ metrics, metric.kind = .counter) (id : String)
    (before : Option Binary64) : setting id before metrics = before := by
  induction metrics generalizing before with
  | nil => rfl
  | cons metric metrics induction =>
      have isCounter := counters metric List.mem_cons_self
      have unset : metric.setting? id = none := if_neg (by simp [isCounter])
      rw [setting, List.foldl_cons, unset]
      exact induction (fun other member => counters other (List.mem_cons_of_mem _ member)) before

end Metric

namespace Ledger

variable {ledger start final other : Ledger} {key : String} {metrics others : List Metric}

/-- No sum leaves its range on the way through a list. -/
def Bears (ledger : Ledger) (metrics : List Metric) : Prop :=
  ∀ early, early <+: metrics → ∀ id, Counter.Fits (ledger.sum id + Metric.gains id early)

theorem bears_nil (ledger : Ledger) : ledger.Bears [] := by
  intro early isPrefix id
  obtain rfl := List.prefix_nil.mp isPrefix
  rw [Metric.gains_nil, Int.add_zero]
  exact (ledger.total id).fits

theorem bears_cons {next : Ledger} {metric : Metric}
    (added : ∀ id, next.sum id = ledger.sum id + metric.gain id) :
    ledger.Bears (metric :: metrics) ↔ next.Bears metrics := by
  constructor
  · intro bears early isPrefix id
    have fits := bears (metric :: early) ((List.prefix_cons_inj metric).mpr isPrefix) id
    rw [Metric.gains_cons] at fits
    rw [added, Int.add_assoc]
    exact fits
  · intro bears early isPrefix id
    rcases List.prefix_cons_iff.mp isPrefix with rfl | ⟨rest, rfl, isRest⟩
    · exact ledger.bears_nil [] List.prefix_rfl id
    · have fits := bears rest isRest id
      rw [added, Int.add_assoc] at fits
      exact fits

theorem exists_save_of_fits {metric : Metric} (admitted : metric.admit key = .ok ())
    (fits : ∀ id, Counter.Fits (ledger.sum id + metric.gain id)) :
    (ledger.save metric key).1 = .ok () := by
  cases metric.admission key with
  | refused failure refusal =>
      rw [refusal] at admitted
      cases admitted
  | gauge value admitted isGauge holds =>
      rw [save, Metric.saveBy_admitted admitted, apply_gauge isGauge holds]
  | counter delta admitted isCounter holds =>
      have fitsOwn := fits metric.id
      rw [Metric.gain, if_pos ⟨isCounter, rfl⟩, holds] at fitsOwn
      rw [save, Metric.saveBy_admitted admitted, apply_counter isCounter holds fitsOwn]

/-- What is admitted is taken in unless a sum leaves its range. -/
theorem saveMany_eq_ok_iff (admitted : ∀ metric ∈ metrics, metric.admit key = .ok ()) :
    (ledger.saveMany key metrics).1 = .ok () ↔ ledger.Bears metrics := by
  induction metrics generalizing ledger with
  | nil => exact iff_of_true rfl ledger.bears_nil
  | cons metric metrics induction =>
      rw [saveMany]
      cases saved : ledger.save metric key with
      | mk result next =>
          cases result with
          | ok stored =>
              have added : ∀ id, next.sum id = ledger.sum id + metric.gain id := by
                intro id
                have added := sum_save_of_ok (congrArg Prod.fst saved) id
                rw [saved] at added
                exact added
              rw [bears_cons added]
              exact induction fun other member => admitted other (List.mem_cons_of_mem _ member)
          | error failure =>
              refine iff_of_false error_ne_ok fun bears => ?_
              have fits : ∀ id, Counter.Fits (ledger.sum id + metric.gain id) := by
                intro id
                have fits := bears [metric] (List.prefix_append [metric] metrics) id
                rw [Metric.gains_cons, Metric.gains_nil, Int.add_zero] at fits
                exact fits
              have stored := exists_save_of_fits (admitted metric List.mem_cons_self) fits
              rw [saved] at stored
              cases stored

theorem Bears.reordered (bears : ledger.Bears metrics)
    (reordered : Metric.Reordered metrics others) :
    ledger.Bears others := by
  intro early isPrefix id
  -- What the early ones add to a counter, the first of its own metrics add in either order.
  have own := isPrefix.filter (Series.counter id).names
  rw [← reordered.filter_names] at own
  obtain ⟨first, isFirst, same⟩ := List.prefix_filter_iff.mp own
  have fits := bears first isFirst id
  rw [← Metric.gains_filter, ← same, Metric.gains_filter] at fits
  exact fits

theorem lookup_counter_ext {id : String}
    (present : (ledger.lookup (.counter id)).isSome = true ↔
      (other.lookup (.counter id)).isSome = true)
    (sum : ledger.sum id = other.sum id) :
    ledger.lookup (.counter id) = other.lookup (.counter id) := by
  rw [Ledger.sum, Ledger.sum, total, total] at sum
  revert present sum
  cases ledger.lookup (.counter id) with
  | none =>
      cases other.lookup (.counter id) with
      | none => exact fun _ _ => rfl
      | some otherTotal => exact fun present _ => absurd (present.mpr rfl) Bool.false_ne_true
  | some total =>
      cases other.lookup (.counter id) with
      | none => exact fun present _ => absurd (present.mp rfl) Bool.false_ne_true
      | some otherTotal => exact fun _ sum => congrArg some (Counter.Total.ext sum)

theorem isSome_lookup_saveMany_iff {series : Series}
    (taken : start.saveMany key metrics = (.ok (), final)) :
    (final.lookup series).isSome = true ↔
      (∃ metric ∈ metrics, series.names metric = true) ∨ (start.lookup series).isSome = true := by
  refine ⟨fun found => ?_, isSome_lookup_saveMany taken⟩
  induction metrics generalizing start with
  | nil =>
      obtain rfl := (Prod.mk.inj taken).2
      exact .inr found
  | cons metric metrics induction =>
      rw [saveMany] at taken
      cases saved : start.save metric key with
      | mk result next =>
          rw [saved] at taken
          cases result with
          | error failure => cases taken
          | ok stored =>
              rcases induction taken with ⟨other, member, named⟩ | before
              · exact .inl ⟨other, List.mem_cons_of_mem _ member, named⟩
              · have isNext : (start.save metric key).2 = next := congrArg Prod.snd saved
                rw [← isNext, isSome_lookup_save_iff (congrArg Prod.fst saved)] at before
                rcases before with named | earlier
                · exact .inl ⟨metric, List.mem_cons_self, named⟩
                · exact .inr earlier

/-- Two orders of the same metrics come to the same, if each gauge is set to the same last. -/
theorem eq_of_saveMany (perm : metrics.Perm others)
    (settings : ∀ id before, Metric.setting id before metrics = Metric.setting id before others)
    (taken : start.saveMany key metrics = (.ok (), final))
    (otherTaken : start.saveMany key others = (.ok (), other)) : final = other := by
  refine Finmap.ext_lookup fun series => ?_
  cases series with
  | gauge id =>
      rw [lookup_gauge_saveMany_of_ok taken, lookup_gauge_saveMany_of_ok otherTaken, settings]
  | counter id =>
      apply lookup_counter_ext
      · rw [isSome_lookup_saveMany_iff taken, isSome_lookup_saveMany_iff otherTaken]
        simp only [perm.mem_iff]
      · rw [sum_saveMany_of_ok taken, sum_saveMany_of_ok otherTaken, Metric.gains_of_perm perm]

end Ledger

end Telemetry
