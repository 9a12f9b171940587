import Mathlib.Data.Finset.Basic
import Telemetry.Proofs.Outcome
import Telemetry.Proofs.Storage.FileStore
import Telemetry.Proofs.Storage.Sums
import Telemetry.Storage.Open

namespace Telemetry

open Telemetry

/-! A dump of a store that goes on taking in metrics: it reads one series after the other, each at a
time of its own. -/

namespace Series

def names (series : Series) (metric : Metric) : Bool :=
  decide (metric.kind = series.kind ∧ metric.id = series.id)

theorem eq_of_names {series other : Series} {metric : Metric} (named : series.names metric = true)
    (otherNamed : other.names metric = true) : series = other := by
  obtain ⟨kind, id⟩ := of_decide_eq_true named
  obtain ⟨otherKind, otherId⟩ := of_decide_eq_true otherNamed
  exact ext (id.symm.trans otherId) (congrArg Kind.name (kind.symm.trans otherKind))

end Series

theorem Metric.gains_filter (id : String) (metrics : List Metric) :
    gains id (metrics.filter (Series.counter id).names) = gains id metrics := by
  induction metrics with
  | nil => rfl
  | cons metric metrics induction =>
      by_cases named : (Series.counter id).names metric = true
      · rw [List.filter_cons_of_pos named, gains_cons, gains_cons, induction]
      · have elsewhere : ¬ metric.AddsTo id := fun addsTo => named (decide_eq_true addsTo)
        rw [List.filter_cons_of_neg named, induction, gains_cons, gain, if_neg elsewhere,
          Int.zero_add]

namespace Ledger

variable {ledger start : Ledger} {metric : Metric} {key : String} {series : Series}

theorem lookup_insert_of_unnamed (unnamed : series.names metric = false) (other : Series)
    (otherNamed : other.names metric = true) (reading : other.Reading) (ledger : Ledger) :
    (Finmap.insert other reading ledger).lookup series = ledger.lookup series := by
  refine Finmap.lookup_insert_of_ne _ ?_
  rintro rfl
  rw [otherNamed] at unnamed
  cases unnamed

/-- A save leaves all series alone but the one that its metric belongs to. -/
theorem lookup_save_of_unnamed (unnamed : series.names metric = false) (key : String)
    (ledger : Ledger) : (ledger.save metric key).2.lookup series = ledger.lookup series := by
  cases metric.admission key with
  | refused failure refusal => rw [save, Metric.saveBy_refused refusal]
  | gauge value admitted isGauge holds =>
      rw [save, Metric.saveBy_admitted admitted, apply_gauge isGauge holds]
      exact lookup_insert_of_unnamed unnamed (.gauge metric.id) (decide_eq_true ⟨isGauge, rfl⟩)
        value ledger
  | counter delta admitted isCounter holds =>
      rw [save, Metric.saveBy_admitted admitted]
      by_cases fits : Counter.Fits (ledger.sum metric.id + delta.toInt)
      · rw [apply_counter isCounter holds fits]
        exact lookup_insert_of_unnamed unnamed (.counter metric.id)
          (decide_eq_true ⟨isCounter, rfl⟩) ⟨_, fits⟩ ledger
      · rw [apply_overflow isCounter holds fits]

theorem isSome_lookup_save (saved : (ledger.save metric key).1 = .ok ())
    (named : series.names metric = true ∨ (ledger.lookup series).isSome = true) :
    ((ledger.save metric key).2.lookup series).isSome = true := by
  have inserted : ∀ (other : Series) (reading : other.Reading), other.names metric = true →
      ((Finmap.insert other reading ledger).lookup series).isSome = true := by
    intro other reading otherNamed
    by_cases same : series = other
    · subst same
      rw [Finmap.lookup_insert]
      rfl
    · rw [Finmap.lookup_insert_of_ne _ same]
      exact named.resolve_left fun isNamed => same (Series.eq_of_names isNamed otherNamed)
  cases metric.admission key with
  | refused failure refusal =>
      rw [save, Metric.saveBy_refused refusal] at saved
      cases saved
  | gauge value admitted isGauge holds =>
      rw [save, Metric.saveBy_admitted admitted, apply_gauge isGauge holds]
      exact inserted (.gauge metric.id) value (decide_eq_true ⟨isGauge, rfl⟩)
  | counter delta admitted isCounter holds =>
      rw [save, Metric.saveBy_admitted admitted] at saved ⊢
      by_cases fits : Counter.Fits (ledger.sum metric.id + delta.toInt)
      · rw [apply_counter isCounter holds fits]
        exact inserted (.counter metric.id) ⟨_, fits⟩ (decide_eq_true ⟨isCounter, rfl⟩)
      · rw [apply_overflow isCounter holds fits] at saved
        cases saved

theorem isSome_lookup_save_iff (saved : (ledger.save metric key).1 = .ok ()) :
    ((ledger.save metric key).2.lookup series).isSome = true ↔
      series.names metric = true ∨ (ledger.lookup series).isSome = true := by
  refine ⟨fun found => ?_, isSome_lookup_save saved⟩
  cases named : series.names metric with
  | true => exact .inl rfl
  | false =>
      rw [lookup_save_of_unnamed named] at found
      exact .inr found

theorem isSome_lookup_saveMany {metrics : List Metric}
    (taken : start.saveMany key metrics = (.ok (), ledger))
    (named : (∃ metric ∈ metrics, series.names metric = true) ∨
      (start.lookup series).isSome = true) : (ledger.lookup series).isSome = true := by
  induction metrics generalizing start with
  | nil =>
      obtain rfl := (Prod.mk.inj taken).2
      exact named.resolve_left (by simp)
  | cons metric metrics induction =>
      rw [saveMany] at taken
      cases saved : start.save metric key with
      | mk result next =>
          rw [saved] at taken
          cases result with
          | error failure => cases taken
          | ok stored =>
              refine induction taken ?_
              have found : series.names metric = true ∨ (start.lookup series).isSome = true →
                  (next.lookup series).isSome = true := by
                intro known
                have found := isSome_lookup_save (congrArg Prod.fst saved) known
                rw [saved] at found
                exact found
              rcases named with ⟨other, member, isNamed⟩ | before
              · rcases List.mem_cons.mp member with rfl | later
                · exact .inr (found (.inl isNamed))
                · exact .inl ⟨other, later, isNamed⟩
              · exact .inr (found (.inr before))

end Ledger

namespace FileStore

variable {store : FileStore} {ledger : Ledger}

def series (store : FileStore) : Finset Series :=
  (store.gauges.keys.map Series.gauge ++ store.counters.keys.map Series.counter).toFinset

theorem mem_series {series : Series} :
    series ∈ store.series ↔ (store.lookup series.kind series.id).isSome = true := by
  cases series with
  | gauge id => simp [FileStore.series, lookup, Series.kind, Series.id]
  | counter id => simp [FileStore.series, lookup, Series.kind, Series.id]

theorem names_of_lookup {series : Series} {metric : Metric}
    (found : store.lookup series.kind series.id = some metric) : series.names metric = true := by
  cases series with
  | gauge id =>
      obtain ⟨value, _, rfl⟩ := Option.map_eq_some_iff.mp found
      exact decide_eq_true ⟨rfl, rfl⟩
  | counter id =>
      obtain ⟨sum, _, rfl⟩ := Option.map_eq_some_iff.mp found
      exact decide_eq_true ⟨rfl, rfl⟩

theorem apply_of_replayLine {changed : FileStore} {line : List Char}
    (replayed : store.replayLine line = .ok changed) :
    ∃ metric, store.apply metric = .ok changed := by
  unfold replayLine at replayed
  obtain ⟨metric, -, admission⟩ := exists_of_bind_eq_ok replayed
  obtain ⟨admitted, -, stored⟩ := exists_of_bind_eq_ok admission
  exact ⟨metric, stored⟩

theorem Represents.replay (represents : store.Represents ledger) (count : Nat)
    (lines : List (List Char)) : ∃ ledger, (store.replay count lines).2.Represents ledger := by
  induction lines generalizing store ledger count with
  | nil => exact ⟨ledger, represents⟩
  | cons line lines induction =>
      rw [FileStore.replay]
      cases replayed : store.replayLine line with
      | error failure => exact ⟨ledger, represents⟩
      | ok changed =>
          obtain ⟨metric, stored⟩ := apply_of_replayLine replayed
          have agreement := represents.apply metric
          rw [stored] at agreement
          generalize ledger.apply metric = result at agreement
          cases agreement with
          | stored stillRepresents => exact induction stillRepresents (count + 1)

theorem replay_frame (store : FileStore) (count : Nat) (lines : List (List Char)) :
    (store.replay count lines).2.storeFile = store.storeFile ∧
      (store.replay count lines).2.interval = store.interval := by
  induction lines generalizing store count with
  | nil => exact ⟨rfl, rfl⟩
  | cons line lines induction =>
      rw [FileStore.replay]
      cases replayed : store.replayLine line with
      | error failure => exact ⟨rfl, rfl⟩
      | ok changed =>
          obtain ⟨metric, stored⟩ := apply_of_replayLine replayed
          obtain ⟨sameFile, sameInterval⟩ := apply_frame stored
          obtain ⟨stillSameFile, stillSameInterval⟩ := induction changed (count + 1)
          exact ⟨stillSameFile.trans sameFile, stillSameInterval.trans sameInterval⟩

theorem Represents.restore (represents : store.Represents ledger) (disk : Disk) :
    ∃ ledger, (store.restore disk).2.Represents ledger := by
  unfold FileStore.restore
  split
  · exact ⟨ledger, represents⟩
  · split
    · exact ⟨ledger, represents⟩
    · exact ⟨ledger, represents⟩
    · exact represents.replay 0 _

theorem restore_frame (store : FileStore) (disk : Disk) :
    (store.restore disk).2.storeFile = store.storeFile ∧
      (store.restore disk).2.interval = store.interval := by
  unfold restore
  split
  · exact ⟨rfl, rfl⟩
  · split
    · exact ⟨rfl, rfl⟩
    · exact ⟨rfl, rfl⟩
    · exact replay_frame _ 0 _

/-- A store that was opened stands for some ledger, and knows its file. -/
theorem opened (config : StorageConfig) (disk : Disk) :
    (∃ ledger, (Storage.openFile config disk).Represents ledger) ∧
      (Storage.openFile config disk).storeFile = some config.storeFile ∧
      (Storage.openFile config disk).interval = config.storeInterval := by
  have empty := represents_empty (some config.storeFile) config.storeInterval
  unfold Storage.openFile
  split
  · exact ⟨empty.restore disk, restore_frame _ disk⟩
  · exact ⟨⟨_, empty⟩, rfl, rfl⟩

end FileStore

/-- A series was read at some time since a dump began. -/
def ReadSince (start : Ledger) (key : String) (known applied : List Metric) (series : Series)
    (held : List Metric) : Prop :=
  ∃ early ledger, known <+: early ∧ early <+: applied ∧
    start.saveMany key early = (.ok (), ledger) ∧
    held = (ledger.metric? series.kind series.id).toList

/-- How far a dump is that began when so much was known: each series that it does not owe any more
was listed as it was when it was read, or was not there. -/
structure Dumped (start : Ledger) (key : String) (known applied : List Metric)
    (owed : Finset Series) (listed : List Metric) : Prop where
  read : ∀ series, series ∉ owed →
    ReadSince start key known applied series (listed.filter series.names)
  unread : ∀ series ∈ owed, listed.filter series.names = []
  named : ∀ metric ∈ listed, ∃ series : Series, series.names metric = true

namespace Dumped

variable {start ledger : Ledger} {key : String} {known applied : List Metric} {store : FileStore}
  {owed : Finset Series} {listed : List Metric}

theorem begin (taken : start.saveMany key applied = (.ok (), ledger))
    (represents : store.Represents ledger) :
    Dumped start key applied applied store.series [] where
  read series absent := by
    refine ⟨applied, ledger, List.prefix_rfl, List.prefix_rfl, taken, ?_⟩
    rw [FileStore.mem_series, represents.lookup_eq, Bool.not_eq_true, Option.isSome_eq_false_iff,
      Option.isNone_iff_eq_none] at absent
    rw [absent]
    rfl
  unread series owes := rfl
  named metric member := by cases member

theorem grow (dumped : Dumped start key known applied owed listed) {later : List Metric}
    (grown : applied <+: later) : Dumped start key known later owed listed where
  read series settled := by
    obtain ⟨early, ledger, since, before, taken, held⟩ := dumped.read series settled
    exact ⟨early, ledger, since, before.trans grown, taken, held⟩
  unread := dumped.unread
  named := dumped.named

theorem visit (dumped : Dumped start key known applied owed listed)
    (taken : start.saveMany key applied = (.ok (), ledger)) (since : known <+: applied)
    (represents : store.Represents ledger) {series : Series} {metric : Metric}
    (found : store.lookup series.kind series.id = some metric)
    (unlisted : listed.filter series.names = []) :
    Dumped start key known applied (owed.erase series) (listed ++ [metric]) where
  read other settled := by
    -- The series just read is as it is now; any other was read before, or is still owed.
    have named := FileStore.names_of_lookup found
    by_cases same : other = series
    · subst same
      refine ⟨applied, ledger, since, List.prefix_rfl, taken, ?_⟩
      rw [List.filter_append, unlisted, ← represents.lookup_eq, found]
      simp [named]
    · have unnamed : other.names metric = false := by
        rw [← Bool.not_eq_true]
        exact fun otherNamed => same (Series.eq_of_names otherNamed named)
      rw [List.filter_append, List.filter_cons_of_neg (by simp [unnamed]), List.filter_nil,
        List.append_nil]
      exact dumped.read other fun owes => settled (Finset.mem_erase.mpr ⟨same, owes⟩)
  unread other owes := by
    obtain ⟨isOther, stillOwes⟩ := Finset.mem_erase.mp owes
    have unnamed : other.names metric = false := by
      rw [← Bool.not_eq_true]
      exact fun otherNamed =>
        isOther (Series.eq_of_names otherNamed (FileStore.names_of_lookup found))
    rw [List.filter_append, dumped.unread other stillOwes]
    simp [unnamed]
  named other member := by
    rcases List.mem_append.mp member with old | new
    · exact dumped.named other old
    · rw [List.mem_singleton.mp new]
      exact ⟨series, FileStore.names_of_lookup found⟩

theorem counter (dumped : Dumped start key known applied owed listed) {id : String}
    (settled : .counter id ∉ owed) :
    ∃ early late, applied = early ++ late ∧ known <+: early ∧
      (listed.filter (Series.counter id).names).length ≤ 1 ∧
      Metric.gains id listed = start.sum id + Metric.gains id early := by
  obtain ⟨early, ledger, since, ⟨late, whole⟩, taken, held⟩ := dumped.read (.counter id) settled
  have sum : ledger.sum id = start.sum id + Metric.gains id early :=
    Ledger.sum_saveMany_of_ok taken id
  refine ⟨early, late, whole.symm, since, ?_, ?_⟩
  · rw [held]
    cases ledger.metric? (Series.counter id).kind (Series.counter id).id <;> simp
  · rw [← sum, ← Metric.gains_filter, held, Ledger.sum, Ledger.total]
    show Metric.gains id ((ledger.lookup (.counter id)).map (Series.counter id).metric).toList = _
    cases ledger.lookup (.counter id) with
    | none => rfl
    | some total => simp [Series.metric, Metric.gain, Metric.AddsTo, Metric.counter]

theorem gauge (dumped : Dumped start key known applied owed listed) {id : String}
    (settled : .gauge id ∉ owed) :
    ∃ early late, applied = early ++ late ∧ known <+: early ∧
      listed.filter (Series.gauge id).names =
        ((Metric.setting id (start.lookup (.gauge id)) early).map (Metric.gauge id)).toList := by
  obtain ⟨early, ledger, since, ⟨late, whole⟩, taken, held⟩ := dumped.read (.gauge id) settled
  refine ⟨early, late, whole.symm, since, ?_⟩
  rw [held, ← Ledger.lookup_gauge_saveMany_of_ok taken id]
  rfl

/-- A series that was known when the dump began is in the list, as it was at some time since. -/
theorem exists_reading (dumped : Dumped start key known applied owed listed) {series : Series}
    (settled : series ∉ owed) (isKnown : ∃ metric ∈ known, series.names metric = true) :
    ∃ early ledger reading, known <+: early ∧ early <+: applied ∧
      start.saveMany key early = (.ok (), ledger) ∧ ledger.lookup series = some reading ∧
      listed.filter series.names = [series.metric reading] := by
  obtain ⟨early, ledger, since, before, taken, held⟩ := dumped.read series settled
  obtain ⟨metric, member, named⟩ := isKnown
  have found := Ledger.isSome_lookup_saveMany taken (.inl ⟨metric, since.subset member, named⟩)
  obtain ⟨reading, found⟩ := Option.isSome_iff_exists.mp found
  refine ⟨early, ledger, reading, since, before, taken, found, ?_⟩
  have isThere : ledger.metric? series.kind series.id = some (series.metric reading) := by
    cases series with
    | gauge id => exact congrArg (Option.map _) found
    | counter id => exact congrArg (Option.map _) found
  rw [held, isThere]
  rfl

end Dumped

end Telemetry
