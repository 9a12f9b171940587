import Telemetry.Proofs.Storage.Dump
import Telemetry.Proofs.Storage.Sums
import Telemetry.Proofs.Storage.Table

namespace Telemetry

open Telemetry

/-! The guard of a counter's row and what it protects. No difference that it decides by leaves the
integers, and so a table that is only saved to holds exact sums: what was refused is not in them,
and each sum is still an integer. -/

/-- A column of integers. -/
def Cell.ofInteger? : Option Int64 → Cell
  | none => .null
  | some number => .integer number

namespace Row

/-- An empty column adds as a zero does. -/
theorem admits_ofInteger? (stored : Option Int64) (written : Cell) :
    admits (.ofInteger? stored) written = admits (.integer (stored.getD 0)) written := by
  cases stored with
  | none => rfl
  | some number => rfl

/-- What the guard decides by: the sign of the delta, and on either side of it a difference that is
an integer. -/
structure Guarded (stored : Option Int64) (written : Int64) : Prop where
  above : 0 ≤ written.toInt →
    (greatest.sub (.integer written)).IsExactly (0x7FFFFFFFFFFFFFFF - written.toInt) ∧
      admits (.ofInteger? stored) (.integer written) =
        (Cell.integer (stored.getD 0)).le (greatest.sub (.integer written))
  below : written.toInt < 0 → least.IsExactly (-0x8000000000000000) ∧
    (least.sub (.integer written)).IsExactly (-0x8000000000000000 - written.toInt) ∧
      admits (.ofInteger? stored) (.integer written) =
        (least.sub (.integer written)).le (.integer (stored.getD 0))
  decides : admits (.ofInteger? stored) (.integer written) = true ↔
    Counter.Fits ((stored.getD 0).toInt + written.toInt)

theorem guarded (stored : Option Int64) (written : Int64) : Guarded stored written where
  above nonnegative := by
    refine ⟨greatest_sub nonnegative, ?_⟩
    rw [admits_ofInteger?, admits_of_nonneg nonnegative]
  below negative := by
    refine ⟨⟨_, least_eq, rfl⟩, least_sub negative, ?_⟩
    rw [admits_ofInteger?, admits_of_neg negative]
  decides := by
    rw [admits_ofInteger?, admits_integer, decide_eq_true_iff]

end Row

namespace Table

/-- Tables that saves lead to, with the metrics whose saves went well. -/
inductive Saved : List Metric → Table → Prop where
  | empty : Saved [] .empty
  | taken {metrics : List Metric} {table next : Table} {metric : Metric} {key : String}
      (saved : Saved metrics table) (outcome : table.save metric key = (.ok (), next)) :
      Saved (metrics ++ [metric]) next
  | refused {metrics : List Metric} {table next : Table} {metric : Metric} {key : String}
      {failure : Failure} (saved : Saved metrics table)
      (outcome : table.save metric key = (.error failure, next)) : Saved metrics next

/-- A table whose counters are the sums of what was taken in. -/
structure Tallies (metrics : List Metric) (table : Table) (ledger : Ledger) : Prop where
  represents : table.Represents ledger
  sum : ∀ id, ledger.sum id = Metric.gains id metrics
  known : ∀ id, (ledger.lookup (.counter id)).isSome = true ↔ ∃ metric ∈ metrics, metric.AddsTo id

theorem names_counter {id : String} {metric : Metric} :
    (Series.counter id).names metric = true ↔ metric.AddsTo id :=
  decide_eq_true_iff

namespace Tallies

variable {metrics : List Metric} {table : Table} {ledger : Ledger}

theorem empty : Tallies [] .empty ∅ where
  represents := represents_empty
  sum _ := rfl
  known id := by simp

theorem taken (tallies : Tallies metrics table ledger) {metric : Metric} {key : String}
    (saved : (ledger.save metric key).1 = .ok ()) :
    Tallies (metrics ++ [metric]) (table.save metric key).2 (ledger.save metric key).2 where
  represents := (simulation.save metric key tallies.represents).2
  sum id := by
    rw [Ledger.sum_save_of_ok saved, tallies.sum, Metric.gains_append, Metric.gains_cons,
      Metric.gains_nil, Int.add_zero]
  known id := by
    rw [Ledger.isSome_lookup_save_iff saved, names_counter, tallies.known]
    simp [or_and_right, exists_or, or_comm]

theorem refused (tallies : Tallies metrics table ledger) {metric : Metric} {key : String}
    {failure : Failure} (refusal : (ledger.save metric key).1 = .error failure) :
    Tallies metrics (table.save metric key).2 ledger where
  represents := by
    have represents := (simulation.save metric key tallies.represents).2
    rw [Ledger.save_refused refusal] at represents
    exact represents
  sum := tallies.sum
  known := tallies.known

theorem delta (tallies : Tallies metrics table ledger) {row : Row} (member : row ∈ table.rows)
    (isCounter : row.kind = Kind.counter.name) :
    row.delta.IsExactly (Metric.gains row.id metrics) := by
  obtain ⟨series, reading, found, rfl⟩ := tallies.represents.exists_of_mem member
  cases series with
  | gauge id => exact absurd (show Kind.gauge.name = Kind.counter.name from isCounter) (by decide)
  | counter id =>
      have sum := tallies.sum id
      rw [Ledger.sum, Ledger.total, found] at sum
      exact ⟨reading.toInt64, rfl, reading.toInt_toInt64.trans sum⟩

theorem exists_row_iff (tallies : Tallies metrics table ledger) (id : String) :
    (∃ row ∈ table.rows, row.id = id ∧ row.kind = Kind.counter.name) ↔
      ∃ metric ∈ metrics, metric.AddsTo id := by
  rw [← tallies.known]
  constructor
  · rintro ⟨row, member, rfl, isCounter⟩
    obtain ⟨series, reading, found, rfl⟩ := tallies.represents.exists_of_mem member
    cases series with
    | gauge id => exact absurd (show Kind.gauge.name = Kind.counter.name from isCounter) (by decide)
    | counter id => exact Option.isSome_iff_exists.mpr ⟨reading, found⟩
  · intro known
    obtain ⟨total, found⟩ := Option.isSome_iff_exists.mp known
    have row := tallies.represents.rows (.counter id)
    rw [found] at row
    exact ⟨_, List.mem_of_find?_eq_some row, rfl, rfl⟩

/-- The number of rows written tells whether the sum is an integer. -/
theorem written (tallies : Tallies metrics table ledger) (id : String) (delta : Int64) :
    (table.upsert Row.addDelta (.counter id delta)).1 =
      if Counter.Fits (Metric.gains id metrics + delta.toInt) then 1 else 0 := by
  have sum : (ledger.total id).number = Metric.gains id metrics := tallies.sum id
  rw [tallies.represents.upsert_counter, Counter.add?_toInt64, sum]
  by_cases fits : Counter.Fits (Metric.gains id metrics + delta.toInt)
  · rw [dif_pos fits, if_pos fits]
  · rw [dif_neg fits, if_neg fits]

theorem outcome (tallies : Tallies metrics table ledger) {metric : Metric} {key : String}
    {delta : Int64} (admitted : metric.admit key = .ok ()) (isCounter : metric.kind = .counter)
    (holds : metric.delta = some delta) :
    (table.save metric key).1 =
      if Counter.Fits (Metric.gains metric.id metrics + delta.toInt) then .ok ()
      else .error (.badRequest (.overflow metric.id)) := by
  have same : (table.save metric key).1 = (ledger.save metric key).1 :=
    (simulation.save metric key tallies.represents).1
  rw [same, Ledger.save, Metric.saveBy_admitted admitted, ← tallies.sum]
  by_cases fits : Counter.Fits (ledger.sum metric.id + delta.toInt)
  · rw [Ledger.apply_counter isCounter holds fits, if_pos fits]
  · rw [Ledger.apply_overflow isCounter holds fits, if_neg fits]

end Tallies

theorem Saved.exists_tallies {metrics : List Metric} {table : Table}
    (saved : Saved metrics table) : ∃ ledger, Tallies metrics table ledger := by
  induction saved with
  | empty => exact ⟨∅, .empty⟩
  | @taken metrics table next metric key saved outcome induction =>
      obtain ⟨ledger, tallies⟩ := induction
      have same := (simulation.save metric key tallies.represents).1
      have result : (table.save metric key).1 = .ok () := congrArg Prod.fst outcome
      have next := tallies.taken (same.symm.trans result)
      rw [outcome] at next
      exact ⟨_, next⟩
  | @refused metrics table next metric key failure saved outcome induction =>
      obtain ⟨ledger, tallies⟩ := induction
      have same := (simulation.save metric key tallies.represents).1
      have result : (table.save metric key).1 = .error failure := congrArg Prod.fst outcome
      have next := tallies.refused (same.symm.trans result)
      rw [outcome] at next
      exact ⟨ledger, next⟩

/-- The guard is exact, also at the ends of the integers and where the column is empty. So whatever
has been saved, each counter has a row with the integer that is the sum of the deltas taken in, and
a delta that is not taken in is one for which no row is written. -/
theorem sums_exact :
    (∀ stored written, Row.Guarded stored written) ∧
    ∀ metrics table, Saved metrics table →
      (∀ row ∈ table.rows, row.kind = Kind.counter.name →
        row.delta.IsExactly (Metric.gains row.id metrics)) ∧
      (∀ id, (∃ row ∈ table.rows, row.id = id ∧ row.kind = Kind.counter.name) ↔
        ∃ metric ∈ metrics, metric.AddsTo id) ∧
      ∀ metric key delta, metric.admit key = .ok () → metric.kind = .counter →
        metric.delta = some delta →
        let rowsWritten := (table.upsert Row.addDelta (.counter metric.id delta)).1
        (rowsWritten = 0 ↔ ¬ Counter.Fits (Metric.gains metric.id metrics + delta.toInt)) ∧
        (rowsWritten = 0 ↔
          (table.save metric key).1 = .error (.badRequest (.overflow metric.id))) ∧
        (rowsWritten ≠ 0 ↔ (table.save metric key).1 = .ok ()) := by
  refine ⟨Row.guarded, fun metrics table saved => ?_⟩
  obtain ⟨ledger, tallies⟩ := saved.exists_tallies
  refine ⟨fun row member => tallies.delta member, tallies.exists_row_iff, ?_⟩
  intro metric key delta admitted isCounter holds
  dsimp only
  rw [tallies.written, tallies.outcome admitted isCounter holds]
  by_cases fits : Counter.Fits (Metric.gains metric.id metrics + delta.toInt)
  · simp [fits]
  · simp [fits]

/-- Two counters, one at either end of the integers. -/
def fullTable : Table := ⟨[.counter "c" Int64.maxValue, .counter "d" Int64.minValue], false⟩

theorem sums_exact_full :
    Saved [.counter "c" Int64.maxValue, .counter "d" Int64.minValue] fullTable ∧
      (fullTable.upsert Row.addDelta (.counter "c" 1)).1 = 0 ∧
      (fullTable.save (.counter "c" 1) "").1 = .error (.badRequest (.overflow "c")) ∧
      (fullTable.save (.counter "d" 1) "").1 = .ok () ∧
      (Row.least.sub (.integer Int64.minValue)).IsExactly 0 := by
  have first : Table.empty.save (.counter "c" Int64.maxValue) "" =
      (.ok (), ⟨[.counter "c" Int64.maxValue], false⟩) := by decide +kernel
  have second : Table.save (.counter "d" Int64.minValue) ""
      ⟨[.counter "c" Int64.maxValue], false⟩ = (.ok (), fullTable) := by decide +kernel
  have saved : Saved [.counter "c" Int64.maxValue, .counter "d" Int64.minValue] fullTable :=
    .taken (.taken .empty first) second
  have admitted (id : String) (delta : Int64) : Metric.admit (.counter id delta) "" = .ok () := rfl
  obtain ⟨each, sums⟩ := sums_exact
  obtain ⟨-, -, outcomes⟩ := sums _ _ saved
  obtain ⟨full, refused, -⟩ := outcomes (.counter "c" 1) "" 1 (admitted _ _) rfl rfl
  obtain ⟨room, -, taken⟩ := outcomes (.counter "d" 1) "" 1 (admitted _ _) rfl rfl
  have unwritten := full.mpr (by decide)
  refine ⟨saved, unwritten, refused.mp unwritten, taken.mp (mt room.mp (by decide)), ?_⟩
  exact ((each none Int64.minValue).below (by decide)).2.1

end Table

end Telemetry
