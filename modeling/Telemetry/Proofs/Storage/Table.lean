import Telemetry.Proofs.Binary64.Rounding
import Telemetry.Proofs.Storage.Refinement
import Telemetry.Storage.Table

namespace Telemetry

open Telemetry

/-! Rows stand for a ledger. The guard that keeps a sum within the integers subtracts before it
compares, so that it never leaves them itself; it admits a delta exactly where the sum fits. -/

namespace Cell

@[simp] theorem integer_le_integer (left right : Int64) :
    (integer left).le (.integer right) = decide (left.toInt ≤ right.toInt) := by
  have positive : (0 : Int) < Binary64.unitsInOne := Int.natCast_pos.mpr Binary64.unitsInOne_pos
  exact decide_eq_decide.mpr (Int.mul_le_mul_right positive)

@[simp] theorem integer_lt_integer (left right : Int64) :
    (integer left).lt (.integer right) = decide (left.toInt < right.toInt) := by
  have positive : (0 : Int) < Binary64.unitsInOne := Int.natCast_pos.mpr Binary64.unitsInOne_pos
  exact decide_eq_decide.mpr (Int.mul_lt_mul_right positive)

theorem sub_integer {left right : Int64} (fits : Counter.Fits (left.toInt - right.toInt)) :
    (integer left).sub (.integer right) = .integer (Int64.ofInt (left.toInt - right.toInt)) :=
  if_pos fits

/-- A cell with an integer, not rounded and not wrapped. -/
def IsExactly (cell : Cell) (number : Int) : Prop :=
  ∃ integer : Int64, cell = .integer integer ∧ integer.toInt = number

theorem isExactly_sub {cell : Cell} {number : Int} {right : Int64} (exactly : cell.IsExactly number)
    (fits : Counter.Fits (number - right.toInt)) :
    (cell.sub (.integer right)).IsExactly (number - right.toInt) := by
  obtain ⟨left, rfl, rfl⟩ := exactly
  exact ⟨_, sub_integer fits, Int64.toInt_ofInt_of_le fits.1 fits.2⟩

theorem add_integer {left right : Int64} (fits : Counter.Fits (left.toInt + right.toInt)) :
    (integer left).add (.integer right) = .integer (Int64.ofInt (left.toInt + right.toInt)) :=
  if_pos fits

theorem ofBinary64_of_isRegular {value : Binary64} (regular : value.IsRegular) :
    ofBinary64 value = .real value := by
  rw [ofBinary64, regular.1, if_neg Bool.false_ne_true]
  split
  · next isZero => rw [regular.eq_zero isZero]
  · rfl

/-- The double that comes back from a column. -/
def reread (value : Binary64) : Binary64 := if value.IsRegular then value else .zero

theorem reread_of_isRegular {value : Binary64} (regular : value.IsRegular) : reread value = value :=
  if_pos regular

end Cell

namespace Row

theorem least_eq : least = .integer (-0x8000000000000000) :=
  Cell.sub_integer (by decide)

theorem greatest_sub {written : Int64} (nonnegative : 0 ≤ written.toInt) :
    (greatest.sub (.integer written)).IsExactly (0x7FFFFFFFFFFFFFFF - written.toInt) := by
  have writtenFits := Counter.fits_toInt written
  have exactly : greatest.IsExactly 0x7FFFFFFFFFFFFFFF := ⟨_, rfl, rfl⟩
  refine Cell.isExactly_sub exactly ?_
  unfold Counter.Fits at writtenFits ⊢
  omega

theorem least_sub {written : Int64} (negative : written.toInt < 0) :
    (least.sub (.integer written)).IsExactly (-0x8000000000000000 - written.toInt) := by
  have writtenFits := Counter.fits_toInt written
  have exactly : least.IsExactly (-0x8000000000000000) := ⟨_, least_eq, rfl⟩
  refine Cell.isExactly_sub exactly ?_
  unfold Counter.Fits at writtenFits ⊢
  omega

/-- The sign of the delta says which half of the guard decides. -/
theorem admits_of_nonneg {stored written : Int64} (nonnegative : 0 ≤ written.toInt) :
    admits (.integer stored) (.integer written) =
      (Cell.integer stored).le (greatest.sub (.integer written)) := by
  have zero : (0 : Int64).toInt = 0 := rfl
  have decides : (Cell.integer 0).le (.integer written) = true := by
    rw [Cell.integer_le_integer, zero, decide_eq_true nonnegative]
  have isOff : (Cell.integer written).lt (.integer 0) = false := by
    rw [Cell.integer_lt_integer, zero, decide_eq_false (Int.not_lt.mpr nonnegative)]
  show ((Cell.integer 0).le (.integer written) && _ ||
    (Cell.integer written).lt (.integer 0) && _) = _
  rw [decides, isOff, Bool.true_and, Bool.false_and, Bool.or_false]
  rfl

theorem admits_of_neg {stored written : Int64} (negative : written.toInt < 0) :
    admits (.integer stored) (.integer written) =
      (least.sub (.integer written)).le (.integer stored) := by
  have zero : (0 : Int64).toInt = 0 := rfl
  have isOff : (Cell.integer 0).le (.integer written) = false := by
    rw [Cell.integer_le_integer, zero, decide_eq_false (Int.not_le.mpr negative)]
  have decides : (Cell.integer written).lt (.integer 0) = true := by
    rw [Cell.integer_lt_integer, zero, decide_eq_true negative]
  show ((Cell.integer 0).le (.integer written) && _ ||
    (Cell.integer written).lt (.integer 0) && _) = _
  rw [decides, isOff, Bool.true_and, Bool.false_and, Bool.false_or]
  rfl

/-- A delta is added exactly where the sum fits. -/
theorem admits_integer (stored written : Int64) :
    admits (.integer stored) (.integer written) =
      decide (Counter.Fits (stored.toInt + written.toInt)) := by
  have storedFits := Counter.fits_toInt stored
  unfold Counter.Fits at storedFits ⊢
  by_cases nonnegative : 0 ≤ written.toInt
  · obtain ⟨bound, isBound, exactly⟩ := greatest_sub nonnegative
    rw [admits_of_nonneg nonnegative, isBound, Cell.integer_le_integer, exactly]
    refine decide_eq_decide.mpr ?_
    omega
  · have negative : written.toInt < 0 := Int.not_le.mp nonnegative
    obtain ⟨bound, isBound, exactly⟩ := least_sub negative
    rw [admits_of_neg negative, isBound, Cell.integer_le_integer, exactly]
    refine decide_eq_decide.mpr ?_
    omega

theorem addDelta_counter (id : String) (stored delta : Int64) :
    addDelta (counter id delta) (counter id stored) =
      (Counter.add? stored delta).map (counter id) := by
  show (if admits (.integer stored) (.integer delta) then
      some { counter id stored with delta := (Cell.integer stored).add (.integer delta) }
    else none) = _
  rw [admits_integer, Counter.add?]
  by_cases fits : Counter.Fits (stored.toInt + delta.toInt)
  · rw [Cell.add_integer fits, decide_eq_true fits, if_pos rfl, if_pos fits]
    rfl
  · rw [decide_eq_false fits, if_neg Bool.false_ne_true, if_neg fits]
    rfl

theorem hasKey_iff {row : Row} {id kind : String} :
    row.hasKey id kind = true ↔ row.id = id ∧ row.kind = kind := by
  simp [hasKey]

theorem toMetric_counter (id : String) (sum : Int64) :
    (counter id sum).toMetric = .ok (.counter id sum) := rfl

theorem toMetric_gauge (id : String) (value : Binary64) :
    (gauge id value).toMetric = .ok (.gauge id (Cell.reread value)) := by
  unfold Cell.reread
  split
  · next regular =>
      rw [gauge, Cell.ofBinary64_of_isRegular regular]
      rfl
  · next irregular =>
      rw [gauge, Cell.ofBinary64]
      split
      · rfl
      · next isNumber =>
          have isZero : value.isZero = true := by
            by_contra nonzero
            exact irregular ⟨by simpa using isNumber, fun negativeZero => nonzero negativeZero.1⟩
          rw [if_pos isZero]
          rfl

end Row

namespace Table

theorem apply_invalid {table : Table} {metric : Metric} {failure : Failure}
    (invalid : metric.validate = .error failure) : table.apply metric = .error failure :=
  Metric.change_invalid invalid _ _ _

def keyOf (row : Row) : String × String := (row.id, row.kind)

def overwrite (written row : Row) : Row :=
  if row.hasKey written.id written.kind then written else row

theorem hasKey_overwrite (written row : Row) (id kind : String) :
    (overwrite written row).hasKey id kind = row.hasKey id kind := by
  unfold overwrite
  split
  · next sameKey =>
      obtain ⟨sameId, sameKind⟩ := Row.hasKey_iff.mp sameKey
      simp only [Row.hasKey, sameId, sameKind]
  · rfl

theorem keyOf_overwrite (written row : Row) : keyOf (overwrite written row) = keyOf row := by
  unfold overwrite
  split
  · next sameKey =>
      obtain ⟨sameId, sameKind⟩ := Row.hasKey_iff.mp sameKey
      rw [keyOf, keyOf, sameId, sameKind]
  · rfl

/-- The table with a row in place of the one with its key, or else at the end. -/
def put (table : Table) (written : Row) : Table :=
  match table.row? written.id written.kind with
  | none => { table with rows := table.rows ++ [written] }
  | some _ => { table with rows := table.rows.map (overwrite written) }

theorem hasKey_of_row? {table : Table} {id kind : String} {row : Row}
    (found : table.row? id kind = some row) : row.hasKey id kind = true :=
  List.find?_some (p := fun row : Row => row.hasKey id kind) found

theorem row?_of_mem {table : Table} (nodup : (table.rows.map keyOf).Nodup) {row : Row}
    (member : row ∈ table.rows) : table.row? row.id row.kind = some row := by
  have present : (table.row? row.id row.kind).isSome := by
    rw [row?, List.find?_isSome]
    exact ⟨row, member, Row.hasKey_iff.mpr ⟨rfl, rfl⟩⟩
  obtain ⟨found, holds⟩ := Option.isSome_iff_exists.mp present
  obtain ⟨sameId, sameKind⟩ := Row.hasKey_iff.mp (hasKey_of_row? holds)
  have foundMember : found ∈ table.rows := by
    rw [row?] at holds
    exact List.mem_of_find?_eq_some holds
  have same : found = row :=
    List.inj_on_of_nodup_map nodup foundMember member (by rw [keyOf, keyOf, sameId, sameKind])
  rw [holds, same]

theorem row?_put_self (table : Table) (written : Row) :
    (table.put written).row? written.id written.kind = some written := by
  have ownKey : written.hasKey written.id written.kind = true := Row.hasKey_iff.mpr ⟨rfl, rfl⟩
  unfold put
  cases found : table.row? written.id written.kind with
  | none =>
      rw [row?] at found ⊢
      rw [List.find?_append, found, Option.none_or, List.find?_singleton, if_pos ownKey]
  | some row =>
      have foundKey := hasKey_of_row? found
      have keepsKey : (fun row => row.hasKey written.id written.kind) ∘ overwrite written =
          fun row => row.hasKey written.id written.kind :=
        funext fun row => hasKey_overwrite written row written.id written.kind
      rw [row?] at found ⊢
      rw [List.find?_map, keepsKey, found, Option.map_some, overwrite, if_pos foundKey]

theorem row?_put_of_ne (table : Table) {written : Row} {id kind : String}
    (otherKey : ¬ (written.id = id ∧ written.kind = kind)) :
    (table.put written).row? id kind = table.row? id kind := by
  unfold put
  split
  · have passes : ¬ written.hasKey id kind = true := fun same => otherKey (Row.hasKey_iff.mp same)
    rw [row?, row?, List.find?_append, List.find?_singleton, if_neg passes, Option.or_none]
  · have keepsKey : (fun row => row.hasKey id kind) ∘ overwrite written =
        fun row => row.hasKey id kind :=
      funext fun row => hasKey_overwrite written row id kind
    rw [row?, row?, List.find?_map, keepsKey]
    cases found : table.row? id kind with
    | none =>
        rw [row?] at found
        rw [found]
        rfl
    | some row =>
        obtain ⟨sameId, sameKind⟩ := Row.hasKey_iff.mp (hasKey_of_row? found)
        have distinct : ¬ row.hasKey written.id written.kind = true := by
          intro same
          obtain ⟨writtenId, writtenKind⟩ := Row.hasKey_iff.mp same
          exact otherKey ⟨writtenId.symm.trans sameId, writtenKind.symm.trans sameKind⟩
        rw [row?] at found
        rw [found, Option.map_some, overwrite, if_neg distinct]

theorem mem_put {table : Table} {written row : Row} (member : row ∈ (table.put written).rows) :
    row = written ∨ row ∈ table.rows := by
  unfold put at member
  split at member
  · rcases List.mem_append.mp member with old | new
    · exact .inr old
    · exact .inl (List.mem_singleton.mp new)
  · obtain ⟨old, oldMember, rfl⟩ := List.mem_map.mp member
    unfold overwrite
    split
    · exact .inl rfl
    · exact .inr oldMember

theorem nodup_put {table : Table} (nodup : (table.rows.map keyOf).Nodup) (written : Row) :
    ((table.put written).rows.map keyOf).Nodup := by
  unfold put
  split
  · next absent =>
      have fresh : ∀ row ∈ table.rows, row.hasKey written.id written.kind = false := by
        simpa [row?] using absent
      rw [List.map_append, List.nodup_append]
      refine ⟨nodup, List.nodup_singleton _, ?_⟩
      intro key member other isWritten same
      obtain ⟨row, rowMember, rfl⟩ := List.mem_map.mp member
      rw [List.map_singleton, List.mem_singleton] at isWritten
      rw [isWritten] at same
      have sameKey : row.hasKey written.id written.kind = true :=
        Row.hasKey_iff.mpr (Prod.mk.inj same)
      rw [fresh row rowMember] at sameKey
      cases sameKey
  · have keepsKeys : keyOf ∘ overwrite written = keyOf := funext fun row =>
      keyOf_overwrite written row
    rw [List.map_map, keepsKeys]
    exact nodup

section

variable {table : Table} {onConflict : Row → Row → Option Row} {written : Row}

theorem upsert_of_absent (absent : table.row? written.id written.kind = none) :
    table.upsert onConflict written = (1, table.put written) := by
  simp only [upsert, put, absent]

theorem upsert_of_changed {row changed : Row}
    (present : table.row? written.id written.kind = some row)
    (change : onConflict written row = some changed)
    (sameKey : changed.id = written.id ∧ changed.kind = written.kind) :
    table.upsert onConflict written = (1, table.put changed) := by
  simp only [upsert, put, present, change, sameKey.1, sameKey.2]
  congr 3
  funext row
  rw [overwrite, sameKey.1, sameKey.2]

theorem upsert_of_refused {row : Row} (present : table.row? written.id written.kind = some row)
    (refusal : onConflict written row = none) :
    table.upsert onConflict written = (0, table) := by
  simp only [upsert, present, refusal]

end

end Table

theorem Table.mapM_toMetric {rows : List Row} {metricOf : Row → Metric}
    (holds : ∀ row ∈ rows, row.toMetric = .ok (metricOf row)) :
    rows.mapM Row.toMetric = .ok (rows.map metricOf) := by
  induction rows with
  | nil => rfl
  | cons row rows induction =>
      rw [List.mapM_cons, holds row (by simp),
        induction fun other member => holds other (by simp [member])]
      rfl

def Series.row : (series : Series) → series.Reading → Row
  | .gauge id, value => .gauge id value
  | .counter id, total => .counter id total.toInt64

/-- What comes back of a reading from its row. -/
def Series.reread : (series : Series) → series.Reading → series.Reading
  | .gauge _, value => Cell.reread value
  | .counter _, total => total

theorem Series.toMetric_row (series : Series) (reading : series.Reading) :
    (series.row reading).toMetric = .ok (series.metric (series.reread reading)) := by
  cases series with
  | gauge id => exact Row.toMetric_gauge id reading
  | counter id => exact Row.toMetric_counter id _

theorem Ledger.IsRegular.reread_eq {ledger : Ledger} {series : Series} {reading : series.Reading}
    (regular : series.kind = .gauge → ledger.IsRegular)
    (found : ledger.lookup series = some reading) : series.reread reading = reading := by
  cases series with
  | gauge id => exact Cell.reread_of_isRegular (regular rfl id reading found)
  | counter id => rfl

theorem Series.row_key (series : Series) (reading : series.Reading) :
    (series.row reading).id = series.id ∧ (series.row reading).kind = series.kind.name := by
  cases series with
  | gauge id => exact ⟨rfl, rfl⟩
  | counter id => exact ⟨rfl, rfl⟩

namespace Table

/-- A table that can be written to and holds one row for each series of the ledger. -/
structure Represents (table : Table) (ledger : Ledger) : Prop where
  rows : ∀ series, table.row? (Series.id series) series.kind.name =
    (ledger.lookup series).map series.row
  keys : ∀ row ∈ table.rows, ∃ series, row.id = Series.id series ∧ row.kind = series.kind.name
  nodup : (table.rows.map keyOf).Nodup
  writable : table.isReadOnly = false

theorem represents_empty : Table.empty.Represents ∅ where
  rows _ := rfl
  keys row member := by cases member
  nodup := List.nodup_nil
  writable := rfl

theorem put_isReadOnly (table : Table) (written : Row) :
    (table.put written).isReadOnly = table.isReadOnly := by
  unfold put
  split <;> rfl

namespace Represents

variable {table : Table} {ledger : Ledger}

theorem put (represents : table.Represents ledger) (series : Series) (reading : series.Reading) :
    (table.put (series.row reading)).Represents (ledger.insert series reading) where
  rows other := by
    obtain ⟨rowId, rowKind⟩ := series.row_key reading
    by_cases same : series = other
    · subst same
      rw [← rowId, ← rowKind, row?_put_self, Finmap.lookup_insert]
      rfl
    · have otherKey : ¬ ((series.row reading).id = other.id ∧
          (series.row reading).kind = other.kind.name) := by
        rintro ⟨sameId, sameKind⟩
        exact same (Series.ext (rowId.symm.trans sameId) (rowKind.symm.trans sameKind))
      rw [row?_put_of_ne table otherKey, Finmap.lookup_insert_of_ne _ (Ne.symm same)]
      exact represents.rows other
  keys row member := by
    rcases mem_put member with rfl | old
    · exact ⟨series, series.row_key reading⟩
    · exact represents.keys row old
  nodup := nodup_put represents.nodup _
  writable := (put_isReadOnly table _).trans represents.writable

theorem upsert_gauge (represents : table.Represents ledger) (id : String) (value : Binary64) :
    table.upsert Row.takeValue (.gauge id value) = (1, table.put (.gauge id value)) := by
  have kept := represents.rows (.gauge id)
  cases found : ledger.lookup (.gauge id) with
  | none =>
      rw [found] at kept
      exact upsert_of_absent kept
  | some old =>
      rw [found] at kept
      exact upsert_of_changed kept rfl ⟨rfl, rfl⟩

/-- Adding to a counter puts the sum's row in, if it fits. -/
theorem upsert_counter (represents : table.Represents ledger) (id : String) (delta : Int64) :
    table.upsert Row.addDelta (.counter id delta) =
      match Counter.add? (ledger.total id).toInt64 delta with
      | some sum => (1, table.put (.counter id sum))
      | none => (0, table) := by
  have kept := represents.rows (.counter id)
  rw [Ledger.total]
  cases found : ledger.lookup (.counter id) with
  | none =>
      rw [found] at kept
      have fits := Counter.fits_toInt delta
      have alone : Counter.add? Counter.Total.zero.toInt64 delta = some delta := by
        rw [Counter.add?, Counter.Total.toInt_toInt64, Counter.Total.zero, Int.zero_add,
          if_pos fits, Int64.ofInt_toInt]
      rw [Option.getD_none, alone]
      exact upsert_of_absent kept
  | some total =>
      rw [found] at kept
      have change := Row.addDelta_counter id total.toInt64 delta
      rw [Option.getD_some]
      cases added : Counter.add? total.toInt64 delta with
      | none =>
          rw [added] at change
          exact upsert_of_refused kept change
      | some sum =>
          rw [added] at change
          exact upsert_of_changed kept change ⟨rfl, rfl⟩

theorem apply (represents : table.Represents ledger) (metric : Metric) :
    Agreement Represents (table.apply metric) (ledger.apply metric) := by
  cases metric.content with
  | gauge value isGauge holds =>
      rw [Ledger.apply_gauge isGauge holds]
      simp only [Table.apply, isGauge, holds, represents.writable, Bool.false_eq_true, if_false,
        bind, Except.bind, represents.upsert_gauge]
      exact .stored (represents.put (.gauge metric.id) value)
  | counter delta isCounter holds =>
      simp only [Table.apply, isCounter, holds, represents.writable, Bool.false_eq_true, if_false,
        bind, Except.bind, represents.upsert_counter, Counter.add?_toInt64]
      by_cases fits : Counter.Fits ((ledger.total metric.id).number + delta.toInt)
      · rw [Ledger.apply_counter isCounter holds fits, dif_pos fits]
        exact .stored (represents.put (.counter metric.id) ⟨_, fits⟩)
      · rw [Ledger.apply_overflow isCounter holds fits, dif_neg fits]
        exact .refused _
  | invalid failure invalid =>
      rw [Ledger.apply_invalid invalid, apply_invalid invalid]
      exact .refused failure

theorem mapM_row? (represents : table.Represents ledger) (series : Series) :
    (table.row? series.id series.kind.name).mapM Row.toMetric =
      (.ok ((ledger.lookup series).map fun reading => series.metric (series.reread reading)) :
        Except Failure (Option Metric)) := by
  rw [represents.rows]
  cases ledger.lookup series with
  | none => rfl
  | some reading =>
      rw [Option.map_some, Option.mapM_some, series.toMetric_row]
      rfl

theorem mapM_row?_of_isRegular (represents : table.Represents ledger) (series : Series)
    (regular : series.kind = .gauge → ledger.IsRegular) :
    (table.row? series.id series.kind.name).mapM Row.toMetric =
      (.ok ((ledger.lookup series).map series.metric) : Except Failure (Option Metric)) := by
  rw [represents.mapM_row?]
  cases found : ledger.lookup series with
  | none => rfl
  | some reading => rw [Option.map_some, Ledger.IsRegular.reread_eq regular found, Option.map_some]

theorem find_eq (represents : table.Represents ledger) (query : Metric) (key : String)
    (regular : query.kind = .gauge → ledger.IsRegular) :
    table.find query key = ledger.find query key := by
  rw [Table.find, Ledger.find]
  cases kind : query.kind with
  | gauge =>
      have row := represents.mapM_row?_of_isRegular (.gauge query.id) fun _ => regular kind
      exact congrArg (fun found => query.admitQuery >>= fun _ =>
        found >>= fun found => query.answer found key) row
  | counter =>
      have row := represents.mapM_row?_of_isRegular (.counter query.id)
        fun isGauge => nomatch isGauge
      exact congrArg (fun found => query.admitQuery >>= fun _ =>
        found >>= fun found => query.answer found key) row
  | unknown name =>
      simp only [Metric.admitQuery, kind]
      rfl

theorem exists_of_mem (represents : table.Represents ledger) {row : Row}
    (member : row ∈ table.rows) :
    ∃ series reading, ledger.lookup series = some reading ∧ row = series.row reading := by
  obtain ⟨series, sameId, sameKind⟩ := represents.keys row member
  have kept := represents.rows series
  have found : table.row? series.id series.kind.name = some row := by
    rw [← sameId, ← sameKind]
    exact row?_of_mem represents.nodup member
  rw [found] at kept
  obtain ⟨reading, holds, same⟩ := Option.map_eq_some_iff.mp kept.symm
  exact ⟨series, reading, holds, same.symm⟩

theorem mem_metrics (represents : table.Represents ledger) {metricOf : Row → Metric}
    (holds : ∀ row ∈ table.rows, row.toMetric = .ok (metricOf row)) (metric : Metric) :
    metric ∈ table.rows.map metricOf ↔ ∃ series reading, ledger.lookup series = some reading ∧
      series.metric (series.reread reading) = metric := by
  rw [List.mem_map]
  constructor
  · rintro ⟨row, member, rfl⟩
    obtain ⟨series, reading, found, rfl⟩ := represents.exists_of_mem member
    have same := (series.toMetric_row reading).symm.trans (holds _ member)
    exact ⟨series, reading, found, Except.ok.inj same⟩
  · rintro ⟨series, reading, found, rfl⟩
    have kept := represents.rows series
    rw [found] at kept
    have member : series.row reading ∈ table.rows := List.mem_of_find?_eq_some kept
    have same := (series.toMetric_row reading).symm.trans (holds _ member)
    exact ⟨_, member, (Except.ok.inj same).symm⟩

theorem nodup_metrics (represents : table.Represents ledger) {metricOf : Row → Metric}
    (holds : ∀ row ∈ table.rows, row.toMetric = .ok (metricOf row)) :
    (table.rows.map metricOf).Nodup := by
  refine represents.nodup.of_map.map_on ?_
  intro row member other otherMember same
  obtain ⟨series, reading, found, rfl⟩ := represents.exists_of_mem member
  obtain ⟨otherSeries, otherReading, otherFound, rfl⟩ := represents.exists_of_mem otherMember
  have metric := (series.toMetric_row reading).symm.trans (holds _ member)
  have otherMetric := (otherSeries.toMetric_row otherReading).symm.trans (holds _ otherMember)
  have sameMetric : series.metric (series.reread reading) =
      otherSeries.metric (otherSeries.reread otherReading) := by
    rw [Except.ok.inj metric, Except.ok.inj otherMetric, same]
  obtain rfl := Series.eq_of_metric_eq sameMetric
  rw [Option.some.inj (found.symm.trans otherFound)]

theorem exists_all (represents : table.Represents ledger) :
    ∃ metrics, table.all = .ok metrics ∧ metrics.Nodup ∧
      ∀ metric, metric ∈ metrics ↔ ∃ series reading, ledger.lookup series = some reading ∧
        series.metric (series.reread reading) = metric := by
  have eachRow : ∀ row, ∃ metric, row ∈ table.rows → row.toMetric = .ok metric := by
    intro row
    by_cases member : row ∈ table.rows
    · obtain ⟨series, reading, -, rfl⟩ := represents.exists_of_mem member
      exact ⟨_, fun _ => series.toMetric_row reading⟩
    · exact ⟨.counter row.id 0, fun present => absurd present member⟩
  choose metricOf holds using eachRow
  exact ⟨table.rows.map metricOf, mapM_toMetric holds, represents.nodup_metrics holds,
    represents.mem_metrics holds⟩

theorem all_eq (represents : table.Represents ledger) (regular : ledger.IsRegular) :
    ∃ metrics, table.all = .ok metrics ∧ (metrics : Multiset Metric) = ledger.listing := by
  obtain ⟨metrics, listed, nodup, mem_iff⟩ := represents.exists_all
  refine ⟨metrics, listed, Ledger.eq_listing nodup fun metric => (mem_iff metric).trans ?_⟩
  refine exists_congr fun series => exists_congr fun reading => and_congr_right fun found => ?_
  rw [Ledger.IsRegular.reread_eq (fun _ => regular) found]

end Represents

theorem save_eq_saveBy (table : Table) (metric : Metric) (key : String) :
    table.save metric key = metric.saveBy Table.apply key table := by
  unfold save Metric.saveBy
  cases metric.admit key with
  | error failure => rfl
  | ok admitted => cases table.apply metric <;> rfl

theorem simulation : Simulation backend Represents where
  save := by
    intro table ledger metric key represents
    show (table.save metric key).1 = _ ∧ (table.save metric key).2.Represents _
    rw [save_eq_saveBy]
    exact Simulation.saveBy represents (represents.apply metric) key
  find query key represents regular := represents.find_eq query key regular
  all represents regular := represents.all_eq regular

end Table

end Telemetry
