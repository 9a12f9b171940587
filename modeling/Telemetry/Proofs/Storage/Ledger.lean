import Mathlib.Data.Finmap
import Telemetry.Metric.Sum
import Telemetry.Proofs.Storage.Admission

namespace Telemetry

open Telemetry

/-! The reference for storage: one map from series to what they hold. A gauge is overwritten, the
deltas of a counter add up in the integers, and what is refused changes nothing. -/

/-- What a metric belongs to. A gauge and a counter of one name are two series. -/
inductive Series where
  | gauge (id : String)
  | counter (id : String)
  deriving DecidableEq, Repr

namespace Counter

@[ext] structure Total where
  number : Int
  fits : Fits number
  deriving DecidableEq

def Total.zero : Total := ⟨0, by decide⟩

def Total.toInt64 (total : Total) : Int64 := Int64.ofInt total.number

@[simp] theorem Total.toInt_toInt64 (total : Total) : total.toInt64.toInt = total.number :=
  Int64.toInt_ofInt_of_le total.fits.1 total.fits.2

/-- Two sums add up as the integers do. -/
theorem add?_toInt64 (total : Total) (delta : Int64) :
    add? total.toInt64 delta =
      if fits : Fits (total.number + delta.toInt) then some (Total.mk _ fits).toInt64
      else none := by
  unfold add?
  rw [Total.toInt_toInt64]
  split <;> rfl

end Counter

namespace Series

def kind : Series → Kind
  | .gauge _ => .gauge
  | .counter _ => .counter

def id : Series → String
  | .gauge id => id
  | .counter id => id

theorem ext {series other : Series} (sameId : series.id = other.id)
    (sameKind : series.kind.name = other.kind.name) : series = other := by
  cases series with
  | gauge name =>
      cases other with
      | gauge otherName => exact congrArg gauge sameId
      | counter otherName => exact absurd sameKind (by simp [kind, Kind.name])
  | counter name =>
      cases other with
      | gauge otherName => exact absurd sameKind (by simp [kind, Kind.name])
      | counter otherName => exact congrArg counter sameId

/-- What a series holds: the last value of a gauge, the sum of a counter. -/
abbrev Reading : Series → Type
  | .gauge _ => Binary64
  | .counter _ => Counter.Total

def metric : (series : Series) → series.Reading → Metric
  | .gauge id, value => .gauge id value
  | .counter id, total => .counter id total.toInt64

theorem eq_of_metric_eq {series other : Series} {reading : series.Reading}
    {otherReading : other.Reading}
    (same : series.metric reading = other.metric otherReading) : series = other := by
  cases series <;> cases other <;>
    simp_all [metric, Metric.gauge, Metric.counter]

end Series

abbrev Ledger := Finmap Series.Reading

namespace Ledger

/-- The sum of a counter; one that is not there counts as zero. -/
def total (ledger : Ledger) (id : String) : Counter.Total :=
  (ledger.lookup (.counter id)).getD Counter.Total.zero

def sum (ledger : Ledger) (id : String) : Int := (ledger.total id).number

def apply (ledger : Ledger) (metric : Metric) : Except Failure Ledger :=
  match metric.kind, metric.value, metric.delta with
  | .gauge, some value, _ => .ok (ledger.insert (.gauge metric.id) value)
  | .counter, _, some delta =>
    if fits : Counter.Fits (ledger.sum metric.id + delta.toInt) then
      .ok (ledger.insert (.counter metric.id) ⟨_, fits⟩)
    else .error (.badRequest (.overflow metric.id))
  | _, _, _ => metric.validate.map fun _ => ledger

section

variable {ledger : Ledger} {metric : Metric}

theorem apply_gauge {value : Binary64} (isGauge : metric.kind = .gauge)
    (holds : metric.value = some value) :
    ledger.apply metric = .ok (ledger.insert (.gauge metric.id) value) := by
  simp only [apply, isGauge, holds]

theorem apply_counter {delta : Int64} (isCounter : metric.kind = .counter)
    (holds : metric.delta = some delta)
    (fits : Counter.Fits (ledger.sum metric.id + delta.toInt)) :
    ledger.apply metric = .ok (ledger.insert (.counter metric.id) ⟨_, fits⟩) := by
  simp only [apply, isCounter, holds, dif_pos fits]

theorem apply_overflow {delta : Int64} (isCounter : metric.kind = .counter)
    (holds : metric.delta = some delta)
    (exceeds : ¬ Counter.Fits (ledger.sum metric.id + delta.toInt)) :
    ledger.apply metric = .error (.badRequest (.overflow metric.id)) := by
  simp only [apply, isCounter, holds, dif_neg exceeds]

theorem apply_invalid {failure : Failure} (invalid : metric.validate = .error failure) :
    ledger.apply metric = .error failure :=
  Metric.change_invalid invalid _ _ _

end

def save (metric : Metric) (key : String) (ledger : Ledger) : Except Failure Unit × Ledger :=
  metric.saveBy apply key ledger

def saveMany (key : String) : List Metric → Ledger → Except Failure Unit × Ledger
  | [], ledger => (.ok (), ledger)
  | metric :: metrics, ledger =>
    match ledger.save metric key with
    | (.ok (), ledger) => ledger.saveMany key metrics
    | (.error failure, ledger) => (.error failure, ledger)

def metric? (ledger : Ledger) (kind : Kind) (id : String) : Option Metric :=
  match kind with
  | .gauge => (ledger.lookup (.gauge id)).map (Series.gauge id).metric
  | .counter => (ledger.lookup (.counter id)).map (Series.counter id).metric
  | .unknown _ => none

def find (ledger : Ledger) (query : Metric) (key : String) : Except Failure Metric := do
  query.admitQuery
  query.answer (ledger.metric? query.kind query.id) key

def listing (ledger : Ledger) : Multiset Metric :=
  ledger.entries.map fun entry => entry.1.metric entry.2

theorem mem_listing {ledger : Ledger} {metric : Metric} :
    metric ∈ ledger.listing ↔
      ∃ series reading, ledger.lookup series = some reading ∧ series.metric reading = metric := by
  simp only [listing, Multiset.mem_map, Sigma.exists]
  constructor
  · rintro ⟨series, reading, member, rfl⟩
    exact ⟨series, reading, Finmap.lookup_eq_some_iff.mpr member, rfl⟩
  · rintro ⟨series, reading, found, rfl⟩
    exact ⟨series, reading, Finmap.lookup_eq_some_iff.mp found, rfl⟩

theorem listing_nodup (ledger : Ledger) : ledger.listing.Nodup := by
  refine Multiset.Nodup.map_on ?_ ledger.nodupKeys.nodup
  rintro ⟨series, reading⟩ member ⟨other, otherReading⟩ otherMember same
  obtain rfl := Series.eq_of_metric_eq same
  have found := Finmap.lookup_eq_some_iff.mpr member
  have otherFound := Finmap.lookup_eq_some_iff.mpr otherMember
  have equal : (some reading : Option series.Reading) = some otherReading :=
    found.symm.trans otherFound
  rw [Option.some.inj equal]

theorem eq_listing {ledger : Ledger} {metrics : List Metric} (nodup : metrics.Nodup)
    (mem_iff : ∀ metric, metric ∈ metrics ↔
      ∃ series reading, ledger.lookup series = some reading ∧ series.metric reading = metric) :
    (metrics : Multiset Metric) = ledger.listing := by
  rw [Multiset.Nodup.ext (Multiset.coe_nodup.mpr nodup) ledger.listing_nodup]
  intro metric
  rw [Multiset.mem_coe, mem_iff, mem_listing]

end Ledger

end Telemetry
