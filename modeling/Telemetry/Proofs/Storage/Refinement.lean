import Telemetry.Proofs.Storage.Ledger

namespace Telemetry

open Telemetry

/-! What it takes for a way to keep metrics to stand for a ledger, and that it then answers every
sequence of calls as the ledger does. Doubles that a column of a table cannot keep are left out: a
gauge is regular if it is a number and not the negative zero. -/

namespace Binary64

def IsRegular (number : Binary64) : Prop :=
  number.isNaN = false ∧ ¬ (number.isZero = true ∧ number.negative = true)

instance (number : Binary64) : Decidable number.IsRegular :=
  inferInstanceAs (Decidable (_ ∧ _))

theorem IsRegular.eq_zero {number : Binary64} (regular : number.IsRegular)
    (isZero : number.isZero = true) : number = zero := by
  have nonnegative : ¬ number.negative = true := fun negative => regular.2 ⟨isZero, negative⟩
  have small : number.bits.toNat < 0x8000000000000000 := by
    simpa [negative] using nonnegative
  have remainder : number.bits.toNat % 0x8000000000000000 = 0 := of_decide_eq_true isZero
  have none : number.bits.toNat = 0 := by
    rw [← remainder, Nat.mod_eq_of_lt small]
  cases number with
  | mk bits =>
      have : bits = 0 := UInt64.toNat_inj.mp none
      rw [this]
      rfl

end Binary64

/-- A metric that sets no gauge to a value out of the ordinary. -/
def Metric.IsRegular (metric : Metric) : Prop :=
  metric.kind = .gauge → ∀ value ∈ metric.value, value.IsRegular

instance (metric : Metric) : Decidable metric.IsRegular :=
  inferInstanceAs (Decidable (_ → _))

namespace Ledger

def IsRegular (ledger : Ledger) : Prop :=
  ∀ id value, ledger.lookup (.gauge id) = some value → value.IsRegular

theorem isRegular_empty : IsRegular ∅ := by
  intro id value found
  rw [Finmap.lookup_empty] at found
  cases found

theorem IsRegular.insert_gauge {ledger : Ledger} (regular : ledger.IsRegular) {id : String}
    {value : Binary64} (written : value.IsRegular) :
    IsRegular (ledger.insert (.gauge id) value) := by
  intro other read found
  by_cases same : other = id
  · subst same
    rw [Finmap.lookup_insert] at found
    rw [← Option.some.inj found]
    exact written
  · rw [Finmap.lookup_insert_of_ne _ (by simpa using same)] at found
    exact regular other read found

theorem IsRegular.insert_counter {ledger : Ledger} (regular : ledger.IsRegular) {id : String}
    {total : Counter.Total} : IsRegular (ledger.insert (.counter id) total) := by
  intro other read found
  rw [Finmap.lookup_insert_of_ne _ (by simp)] at found
  exact regular other read found

theorem IsRegular.save {ledger : Ledger} (regular : ledger.IsRegular) {metric : Metric}
    (written : metric.IsRegular) (key : String) : (ledger.save metric key).2.IsRegular := by
  cases metric.admission key with
  | refused failure refusal =>
      rw [Ledger.save, Metric.saveBy_refused refusal]
      exact regular
  | gauge value admitted isGauge holds =>
      rw [Ledger.save, Metric.saveBy_admitted admitted]
      simp only [apply, isGauge, holds]
      exact regular.insert_gauge (written isGauge value holds)
  | counter delta admitted isCounter holds =>
      rw [Ledger.save, Metric.saveBy_admitted admitted]
      simp only [apply, isCounter, holds]
      split
      · next refusal => exact regular
      · next stored =>
          split at stored
          · obtain rfl := Except.ok.inj stored
            exact regular.insert_counter
          · cases stored

theorem IsRegular.saveMany {metrics : List Metric} (written : ∀ metric ∈ metrics, metric.IsRegular)
    (key : String) {ledger : Ledger} (regular : ledger.IsRegular) :
    (ledger.saveMany key metrics).2.IsRegular := by
  induction metrics generalizing ledger with
  | nil => exact regular
  | cons metric metrics induction =>
      have kept := regular.save (written metric (by simp)) key
      unfold Ledger.saveMany
      split
      · next stored saved =>
          rw [saved] at kept
          exact induction (fun other member => written other (by simp [member])) kept
      · next failure stored saved =>
          rw [saved] at kept
          exact kept

end Ledger

inductive StorageCall where
  | save (metric : Metric) (key : String)
  | saveMany (metrics : List Metric) (key : String)
  | find (query : Metric) (key : String)
  | all
  deriving DecidableEq

/-- What a call is answered. A listing counts as one whatever its order. -/
inductive StorageReply where
  | saved (result : Except Failure Unit)
  | found (result : Except Failure Metric)
  | listed (result : Except Failure (Multiset Metric))

namespace StorageCall

def written : StorageCall → List Metric
  | .save metric _ => [metric]
  | .saveMany metrics _ => metrics
  | .find _ _ => []
  | .all => []

def IsRegular (call : StorageCall) : Prop := ∀ metric ∈ call.written, metric.IsRegular

instance (call : StorageCall) : Decidable call.IsRegular :=
  inferInstanceAs (Decidable (∀ metric ∈ call.written, metric.IsRegular))

end StorageCall

namespace Backend

variable {State : Type}

def reply (backend : Backend State) : StorageCall → State → StorageReply × State
  | .save metric key, state => (backend.save metric key state).map .saved id
  | .saveMany metrics key, state => (backend.saveMany key metrics state).map .saved id
  | .find query key, state => (.found (backend.find query key state), state)
  | .all, state => (.listed ((backend.all state).map Multiset.ofList), state)

def replies (backend : Backend State) : List StorageCall → State → List StorageReply
  | [], _ => []
  | call :: calls, state =>
    let (reply, state) := backend.reply call state
    reply :: backend.replies calls state

end Backend

namespace Ledger

def reply (ledger : Ledger) : StorageCall → StorageReply × Ledger
  | .save metric key => (ledger.save metric key).map .saved id
  | .saveMany metrics key => (ledger.saveMany key metrics).map .saved id
  | .find query key => (.found (ledger.find query key), ledger)
  | .all => (.listed (.ok ledger.listing), ledger)

def replies (ledger : Ledger) : List StorageCall → List StorageReply
  | [] => []
  | call :: calls =>
    let (reply, ledger) := ledger.reply call
    reply :: ledger.replies calls

theorem IsRegular.reply {ledger : Ledger} (regular : ledger.IsRegular) {call : StorageCall}
    (written : call.IsRegular) : (ledger.reply call).2.IsRegular := by
  cases call with
  | save metric key => exact regular.save (written metric (by simp [StorageCall.written])) key
  | saveMany metrics key => exact regular.saveMany written key
  | find query key => exact regular
  | all => exact regular

end Ledger

/-- What an attempt to change the state comes to on both sides: it goes through on both, or it is
refused on both in the same words. -/
inductive Agreement {State : Type} (Represents : State → Ledger → Prop) :
    Except Failure State → Except Failure Ledger → Prop where
  | stored {state : State} {ledger : Ledger} (represents : Represents state ledger) :
      Agreement Represents (.ok state) (.ok ledger)
  | refused (failure : Failure) : Agreement Represents (.error failure) (.error failure)

/-- States stand for ledgers, and every call keeps it so. A write does so whatever it carries; what
is read back agrees as long as the gauges among it are regular. -/
structure Simulation {State : Type} (backend : Backend State)
    (Represents : State → Ledger → Prop) : Prop where
  save : ∀ {state ledger} metric key, Represents state ledger →
    (backend.save metric key state).1 = (ledger.save metric key).1 ∧
      Represents (backend.save metric key state).2 (ledger.save metric key).2
  find : ∀ {state ledger} query key, Represents state ledger →
    (query.kind = .gauge → ledger.IsRegular) →
    backend.find query key state = ledger.find query key
  all : ∀ {state ledger}, Represents state ledger → ledger.IsRegular →
    ∃ metrics, backend.all state = .ok metrics ∧ (metrics : Multiset Metric) = ledger.listing

namespace Simulation

variable {State : Type} {backend : Backend State} {Represents : State → Ledger → Prop}

theorem saveBy {apply : State → Metric → Except Failure State}
    {state : State} {ledger : Ledger} {metric : Metric} (represents : Represents state ledger)
    (agreement : Agreement Represents (apply state metric) (ledger.apply metric)) (key : String) :
    (metric.saveBy apply key state).1 = (ledger.save metric key).1 ∧
      Represents (metric.saveBy apply key state).2 (ledger.save metric key).2 := by
  rw [Ledger.save]
  cases admission : metric.admit key with
  | error failure =>
      rw [Metric.saveBy_refused admission, Metric.saveBy_refused admission]
      exact ⟨rfl, represents⟩
  | ok admitted =>
      rw [Metric.saveBy_admitted admission, Metric.saveBy_admitted admission]
      generalize apply state metric = ownResult at agreement ⊢
      generalize ledger.apply metric = result at agreement ⊢
      cases agreement with
      | stored stillRepresents => exact ⟨rfl, stillRepresents⟩
      | refused failure => exact ⟨rfl, represents⟩

theorem saveMany (simulation : Simulation backend Represents) (metrics : List Metric)
    (key : String) {state : State} {ledger : Ledger} (represents : Represents state ledger) :
    (backend.saveMany key metrics state).1 = (ledger.saveMany key metrics).1 ∧
      Represents (backend.saveMany key metrics state).2 (ledger.saveMany key metrics).2 := by
  induction metrics generalizing state ledger with
  | nil => exact ⟨rfl, represents⟩
  | cons metric metrics induction =>
      obtain ⟨sameResult, stillRepresents⟩ := simulation.save metric key represents
      rw [Backend.saveMany, Ledger.saveMany]
      revert sameResult stillRepresents
      obtain ⟨result, nextState⟩ := backend.save metric key state
      obtain ⟨answer, nextLedger⟩ := ledger.save metric key
      rintro rfl stillRepresents
      cases result with
      | error failure => exact ⟨rfl, stillRepresents⟩
      | ok stored => exact induction stillRepresents

theorem reply (simulation : Simulation backend Represents) (call : StorageCall)
    {state : State} {ledger : Ledger} (represents : Represents state ledger)
    (regular : ledger.IsRegular) :
    (backend.reply call state).1 = (ledger.reply call).1 ∧
      Represents (backend.reply call state).2 (ledger.reply call).2 := by
  cases call with
  | save metric key =>
      obtain ⟨sameResult, stillRepresents⟩ := simulation.save metric key represents
      exact ⟨congrArg StorageReply.saved sameResult, stillRepresents⟩
  | saveMany metrics key =>
      obtain ⟨sameResult, stillRepresents⟩ := simulation.saveMany metrics key represents
      exact ⟨congrArg StorageReply.saved sameResult, stillRepresents⟩
  | find query key =>
      exact ⟨congrArg StorageReply.found (simulation.find query key represents fun _ => regular),
        represents⟩
  | all =>
      obtain ⟨metrics, listed, sameListing⟩ := simulation.all represents regular
      refine ⟨?_, represents⟩
      rw [Backend.reply, Ledger.reply, listed, ← sameListing]
      rfl

theorem replies (simulation : Simulation backend Represents) (calls : List StorageCall)
    (regularCalls : ∀ call ∈ calls, call.IsRegular) {state : State} {ledger : Ledger}
    (represents : Represents state ledger) (regular : ledger.IsRegular) :
    backend.replies calls state = ledger.replies calls := by
  -- Reading needs a regular ledger, so regularity goes along with the representation.
  induction calls generalizing state ledger with
  | nil => rfl
  | cons call calls induction =>
      obtain ⟨sameReply, stillRepresents⟩ := simulation.reply call represents regular
      have stillRegular := regular.reply (regularCalls call (by simp))
      have rest := induction (fun other member => regularCalls other (by simp [member]))
        stillRepresents stillRegular
      rw [Backend.replies, Ledger.replies]
      exact congrArg₂ List.cons sameReply rest

end Simulation

end Telemetry
