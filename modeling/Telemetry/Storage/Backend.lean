import Telemetry.Signature

namespace Telemetry

open Telemetry

/-! The contract of storage. Gauges keep the last value written, counters add up the deltas written;
metrics are looked up by kind and id and come out freshly signed. -/

/-- A way to keep metrics in a state of some type. -/
structure Backend (State : Type) where
  name : State → String
  save : Metric → String → State → Except Failure Unit × State
  find : Metric → String → State → Except Failure Metric
  all : State → Except Failure (List Metric)
  check : State → Except Failure Unit

namespace Backend

variable {State : Type}

/-- Saves metrics in order up to the first that is refused; those before it stay saved. -/
def saveMany (backend : Backend State) (key : String) :
    List Metric → State → Except Failure Unit × State
  | [], state => (.ok (), state)
  | metric :: metrics, state =>
    match backend.save metric key state with
    | (.ok (), state) => backend.saveMany key metrics state
    | (.error failure, state) => (.error failure, state)

end Backend

/-- Refuses a write before it touches any state. -/
def Metric.admit (metric : Metric) (key : String) : Except Failure Unit := do
  metric.validate
  Signature.verify metric key

/-- Refuses a query for a kind that nothing is kept under. -/
def Metric.admitQuery (query : Metric) : Except Failure Unit :=
  match query.kind with
  | .unknown kind => .error (.notFound (.unknownKind query.id kind))
  | _ => .ok ()

def Metric.missing (query : Metric) : Failure :=
  .notFound (.nothingSaved query.kind.name query.id)

def Metric.answer (query : Metric) (found : Option Metric) (key : String) :
    Except Failure Metric :=
  match found with
  | some metric => Signature.attach metric key
  | none => .error query.missing

end Telemetry
