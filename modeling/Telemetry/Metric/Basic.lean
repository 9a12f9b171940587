import Telemetry.Decimal.Written
import Telemetry.Failure

namespace Telemetry

/-! Metrics: gauges, whose last value counts, and counters, whose deltas add up. A metric of another
kind is kept as it came, so that storage can refuse it by name. -/

inductive Kind where
  | gauge
  | counter
  | unknown (name : String)
  deriving DecidableEq, Repr

namespace Kind

def name : Kind → String
  | .gauge => "gauge"
  | .counter => "counter"
  | .unknown name => name

def ofName (name : String) : Kind :=
  if name = "gauge" then .gauge
  else if name = "counter" then .counter
  else .unknown name

def isKnown : Kind → Bool
  | .unknown _ => false
  | _ => true

@[simp] theorem name_ofName (name : String) : (ofName name).name = name := by
  unfold ofName
  split
  · next h => exact h.symm
  · split
    · next h => exact h.symm
    · rfl

def diagnostic : Kind → String
  | .gauge => "Gauge"
  | .counter => "Counter"
  | .unknown name => "Unknown(" ++ Text.quoted name ++ ")"

end Kind

/-- One metric as it travels between agents, servers and storage. -/
structure Metric where
  id : String
  kind : Kind
  /-- An increment when written, the running sum when read. -/
  delta : Option Int64
  value : Option Binary64
  /-- The hexadecimal signature over the canonical form. -/
  hash : Option String
  deriving DecidableEq, Repr

namespace Metric

def gauge (id : String) (value : Binary64) : Metric := ⟨id, .gauge, none, some value, none⟩

def counter (id : String) (delta : Int64) : Metric := ⟨id, .counter, some delta, none, none⟩

/-- A metric that only says what to look for. -/
def query (id : String) (kind : Kind) : Metric := ⟨id, kind, none, none, none⟩

/-- The signature; an empty one counts as absent. -/
def signature (metric : Metric) : Option String := metric.hash.filter (· ≠ "")

/-- Checks that the kind is known and that the field it needs is there. -/
def validate (metric : Metric) : Except Failure Unit :=
  match metric.kind with
  | .gauge =>
    if metric.value.isSome then .ok () else .error (.badRequest (.missingValue metric.id))
  | .counter =>
    if metric.delta.isSome then .ok () else .error (.badRequest (.missingDelta metric.id))
  | .unknown kind => .error (.notImplemented (.unknownKind kind))

/-- The text that a signature covers: a gauge with six places behind the point, a counter as an
integer. -/
def canonical (metric : Metric) : Except Failure String :=
  match metric.kind, metric.value, metric.delta with
  | .gauge, some value, _ => .ok (metric.id ++ ":gauge:" ++ Decimal.sixPlaces value)
  | .counter, _, some delta => .ok (metric.id ++ ":counter:" ++ Decimal.intText delta.toInt)
  | _, _, _ => do
    metric.validate
    .error (.badRequest (.noCanonicalForm metric.id))

def storageKey (metric : Metric) : String := metric.kind.name ++ ":" ++ metric.id

def valueText (metric : Metric) : Option String :=
  match metric.kind with
  | .gauge => metric.value.map Decimal.plain
  | .counter => metric.delta.map fun delta => Decimal.intText delta.toInt
  | .unknown _ => none

/-- One line of a listing, without its end. -/
def line (metric : Metric) : String :=
  metric.id ++ ": " ++ metric.valueText.getD "<empty>"

end Metric

end Telemetry
