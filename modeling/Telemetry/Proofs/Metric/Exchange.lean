import Telemetry.Proofs.Json.Nearby
import Telemetry.Proofs.Metric.Reception

namespace Telemetry

open Telemetry Json

/-! A metric that has been through its JSON form. Everything but the value comes back as it was; the
value comes back as a double near to it, and as itself where its numeral is short. -/

namespace Metric

/-- What the JSON form has room for: a kind that came from a name, and a value that is a number. -/
structure IsExpressible (metric : Metric) : Prop where
  kind : ∃ name, metric.kind = Kind.ofName name
  finite : ∀ value, metric.value = some value → value.isFinite = true

structure Returns (received sent : Metric) : Prop where
  others : { received with value := none } = { sent with value := none }
  near : Option.Rel Binary64.IsNear received.value sent.value
  short : (∀ value, sent.value = some value → IsShort (spelled value)) → received = sent
  expressible : received.IsExpressible

variable {metric : Metric}

namespace IsExpressible

theorem ofName_name (expressible : metric.IsExpressible) :
    Kind.ofName metric.kind.name = metric.kind := by
  obtain ⟨name, isKind⟩ := expressible.kind
  rw [isKind, Kind.name_ofName]

theorem received_eq (expressible : metric.IsExpressible) :
    metric.received = { metric with value := metric.value.map reread } := by
  have values : metric.value.bind reread? = metric.value.map reread := by
    cases present : metric.value with
    | none => rfl
    | some value => exact reread?_of_isFinite (expressible.finite value present)
  rw [received, expressible.ofName_name, values]

theorem received (expressible : metric.IsExpressible) : metric.received.IsExpressible := by
  rw [expressible.received_eq]
  refine ⟨expressible.kind, fun value present => ?_⟩
  obtain ⟨original, held, rfl⟩ := Option.map_eq_some_iff.mp present
  exact isFinite_reread (expressible.finite original held)

theorem rel_isNear (expressible : metric.IsExpressible) :
    Option.Rel Binary64.IsNear (metric.value.map reread) metric.value := by
  cases present : metric.value with
  | none => exact .none
  | some value => exact .some (isNear_reread (expressible.finite value present))

theorem map_reread_of_isShort (expressible : metric.IsExpressible)
    (short : ∀ value, metric.value = some value → IsShort (spelled value)) :
    metric.value.map reread = metric.value := by
  cases present : metric.value with
  | none => rfl
  | some value =>
      have same : reread value = value :=
        reread_of_isShort (expressible.finite value present) (short value present)
      exact congrArg some same

theorem returns_received (expressible : metric.IsExpressible) : metric.received.Returns metric := by
  refine ⟨?_, ?_, fun short => ?_, expressible.received⟩
  · rw [expressible.received_eq]
  · rw [expressible.received_eq]
    exact expressible.rel_isNear
  · rw [expressible.received_eq, expressible.map_reread_of_isShort short]

end IsExpressible

theorem returns_of_wire {sent : List Metric} (each : ∀ metric ∈ sent, metric.IsExpressible) :
    ∃ received, listOfWire (listToWire sent) = .ok received ∧
      List.Forall₂ (fun received sent => ofWire sent.toWire = .ok received ∧ received.Returns sent)
        received sent := by
  refine ⟨sent.map received, listOfWire_listToWire sent, ?_⟩
  refine List.forall₂_map_left_iff.mpr (List.forall₂_same.mpr fun metric member => ?_)
  exact ⟨ofWire_toWire metric, (each metric member).returns_received⟩

def ofEachKind : List Metric :=
  [.counter "c" 5, .gauge "g" Signature.half, ⟨"é", .ofName "histogram", none, none, some "h"⟩]

theorem returns_of_wire_ofEachKind : (∀ metric ∈ ofEachKind, metric.IsExpressible) ∧
    listOfWire (listToWire ofEachKind) = .ok ofEachKind := by
  have isFinite : Signature.half.isFinite = true := by decide
  have isShort : IsShort (spelled Signature.half) := by decide +kernel
  have each : ∀ metric ∈ ofEachKind, metric.IsExpressible :=
    List.forall_mem_cons.mpr ⟨⟨⟨"counter", rfl⟩, fun _ present => nomatch present⟩,
      List.forall_mem_cons.mpr ⟨⟨⟨"gauge", rfl⟩,
          fun _ present => Option.some.inj present ▸ isFinite⟩,
        List.forall_mem_singleton.mpr ⟨⟨"histogram", rfl⟩, fun _ present => nomatch present⟩⟩⟩
  obtain ⟨received, read, returned⟩ := returns_of_wire each
  refine ⟨each, ?_⟩
  rcases returned with _ | ⟨⟨-, first⟩, _ | ⟨⟨-, second⟩, _ | ⟨⟨-, third⟩, _ | _⟩⟩⟩
  have firstSame := first.short fun _ present => nomatch present
  have secondSame := second.short fun _ present => Option.some.inj present ▸ isShort
  have thirdSame := third.short fun _ present => nomatch present
  rw [read, firstSame, secondSame, thirdSame]
  rfl

theorem not_forall_ofWire_toWire :
    ¬ ∀ metric : Metric, metric.IsExpressible → ofWire metric.toWire = .ok metric := by
  intro lossless
  have expressible : (gauge "g" Signature.greatestOdd).IsExpressible := by
    refine ⟨⟨"gauge", rfl⟩, fun value present => ?_⟩
    obtain rfl := Option.some.inj present
    decide
  have read := lossless _ expressible
  rw [ofWire_toWire, Signature.received_greatestOdd] at read
  exact absurd (Except.ok.inj read) (by decide)

end Metric

end Telemetry
