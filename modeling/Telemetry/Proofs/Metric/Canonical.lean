import Mathlib.Data.List.Basic
import Telemetry.Proofs.Decimal.Written
import Telemetry.Proofs.Storage.Admission

namespace Telemetry

open Telemetry

/-! The text that a signature covers tells a metric's kind, its id and its figure. An id may hold
colons itself, but the two last colons of the text are always those around the kind. -/

/-- What stands behind the last of some marks is told by the text as a whole. -/
theorem Text.eq_of_append_mark {mark : Char} {before after otherBefore otherAfter : List Char}
    (plain : mark ∉ after) (otherPlain : mark ∉ otherAfter)
    (same : before ++ mark :: after = otherBefore ++ mark :: otherAfter) :
    before = otherBefore ∧ after = otherAfter := by
  rcases List.append_eq_append_iff.mp same with ⟨between, rfl, rest⟩ | ⟨between, rfl, rest⟩
  · cases between with
    | nil => exact ⟨(List.append_nil before).symm, (List.cons.inj rest).2⟩
    | cons c between =>
        rw [List.cons_append, List.cons.injEq] at rest
        exact absurd (rest.2 ▸ List.mem_append_right between List.mem_cons_self) plain
  · cases between with
    | nil => exact ⟨List.append_nil otherBefore, (List.cons.inj rest).2.symm⟩
    | cons c between =>
        rw [List.cons_append, List.cons.injEq] at rest
        exact absurd (rest.2 ▸ List.mem_append_right between List.mem_cons_self) otherPlain

namespace Metric

/-- Two metrics that a signature does not tell apart: gauges count as the same where their values
have the same six places. -/
structure SignedAlike (metric other : Metric) : Prop where
  kind : metric.kind = other.kind
  id : metric.id = other.id
  delta : metric.kind = .counter → metric.delta = other.delta
  places : metric.kind = .gauge →
    metric.value.map Decimal.sixPlaces = other.value.map Decimal.sixPlaces

/-- What a metric's canonical text is made of. -/
structure Spelled (metric : Metric) (figure : String) : Prop where
  canonical : metric.canonical =
    .ok (metric.id ++ ":" ++ metric.kind.name ++ ":" ++ figure)
  plain : ':' ∉ figure.toList
  known : metric.kind = .gauge ∨ metric.kind = .counter
  gauge : metric.kind = .gauge → metric.value.map Decimal.sixPlaces = some figure
  counter : metric.kind = .counter →
    metric.delta.map (fun delta => Decimal.intText delta.toInt) = some figure

theorem exists_spelled {metric : Metric} (valid : metric.validate = .ok ()) :
    ∃ figure, metric.Spelled figure := by
  cases metric.content with
  | gauge value isGauge holds =>
      refine ⟨Decimal.sixPlaces value, ?_, ?_, .inl isGauge, fun _ => ?_, fun isCounter => ?_⟩
      · have marks : ":" ++ Kind.gauge.name ++ ":" = ":gauge:" := rfl
        simp only [canonical, isGauge, holds, ← marks, String.append_assoc]
      · rw [Decimal.sixPlaces, String.toList_ofList]
        exact Decimal.colon_notMem_sixPlacesChars value
      · rw [holds]
        rfl
      · rw [isGauge] at isCounter
        cases isCounter
  | counter delta isCounter holds =>
      refine ⟨Decimal.intText delta.toInt, ?_, ?_, .inr isCounter, fun isGauge => ?_, fun _ => ?_⟩
      · have marks : ":" ++ Kind.counter.name ++ ":" = ":counter:" := rfl
        simp only [canonical, isCounter, holds, ← marks, String.append_assoc]
      · rw [Decimal.intText, String.toList_ofList]
        exact Decimal.colon_notMem_ofInt delta.toInt
      · rw [isCounter] at isGauge
        cases isGauge
      · rw [holds]
        rfl
  | invalid failure invalid =>
      rw [invalid] at valid
      cases valid

namespace Spelled

variable {metric other : Metric} {figure otherFigure : String}

theorem colon_notMem_name (spelled : metric.Spelled figure) :
    ':' ∉ metric.kind.name.toList := by
  rcases spelled.known with isGauge | isCounter
  · rw [isGauge]
    decide
  · rw [isCounter]
    decide

theorem kind_eq_of_name_eq (spelled : metric.Spelled figure)
    (otherSpelled : other.Spelled otherFigure) (same : metric.kind.name = other.kind.name) :
    metric.kind = other.kind := by
  rcases spelled.known with kind | kind <;> rcases otherSpelled.known with otherKind | otherKind <;>
    rw [kind, otherKind] at same ⊢
  · exact absurd same (by decide)
  · exact absurd same (by decide)

/-- The last colon is that in front of the figure, and of those before it the last is that in front
of the kind. -/
theorem parts_eq (spelled : metric.Spelled figure) (otherSpelled : other.Spelled otherFigure)
    (same : metric.canonical = other.canonical) :
    metric.id = other.id ∧ metric.kind = other.kind ∧ figure = otherFigure := by
  rw [spelled.canonical, otherSpelled.canonical, Except.ok.injEq, ← String.toList_inj] at same
  simp only [String.toList_append, List.append_assoc] at same
  have front : (metric.id.toList ++ ':' :: metric.kind.name.toList) ++ ':' :: figure.toList =
      (other.id.toList ++ ':' :: other.kind.name.toList) ++ ':' :: otherFigure.toList := by
    simpa using same
  obtain ⟨sameFront, sameFigure⟩ :=
    Text.eq_of_append_mark spelled.plain otherSpelled.plain front
  obtain ⟨sameId, sameName⟩ := Text.eq_of_append_mark spelled.colon_notMem_name
    otherSpelled.colon_notMem_name sameFront
  exact ⟨String.toList_inj.mp sameId,
    spelled.kind_eq_of_name_eq otherSpelled (String.toList_inj.mp sameName),
    String.toList_inj.mp sameFigure⟩

theorem delta_eq (spelled : metric.Spelled figure) (otherSpelled : other.Spelled figure)
    (isCounter : metric.kind = .counter) (otherIsCounter : other.kind = .counter) :
    metric.delta = other.delta := by
  have textInjective : Function.Injective fun delta : Int64 => Decimal.intText delta.toInt :=
    fun delta otherDelta same => Int64.toInt_inj.mp (Decimal.intText_injective same)
  exact Option.map_injective textInjective
    ((spelled.counter isCounter).trans (otherSpelled.counter otherIsCounter).symm)

end Spelled

theorem canonical_eq_iff {metric other : Metric} (valid : metric.validate = .ok ())
    (otherValid : other.validate = .ok ()) :
    metric.canonical = other.canonical ↔ metric.SignedAlike other := by
  obtain ⟨figure, spelled⟩ := exists_spelled valid
  obtain ⟨otherFigure, otherSpelled⟩ := exists_spelled otherValid
  constructor
  · intro same
    obtain ⟨sameId, sameKind, rfl⟩ := spelled.parts_eq otherSpelled same
    refine ⟨sameKind, sameId, fun isCounter => ?_, fun isGauge => ?_⟩
    · exact spelled.delta_eq otherSpelled isCounter (sameKind ▸ isCounter)
    · exact (spelled.gauge isGauge).trans (otherSpelled.gauge (sameKind ▸ isGauge)).symm
  · intro alike
    have sameFigure : some figure = some otherFigure := by
      rcases spelled.known with isGauge | isCounter
      · rw [← spelled.gauge isGauge, alike.places isGauge,
          otherSpelled.gauge (alike.kind ▸ isGauge)]
      · rw [← spelled.counter isCounter, alike.delta isCounter,
          otherSpelled.counter (alike.kind ▸ isCounter)]
    rw [spelled.canonical, otherSpelled.canonical, alike.id, alike.kind,
      Option.some.inj sameFigure]

end Metric

end Telemetry
