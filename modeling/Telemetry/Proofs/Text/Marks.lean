import Mathlib.Data.List.Infix
import Telemetry.Proofs.Text.Blank

namespace Telemetry.Text

open Telemetry

/-! Marks in a text: what stands in front of the first, and what is left without those at the
start. -/

theorem stripStart?_eq_none_iff {start text : List Char} :
    stripStart? start text = none ↔ ¬ start <+: text := by
  rw [Option.eq_none_iff_forall_ne_some]
  constructor
  · rintro nothing ⟨rest, shape⟩
    exact nothing rest (stripStart?_eq_some_iff.mpr shape.symm)
  · intro other rest strips
    exact other ⟨rest, (stripStart?_eq_some_iff.mp strips).symm⟩

/-- The front of a text, as far as a mark that does not occur earlier. -/
structure IsFront (mark text front : List Char) : Prop where
  occurs : front ++ mark <+: text
  first : ∀ {other}, other ++ mark <+: text → front.length ≤ other.length

theorem IsFront.unique {mark text front other : List Char} (isFront : IsFront mark text front)
    (alsoFront : IsFront mark text other) : front = other := by
  have sameLength : front.length = other.length :=
    Nat.le_antisymm (isFront.first alsoFront.occurs) (alsoFront.first isFront.occurs)
  obtain ⟨behind, shape⟩ := isFront.occurs
  obtain ⟨otherBehind, otherShape⟩ := alsoFront.occurs
  rw [List.append_assoc] at shape otherShape
  exact (List.append_inj (shape.trans otherShape.symm) sameLength).1

theorem isFront_nil {mark text : List Char} (starts : mark <+: text) : IsFront mark text [] where
  occurs := starts
  first _ := Nat.zero_le _

theorem isFront_cons {mark text front : List Char} {c : Char} (other : ¬ mark <+: c :: text) :
    IsFront mark (c :: text) (c :: front) ↔ IsFront mark text front := by
  constructor
  · intro isFront
    refine ⟨(List.cons_prefix_cons.mp isFront.occurs).2, fun {early} occurs => ?_⟩
    have shifted : (c :: early) ++ mark <+: c :: text := List.cons_prefix_cons.mpr ⟨rfl, occurs⟩
    exact Nat.le_of_succ_le_succ (isFront.first shifted)
  · intro isFront
    refine ⟨List.cons_prefix_cons.mpr ⟨rfl, isFront.occurs⟩, fun {early} occurs => ?_⟩
    cases early with
    | nil => exact absurd occurs other
    | cons d early => exact Nat.succ_le_succ (isFront.first (List.cons_prefix_cons.mp occurs).2)

theorem before?_of_start {mark text : List Char} (starts : mark <+: text) :
    before? mark text = some [] := by
  cases text with
  | nil =>
      obtain rfl := List.prefix_nil.mp starts
      rfl
  | cons c text =>
      have strips : (stripStart? mark (c :: text)).isSome = true := by
        rw [Option.isSome_iff_ne_none, ne_eq, stripStart?_eq_none_iff, not_not]
        exact starts
      exact if_pos strips

theorem before?_cons {mark text : List Char} {c : Char} (other : ¬ mark <+: c :: text) :
    before? mark (c :: text) = (before? mark text).map (c :: ·) := by
  rw [before?, stripStart?_eq_none_iff.mpr other]
  rfl

theorem before?_eq_some_iff {mark text front : List Char} :
    before? mark text = some front ↔ IsFront mark text front := by
  have atStart {text front : List Char} (starts : mark <+: text) :
      before? mark text = some front ↔ IsFront mark text front := by
    rw [before?_of_start starts]
    constructor
    · intro same
      exact Option.some.inj same ▸ isFront_nil starts
    · intro isFront
      rw [(isFront_nil starts).unique isFront]
  induction text generalizing front with
  | nil =>
      by_cases starts : mark <+: []
      · exact atStart starts
      · have begun : mark ≠ [] := fun empty => starts (empty ▸ List.nil_prefix)
        rw [before?, if_neg (mt List.isEmpty_iff.mp begun)]
        refine iff_of_false (Option.some_ne_none front).symm fun isFront => begun ?_
        exact (List.append_eq_nil_iff.mp (List.prefix_nil.mp isFront.occurs)).2
  | cons c text induction =>
      by_cases starts : mark <+: c :: text
      · exact atStart starts
      · rw [before?_cons starts, Option.map_eq_some_iff]
        constructor
        · rintro ⟨front, found, rfl⟩
          exact (isFront_cons starts).mpr (induction.mp found)
        · intro isFront
          cases front with
          | nil => exact absurd isFront.occurs starts
          | cons d front =>
              obtain rfl := (List.cons_prefix_cons.mp isFront.occurs).1
              exact ⟨front, induction.mpr ((isFront_cons starts).mp isFront), rfl⟩

/-- What is left of a text without the copies of a mark that it starts with. -/
structure IsBare (mark text rest : List Char) : Prop where
  copies : ∃ count, text = (List.replicate count mark).flatten ++ rest
  bare : ¬ mark <+: rest

theorem stripCopies_isBare {start : List Char} (begun : start ≠ []) {fuel : Nat} {text : List Char}
    (enough : text.length ≤ fuel) : IsBare start text (stripCopies start fuel text) := by
  induction fuel generalizing text with
  | zero =>
      obtain rfl := List.length_eq_zero_iff.mp (Nat.le_zero.mp enough)
      exact ⟨⟨0, rfl⟩, fun starts => begun (List.prefix_nil.mp starts)⟩
  | succ fuel induction =>
      rw [stripCopies]
      cases strips : stripStart? start text with
      | none => exact ⟨⟨0, rfl⟩, stripStart?_eq_none_iff.mp strips⟩
      | some rest =>
          obtain rfl := stripStart?_eq_some_iff.mp strips
          have shorter : rest.length ≤ fuel := by
            have some := List.length_pos_iff.mpr begun
            rw [List.length_append] at enough
            omega
          obtain ⟨⟨count, shape⟩, bare⟩ := induction shorter
          refine ⟨⟨count + 1, ?_⟩, bare⟩
          rw [List.replicate_succ, List.flatten_cons, List.append_assoc, ← shape]

theorem isBare_trimStartsOf {start : List Char} (begun : start ≠ []) (text : List Char) :
    IsBare start text (trimStartsOf start text) :=
  stripCopies_isBare begun (Nat.le_refl text.length)

theorem IsBare.unique {start text rest other : List Char} (isBare : IsBare start text rest)
    (alsoBare : IsBare start text other) : rest = other := by
  obtain ⟨⟨count, rfl⟩, bare⟩ := isBare
  obtain ⟨⟨otherCount, shape⟩, otherBare⟩ := alsoBare
  induction count generalizing otherCount with
  | zero =>
      cases otherCount with
      | zero => exact shape
      | succ otherCount =>
          rw [List.replicate_succ, List.flatten_cons, List.append_assoc] at shape
          exact absurd ⟨_, shape.symm⟩ bare
  | succ count induction =>
      cases otherCount with
      | zero =>
          rw [List.replicate_succ, List.flatten_cons, List.append_assoc] at shape
          exact absurd ⟨_, shape⟩ otherBare
      | succ otherCount =>
          simp only [List.replicate_succ, List.flatten_cons, List.append_assoc,
            List.append_cancel_left_eq] at shape
          exact induction otherCount shape

end Telemetry.Text
