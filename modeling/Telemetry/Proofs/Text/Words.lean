import Mathlib.Data.List.SplitBy
import Telemetry.Proofs.Text.Blank

namespace Telemetry.Text

open Telemetry

/-! Texts in words: what stands between blanks, however many. -/

inductive IsWords : List Char → List (List Char) → Prop where
  | blank {text : List Char} (blank : ∀ c ∈ text, isBlank c = true) : IsWords text []
  | word {blanks word rest : List Char} {words : List (List Char)}
      (blank : ∀ c ∈ blanks, isBlank c = true) (begun : word ≠ [])
      (visible : ∀ c ∈ word, isBlank c = false) (ends : ∀ c ∈ rest.head?, isBlank c = true)
      (others : IsWords rest words) : IsWords (blanks ++ (word ++ rest)) (word :: words)

section

variable {kind : Bool} {text rest : List Char}

theorem splitBy_run (begun : text ≠ []) (run : ∀ c ∈ text, isBlank c = kind) :
    text.splitBy (fun a b => isBlank a == isBlank b) = [text] := by
  apply List.splitBy_of_isChain begun
  apply List.Pairwise.isChain
  apply List.pairwise_of_forall_mem_list
  intro a first b second
  rw [run a first, run b second, beq_self_eq_true]

theorem splitBy_run_append (begun : text ≠ []) (run : ∀ c ∈ text, isBlank c = kind)
    (ends : ∀ c ∈ rest.head?, isBlank c = !kind) :
    (text ++ rest).splitBy (fun a b => isBlank a == isBlank b) =
      text :: rest.splitBy (fun a b => isBlank a == isBlank b) := by
  rw [List.splitBy_append, splitBy_run begun run, List.singleton_append]
  intro a last b first
  rw [run a (List.mem_of_getLast? last), ends b first]
  cases kind <;> rfl

end

theorem words_blank {text : List Char} (blank : ∀ c ∈ text, isBlank c = true) :
    words text = [] := by
  cases text with
  | nil => rfl
  | cons c rest =>
      have noWord : (c :: rest).any isBlank = true :=
        List.any_eq_true.mpr ⟨c, List.mem_cons_self, blank c List.mem_cons_self⟩
      rw [words, splitBy_run (List.cons_ne_nil c rest) blank, List.filter_singleton, noWord]
      rfl

theorem words_append_of_blank {blanks rest : List Char} (blank : ∀ c ∈ blanks, isBlank c = true)
    (ends : ∀ c ∈ rest.head?, isBlank c = false) : words (blanks ++ rest) = words rest := by
  cases blanks with
  | nil => rfl
  | cons c blanks =>
      have noWord : (c :: blanks).any isBlank = true :=
        List.any_eq_true.mpr ⟨c, List.mem_cons_self, blank c List.mem_cons_self⟩
      rw [words, splitBy_run_append (List.cons_ne_nil c blanks) blank ends, List.filter_cons,
        noWord]
      rfl

theorem words_append_of_visible {word rest : List Char} (begun : word ≠ [])
    (visible : ∀ c ∈ word, isBlank c = false) (ends : ∀ c ∈ rest.head?, isBlank c = true) :
    words (word ++ rest) = word :: words rest := by
  have isWord : word.any isBlank = false := by
    apply List.any_eq_false.mpr
    intro c member
    rw [visible c member]
    exact Bool.false_ne_true
  rw [words, splitBy_run_append begun visible ends, List.filter_cons, isWord]
  rfl

theorem words_eq_of_isWords {text : List Char} {written : List (List Char)}
    (isWords : IsWords text written) : words text = written := by
  induction isWords with
  | blank blank => exact words_blank blank
  | @word blanks word rest written blank begun visible ends others induction =>
      have starts : ∀ c ∈ (word ++ rest).head?, isBlank c = false := by
        obtain ⟨c, tail, rfl⟩ := List.exists_cons_of_ne_nil begun
        intro first isFirst
        obtain rfl := Option.some.inj isFirst
        exact visible c List.mem_cons_self
      rw [words_append_of_blank blank starts, words_append_of_visible begun visible ends, induction]

theorem IsWords.cons_blank {c : Char} {text : List Char} {written : List (List Char)}
    (isBlank : isBlank c = true) (isWords : IsWords text written) :
    IsWords (c :: text) written := by
  cases isWords with
  | blank blank => exact .blank (List.forall_mem_cons.mpr ⟨isBlank, blank⟩)
  | word blank begun visible ends others =>
      exact .word (List.forall_mem_cons.mpr ⟨isBlank, blank⟩) begun visible ends others

/-- A visible character begins a word or belongs to the one behind it. -/
theorem IsWords.exists_cons_visible {c : Char} {text : List Char} {written : List (List Char)}
    (isVisible : isBlank c = false) (isWords : IsWords text written) :
    ∃ others, IsWords (c :: text) others := by
  have begin (ends : ∀ d ∈ text.head?, Text.isBlank d = true) :
      IsWords (c :: text) ([c] :: written) :=
    .word (List.forall_mem_nil _) (List.cons_ne_nil c []) (List.forall_mem_singleton.mpr isVisible)
      ends isWords
  cases isWords with
  | blank blank => exact ⟨_, begin fun d first => blank d (List.mem_of_mem_head? first)⟩
  | @word blanks word rest written blank begun visible ends others =>
      cases blanks with
      | nil =>
          exact ⟨(c :: word) :: written, .word (List.forall_mem_nil _) (List.cons_ne_nil c word)
            (List.forall_mem_cons.mpr ⟨isVisible, visible⟩) ends others⟩
      | cons d blanks =>
          refine ⟨_, begin fun other first => ?_⟩
          obtain rfl := Option.some.inj first
          exact blank d List.mem_cons_self

theorem exists_isWords (text : List Char) : ∃ written, IsWords text written := by
  induction text with
  | nil => exact ⟨[], .blank (List.forall_mem_nil _)⟩
  | cons c text induction =>
      obtain ⟨written, isWords⟩ := induction
      cases kind : isBlank c with
      | true => exact ⟨written, isWords.cons_blank kind⟩
      | false => exact isWords.exists_cons_visible kind

theorem words_eq_iff {text : List Char} {written : List (List Char)} :
    words text = written ↔ IsWords text written := by
  refine ⟨?_, words_eq_of_isWords⟩
  rintro rfl
  obtain ⟨written, isWords⟩ := exists_isWords text
  rwa [words_eq_of_isWords isWords]

/-- A visible character in front of another belongs to the same word. -/
theorem drop_words_cons {c d : Char} (isVisible : isBlank c = false)
    (alsoVisible : isBlank d = false) (rest : List Char) :
    (words (c :: d :: rest)).drop 1 = (words (d :: rest)).drop 1 := by
  have isWords : IsWords (d :: rest) (words (d :: rest)) := words_eq_iff.mp rfl
  generalize words (d :: rest) = written at isWords
  generalize shape : d :: rest = text at isWords ⊢
  cases isWords with
  | blank blank =>
      have isBlank := blank d (shape ▸ List.mem_cons_self)
      rw [alsoVisible] at isBlank
      cases isBlank
  | @word blanks word rest others blank begun visible ends isOthers =>
      cases blanks with
      | nil =>
          have longer : IsWords (c :: (word ++ rest)) ((c :: word) :: others) :=
            .word (List.forall_mem_nil _) (List.cons_ne_nil c word)
              (List.forall_mem_cons.mpr ⟨isVisible, visible⟩) ends isOthers
          rw [List.nil_append, words_eq_iff.mpr longer]
          rfl
      | cons first blanks =>
          obtain ⟨rfl, -⟩ := List.cons.inj shape
          have isBlank := blank d List.mem_cons_self
          rw [alsoVisible] at isBlank
          cases isBlank

end Telemetry.Text
