import Telemetry.Text.Blank

namespace Telemetry.Text

open Telemetry

/-! Texts in parts: runs of characters of a kind, what stands before and behind a mark, and
lines. -/

/-- A run ends in front of what is not of its kind. -/
theorem takeWhile_run {α : Type} {isInside : α → Bool} {run rest : List α}
    (inside : ∀ x ∈ run, isInside x = true) (ends : ∀ x ∈ rest.head?, isInside x = false) :
    (run ++ rest).takeWhile isInside = run ∧ (run ++ rest).dropWhile isInside = rest := by
  rw [List.takeWhile_append_of_pos inside, List.dropWhile_append_of_pos inside]
  cases rest with
  | nil => simp
  | cons x tail => simp [ends x rfl]

theorem trimChars_eq_self {text : List Char} (visible : ∀ c ∈ text, isBlank c = false) :
    trimChars text = text := by
  have untouched : ∀ text : List Char, (∀ c ∈ text, isBlank c = false) →
      trimStartChars text = text := by
    intro text visible
    cases text with
    | nil => rfl
    | cons c rest => simp [trimStartChars, visible c List.mem_cons_self]
  rw [trimChars, untouched text visible, untouched, List.reverse_reverse]
  exact fun c member => visible c (List.mem_reverse.mp member)

theorem stripStart?_eq_some_iff {start text rest : List Char} :
    stripStart? start text = some rest ↔ text = start ++ rest := by
  induction start generalizing text with
  | nil => simp [stripStart?]
  | cons c start induction =>
      cases text with
      | nil => simp [stripStart?]
      | cons d text =>
          by_cases same : c = d
          · simp [stripStart?, same, induction]
          · simp [stripStart?, same, Ne.symm same]

/-- A text is split at the first mark in it. -/
theorem splitOnce?_eq_some_iff {mark : Char} {text before behind : List Char} :
    splitOnce? mark text = some (before, behind) ↔
      text = before ++ mark :: behind ∧ mark ∉ before := by
  constructor
  · intro splits
    have whole := List.takeWhile_append_dropWhile (p := (· ≠ mark)) (l := text)
    unfold splitOnce? at splits
    split at splits
    · cases splits
    · next c rest found =>
        obtain ⟨rfl, rfl⟩ := Prod.mk.inj (Option.some.inj splits)
        have isMark : c = mark := by
          have stops := List.head?_dropWhile_not (· ≠ mark) text
          rw [found] at stops
          simpa using stops
        rw [found, isMark] at whole
        refine ⟨whole.symm, fun member => ?_⟩
        have other := List.all_eq_true.mp List.all_takeWhile mark member
        simp at other
  · rintro ⟨rfl, plain⟩
    have inside : ∀ c ∈ before, decide (c ≠ mark) = true := by
      intro c member
      simpa using fun same : c = mark => plain (same ▸ member)
    have ends : ∀ c ∈ (mark :: behind).head?, decide (c ≠ mark) = false := by simp
    obtain ⟨taken, left⟩ := takeWhile_run inside ends
    rw [splitOnce?, left, taken]

section Pieces

variable {c : Char} {front : String}

theorem pieces_plain (plain : c ∉ front.toList) : pieces c front = [front] := by
  rw [pieces, List.splitOn_eq_singleton plain, List.map_singleton, String.ofList_toList]

theorem pieces_append (plain : c ∉ front.toList) (rest : String) :
    pieces c (front ++ (String.singleton c ++ rest)) = front :: pieces c rest := by
  have shape : (front ++ (String.singleton c ++ rest)).toList =
      front.toList ++ c :: rest.toList := by
    simp
  rw [pieces, shape, List.splitOn_append_cons_self, List.splitOn_eq_singleton plain]
  simp [pieces]

end Pieces

/-- How a text falls into lines. One carriage return in front of a line feed belongs to the end of
the line; the last line may lack its end. -/
inductive IsLines : List Char → List (List Char) → Prop where
  | nil : IsLines [] []
  | last {line : List Char} (plain : '\n' ∉ line) (begun : line ≠ []) : IsLines line [line]
  | feed {line rest : List Char} {lines : List (List Char)} (plain : '\n' ∉ line)
      (bare : line.getLast? ≠ some '\r') (others : IsLines rest lines) :
      IsLines (line ++ '\n' :: rest) (line :: lines)
  | returnFeed {line rest : List Char} {lines : List (List Char)} (plain : '\n' ∉ line)
      (others : IsLines rest lines) : IsLines (line ++ '\r' :: '\n' :: rest) (line :: lines)

theorem linesFrom_append {line : List Char} (plain : '\n' ∉ line) (begun rest : List Char) :
    linesFrom begun (line ++ rest) = linesFrom (line.reverse ++ begun) rest := by
  induction line generalizing begun with
  | nil => rfl
  | cons c line induction =>
      obtain ⟨notFeed, others⟩ := not_or.mp (mt List.mem_cons.mpr plain)
      rw [List.cons_append, linesFrom.eq_def]
      simp only [if_neg (Ne.symm notFeed)]
      rw [induction others, List.reverse_cons, List.append_assoc]
      rfl

theorem isLines_linesFrom {begun : List Char} (plain : '\n' ∉ begun) (text : List Char) :
    IsLines (begun.reverse ++ text) (linesFrom begun text) := by
  induction text generalizing begun with
  | nil =>
      rw [List.append_nil, linesFrom]
      cases begun with
      | nil => exact .nil
      | cons c begun => exact .last (mt List.mem_reverse.mp plain) (by simp)
  | cons c rest induction =>
      have others : IsLines rest (linesFrom [] rest) := induction List.not_mem_nil
      rw [linesFrom.eq_def]
      by_cases isFeed : c = '\n'
      · simp only [isFeed, if_true]
        split
        · next begun =>
            rw [List.reverse_cons, List.append_assoc]
            exact .returnFeed (fun member => plain (.tail _ (List.mem_reverse.mp member))) others
        · next bare =>
            refine .feed (mt List.mem_reverse.mp plain) ?_ others
            rw [List.getLast?_reverse]
            intro returns
            obtain ⟨line, rfl⟩ := List.head?_eq_some_iff.mp returns
            exact bare line rfl
      · simp only [isFeed, if_false]
        have stillPlain : '\n' ∉ c :: begun :=
          mt List.mem_cons.mp (not_or.mpr ⟨Ne.symm isFeed, plain⟩)
        have longer := induction stillPlain
        rw [List.reverse_cons, List.append_assoc] at longer
        exact longer

theorem lines_eq_iff {text : List Char} {written : List (List Char)} :
    lines text = written ↔ IsLines text written := by
  constructor
  · rintro rfl
    exact isLines_linesFrom List.not_mem_nil text
  · intro isLines
    induction isLines with
    | nil => rfl
    | @last line plain begun =>
        rw [← List.append_nil line, lines, linesFrom_append plain]
        simp [linesFrom, begun]
    | @feed line rest written plain bare others induction =>
        rw [lines, linesFrom_append plain, List.append_nil, linesFrom.eq_def]
        simp only [if_true]
        split
        · next begun same =>
            rw [← List.reverse_reverse line, same, List.reverse_cons, List.getLast?_concat] at bare
            exact absurd rfl bare
        · rw [List.reverse_reverse]
          exact congrArg (line :: ·) induction
    | @returnFeed line rest written plain others induction =>
        have stillPlain : '\n' ∉ line ++ ['\r'] := by
          simpa using plain
        rw [List.append_cons, lines, linesFrom_append stillPlain, List.append_nil,
          List.reverse_append, linesFrom.eq_def]
        simp only [if_true]
        show line.reverse.reverse :: _ = _
        rw [List.reverse_reverse]
        exact congrArg (line :: ·) induction

theorem lines_flatMap {α : Type} {line : α → List Char}
    (plain : ∀ element, ∀ c ∈ line element, c ≠ '\n' ∧ c ≠ '\r') (elements : List α) :
    lines (elements.flatMap fun element => line element ++ ['\n']) = elements.map line := by
  rw [lines_eq_iff]
  induction elements with
  | nil => exact .nil
  | cons element elements induction =>
      rw [List.flatMap_cons, List.append_assoc, List.map_cons]
      refine .feed (fun member => (plain element _ member).1 rfl) ?_ induction
      exact fun returns => (plain element _ (List.mem_of_getLast? returns)).2 rfl

end Telemetry.Text
