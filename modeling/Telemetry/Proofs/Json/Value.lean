import Telemetry.Proofs.Json.Number

namespace Telemetry.Json

open Telemetry

/-! Values between delimiters: optional ones, and lists of values that are read as they are
written. -/

theorem readOptional_of_first {α : Type} (reader : Reader α) {byte : UInt8} {tail : Bytes}
    (visible : isSpace byte = false) (notNull : byte ≠ ascii 'n') :
    readOptional reader (byte :: tail) = do
      let (value, rest) ← reader (byte :: tail)
      return (some value, rest) := by
  rw [readOptional, skipSpace, List.dropWhile_cons, if_neg (by simp [visible])]
  simp only [if_neg notNull]

theorem isNumberByte_of_mem_writeInt64 {number : Int64} :
    ∀ byte ∈ writeInt64 number, isNumberByte byte = true := by
  intro byte member
  rw [writeInt64_eq] at member
  split at member
  · rcases List.mem_cons.mp member with rfl | digit
    · decide
    · exact isNumberByte_of_isDigit (isDigit_of_mem_digitBytes _ byte digit)
  · exact isNumberByte_of_isDigit (isDigit_of_mem_digitBytes _ byte member)

theorem readOptional_writeInt64 (number : Int64) {rest : Bytes} (stops : Stops rest) :
    readOptional readInt64 (writeInt64 number ++ rest) = .ok (some number, rest) := by
  have read := readInt64_writeInt64 number stops
  obtain ⟨byte, tail, same, visible, notNull⟩ := exists_first isNumberByte_of_mem_writeInt64 stops
  rw [same] at read ⊢
  rw [readOptional_of_first readInt64 visible notNull, read]
  rfl

theorem readOptional_writeText (text : String) (rest : Bytes) :
    readOptional readText (writeText text ++ rest) = .ok (some text, rest) := by
  have read := readText_writeText text rest
  rw [writeText_append] at read ⊢
  rw [readOptional_of_first readText (by decide) (by decide), read]
  rfl

theorem flatten_intersperse {α : Type} (element : List α) (elements : List (List α))
    (comma : List α) :
    ((element :: elements).intersperse comma).flatten =
      element ++ elements.flatMap fun element => comma ++ element := by
  induction elements generalizing element with
  | nil => simp
  | cons next elements induction =>
      rw [List.intersperse_cons_cons, List.flatten_cons, List.flatten_cons, induction]
      simp

section Lists

variable {α β : Type} {reader : Reader α} {write : β → Bytes} {value : β → α}

/-- A reader that takes what was written of a thing, and leaves what follows. -/
def ReadsBack (reader : Reader α) (write : β → Bytes) (value : β → α) : Prop :=
  ∀ written rest, reader (write written ++ rest) = .ok (value written, rest)

/-- What is written begins visibly and not like the end of a list. -/
def Opens (write : β → Bytes) : Prop :=
  ∀ written, ∃ byte tail, write written = byte :: tail ∧ isSpace byte = false ∧ byte ≠ ascii ']'

theorem nextElement_close (first : Bool) (rest : Bytes) :
    nextElement first (ascii ']' :: rest) = .ok none := by
  rw [nextElement, afterSpace_cons _ (by decide), if_pos rfl]

theorem closeList_close (rest : Bytes) : closeList (ascii ']' :: rest) = .ok rest := by
  rw [closeList, afterSpace_cons _ (by decide), if_pos rfl]

theorem nextElement_comma (opens : Opens write) (written : β) (rest : Bytes) :
    nextElement false (ascii ',' :: (write written ++ rest)) =
      .ok (some (write written ++ rest)) := by
  obtain ⟨byte, tail, same, visible, notClose⟩ := opens written
  rw [same, nextElement, afterSpace_cons _ (by decide), List.cons_append]
  simp only [afterSpace_cons _ visible, if_neg notClose]
  rfl

theorem nextElement_first (opens : Opens write) (written : β) (rest : Bytes) :
    nextElement true (write written ++ rest) = .ok (some (write written ++ rest)) := by
  obtain ⟨byte, tail, same, visible, notClose⟩ := opens written
  rw [same, nextElement, List.cons_append, afterSpace_cons _ visible, if_neg notClose, if_pos rfl]

/-- The elements of a list behind its first one. -/
def laterElements (write : β → Bytes) (written : List β) : Bytes :=
  written.flatMap fun element => ascii ',' :: write element

theorem length_le_length_laterElements (write : β → Bytes) (written : List β) :
    written.length ≤ (laterElements write written).length := by
  induction written with
  | nil => exact Nat.le_refl 0
  | cons first written induction =>
      rw [laterElements, List.flatMap_cons, List.length_append, List.length_cons, List.length_cons]
      rw [laterElements] at induction
      omega

theorem readElements_close (done : List α) (fuel : Nat) (first : Bool) (rest : Bytes) :
    readElements reader (fuel + 1) first done (ascii ']' :: rest) = .ok (done.reverse, rest) := by
  simp only [readElements, nextElement_close, closeList_close, bind, Except.bind, pure, Except.pure]

theorem readElements_laterElements (reads : ReadsBack reader write value) (opens : Opens write)
    (written : List β) {fuel : Nat} (enough : written.length < fuel) (done : List α)
    (rest : Bytes) :
    readElements reader fuel false done (laterElements write written ++ ascii ']' :: rest) =
      .ok (done.reverse ++ written.map value, rest) := by
  induction written generalizing fuel done with
  | nil =>
      obtain ⟨less, rfl⟩ := Nat.exists_eq_succ_of_ne_zero (Nat.ne_zero_of_lt enough)
      rw [laterElements, List.flatMap_nil, List.nil_append, Nat.succ_eq_add_one,
        readElements_close, List.map_nil, List.append_nil]
  | cons first written induction =>
      obtain ⟨less, rfl⟩ := Nat.exists_eq_succ_of_ne_zero (Nat.ne_zero_of_lt enough)
      have others := induction (Nat.lt_of_succ_lt_succ enough) (value first :: done)
      rw [List.reverse_cons, List.append_assoc, List.singleton_append] at others
      rw [laterElements, List.flatMap_cons, List.append_assoc, List.cons_append, readElements,
        nextElement_comma opens]
      simp only [bind, Except.bind, reads first _]
      exact others

theorem readList_writeList (reads : ReadsBack reader write value) (opens : Opens write)
    (written : List β) (rest : Bytes) :
    readList reader (writeList (written.map write) ++ rest) = .ok (written.map value, rest) := by
  cases written with
  | nil =>
      have empty : writeList (List.map write []) ++ rest = ascii '[' :: ascii ']' :: rest := by
        simp [writeList]
      rw [empty, readList, afterSpace_cons _ (by decide), if_pos rfl, readElements_close]
      rfl
  | cons first written =>
      have shape : writeList ((first :: written).map write) ++ rest = ascii '[' ::
          (write first ++ (laterElements write written ++ ascii ']' :: rest)) := by
        rw [writeList, List.map_cons, flatten_intersperse, List.flatMap_map, laterElements]
        simp
      have enough : written.length <
          (write first ++ (laterElements write written ++ ascii ']' :: rest)).length := by
        have later := length_le_length_laterElements write written
        rw [List.length_append, List.length_append, List.length_cons]
        omega
      have others := readElements_laterElements reads opens written enough [value first] rest
      rw [shape, readList, afterSpace_cons _ (by decide), if_pos rfl, readElements,
        nextElement_first opens]
      simp only [bind, Except.bind, reads first _]
      exact others

end Lists

end Telemetry.Json
