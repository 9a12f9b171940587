import Telemetry.Json.Value

namespace Telemetry.Json

open Telemetry

/-! Texts are read back as they were written, whatever characters they hold. -/

theorem afterSpace_cons {α : Type} (reader : UInt8 → Bytes → Except Fault α) {byte : UInt8}
    (visible : isSpace byte = false) (rest : Bytes) :
    afterSpace reader (byte :: rest) = reader byte rest := by
  rw [afterSpace, skipSpace, List.dropWhile_cons, if_neg (by simp [visible])]

theorem unescape?_shortEscape? {byte letter : UInt8} (short : shortEscape? byte = some letter) :
    unescape? letter = some byte ∧ letter ≠ ascii 'u' := by
  unfold shortEscape? at short
  split at short
  · next same => rw [same, ← Option.some.inj short]; decide
  · split at short
    · next same => rw [same, ← Option.some.inj short]; decide
    · split at short
      · next same => rw [same, ← Option.some.inj short]; decide
      · split at short
        · next same => rw [same, ← Option.some.inj short]; decide
        · split at short
          · next same => rw [same, ← Option.some.inj short]; decide
          · cases short

theorem codeUnit?_control : ∀ number : Fin 32,
    codeUnit? (ascii '0') (ascii '0') (ascii (Hex.digit (number.val / 16)))
        (ascii (Hex.digit (number.val % 16))) = some number.val ∧
      isLowSurrogate number.val = false ∧ isHighSurrogate number.val = false ∧
      codePoint number.val = [UInt8.ofNat number.val] := by
  decide

section

variable (done rest : Bytes)

theorem unescaped_quote : unescaped done (quote :: rest) = .ok (done.reverse, rest) := by
  rw [unescaped.eq_def]
  exact if_pos rfl

theorem unescaped_plain {byte : UInt8} (notQuote : byte ≠ quote) (notBackslash : byte ≠ backslash)
    (visible : ¬ byte < 0x20) :
    unescaped done (byte :: rest) = unescaped (byte :: done) rest := by
  rw [unescaped.eq_def]
  show (if byte = quote then _ else _) = _
  rw [if_neg notQuote, if_neg notBackslash, if_neg visible]

theorem unescaped_letter {letter byte : UInt8} (short : unescape? letter = some byte)
    (notUnit : letter ≠ ascii 'u') :
    unescaped done (backslash :: letter :: rest) = unescaped (byte :: done) rest := by
  have notQuote : backslash ≠ quote := by decide
  rw [unescaped.eq_def]
  simp only [if_neg notQuote, if_true, if_neg notUnit, short]

theorem unescaped_unit {a b c d : UInt8} {unit : Nat} (digits : codeUnit? a b c d = some unit)
    (notLow : isLowSurrogate unit = false) (notHigh : isHighSurrogate unit = false) :
    unescaped done (backslash :: ascii 'u' :: a :: b :: c :: d :: rest) =
      unescaped ((codePoint unit).reverse ++ done) rest := by
  have notQuote : backslash ≠ quote := by decide
  rw [unescaped.eq_def]
  simp only [if_neg notQuote, if_true, digits, notLow, notHigh, Bool.false_eq_true, if_false]

theorem unescaped_escape (byte : UInt8) :
    unescaped done (escape byte ++ rest) = unescaped (byte :: done) rest := by
  unfold escape
  by_cases special : byte = quote ∨ byte = backslash
  · have itself : unescape? byte = some byte ∧ byte ≠ ascii 'u' := by
      rcases special with rfl | rfl <;> decide
    rw [if_pos (by simpa using special)]
    exact unescaped_letter done rest itself.1 itself.2
  · rw [if_neg (by simpa using special)]
    have notQuote : byte ≠ quote := fun same => special (.inl same)
    have notBackslash : byte ≠ backslash := fun same => special (.inr same)
    by_cases control : byte < 0x20
    · rw [if_pos control]
      cases short : shortEscape? byte with
      | some letter =>
          obtain ⟨stands, notUnit⟩ := unescape?_shortEscape? short
          exact unescaped_letter done rest stands notUnit
      | none =>
          have small : byte.toNat < 32 := UInt8.lt_iff_toNat_lt.mp control
          obtain ⟨digits, notLow, notHigh, point⟩ := codeUnit?_control ⟨byte.toNat, small⟩
          have read := unescaped_unit done rest digits notLow notHigh
          rw [point, UInt8.ofNat_toNat] at read
          exact read
    · rw [if_neg control]
      exact unescaped_plain done rest notQuote notBackslash control

end

theorem unescaped_flatMap_escape (bytes done rest : Bytes) :
    unescaped done (bytes.flatMap escape ++ quote :: rest) = .ok (done.reverse ++ bytes, rest) := by
  induction bytes generalizing done with
  | nil =>
      rw [List.flatMap_nil, List.nil_append, unescaped_quote, List.append_nil]
  | cons byte bytes induction =>
      rw [List.flatMap_cons, List.append_assoc, unescaped_escape, induction]
      simp

theorem readQuoted_escape (text : String) (rest : Bytes) :
    readQuoted ((Bytes.ofText text).flatMap escape ++ quote :: rest) = .ok (text, rest) := by
  rw [readQuoted, unescaped_flatMap_escape]
  simp [bind, Except.bind]

theorem writeText_append (text : String) (rest : Bytes) :
    writeText text ++ rest = quote :: ((Bytes.ofText text).flatMap escape ++ quote :: rest) := by
  simp [writeText]

theorem readText_writeText (text : String) (rest : Bytes) :
    readText (writeText text ++ rest) = .ok (text, rest) := by
  rw [writeText_append, readText, afterSpace_cons _ (by decide), if_pos rfl, readQuoted_escape]

end Telemetry.Json
