import Telemetry.Proofs.Decimal.Reader
import Telemetry.Proofs.Json.Numeral

namespace Telemetry

open Telemetry Json

/-! The numbers of JSON as they are read from text: as the nearest doubles, and as integers where
they are spelled whole and fit 64 bits. -/

namespace Decimal

section Digits

variable {written rest : List Char}

/-- What begins with no digit. -/
def EndsDigits (rest : List Char) : Prop := ∀ c ∈ rest.head?, isDigit c = false

theorem endsDigits_nil : EndsDigits [] := by
  rintro c ⟨⟩

theorem EndsDigits.cons {c : Char} (notDigit : isDigit c = false) (tail : List Char) :
    EndsDigits (c :: tail) := by
  rintro other ⟨⟩
  exact notDigit

theorem takeSign_of_isDigit {c : Char} (digit : isDigit c = true) (rest : List Char) :
    takeSign (c :: rest) = (false, c :: rest) := by
  obtain ⟨value, rfl⟩ := exists_digitChar digit
  fin_cases value <;> rfl

end Digits

theorem endsDigits_powerChars (power : Option Power) : EndsDigits (powerChars power) := by
  cases power with
  | none => rintro c ⟨⟩
  | some power =>
      apply EndsDigits.cons
      rcases power.mark_eq with small | capital
      · rw [small]; decide
      · rw [capital]; decide

theorem powerChars_ne_point (power : Option Power) (rest : List Char) :
    powerChars power ≠ '.' :: rest := by
  cases power with
  | none => rintro ⟨⟩
  | some power =>
      intro same
      have mark : power.mark = '.' := (List.cons.inj same).1
      rcases power.mark_eq with small | capital
      · exact absurd (small.symm.trans mark) (by decide)
      · exact absurd (capital.symm.trans mark) (by decide)

theorem takeSign_power (power : Power) :
    takeSign (power.signChars ++ power.digits) = (power.down, power.digits) := by
  rw [Power.signChars, Power.down]
  cases power.sign with
  | some minus => cases minus <;> rfl
  | none =>
      obtain ⟨c, more, isWritten⟩ := List.exists_cons_of_ne_nil power.notEmpty
      have digit := power.areDigits c (by rw [isWritten]; exact List.mem_cons_self)
      rw [isWritten]
      exact takeSign_of_isDigit digit more

theorem readExponent?_powerChars (power : Option Power) :
    readExponent? (powerChars power) = some (power.elim 0 Power.exponent) := by
  cases power with
  | none => rfl
  | some power =>
      have digits : power.digits.all isDigit = true := List.all_eq_true.mpr power.areDigits
      have some : power.digits.isEmpty = false := List.isEmpty_eq_false_iff.mpr power.notEmpty
      show readExponent? (power.mark :: (power.signChars ++ power.digits)) = _
      simp only [readExponent?, if_pos power.mark_eq, takeSign_power, digits, some, Bool.not_true,
        Bool.or_false, Bool.false_eq_true, if_false]
      rfl

theorem readDecimal?_digits {whole fraction : List Char}
    (wholeDigits : ∀ c ∈ whole, isDigit c = true) (notEmpty : whole ≠ [])
    (digits : ∀ c ∈ fraction, isDigit c = true) (power : Option Power) :
    readDecimal? (whole ++ (Numeral.pointed fraction ++ powerChars power)) =
      some ⟨ofDigits (whole ++ fraction),
        power.elim 0 Power.exponent - fraction.length⟩ := by
  have powerEnds := endsDigits_powerChars power
  have notNone : whole.isEmpty = false := List.isEmpty_eq_false_iff.mpr notEmpty
  have exponent := readExponent?_powerChars power
  cases fraction with
  | nil =>
      obtain ⟨taken, left⟩ := Text.takeWhile_run wholeDigits powerEnds
      rw [Numeral.pointed, List.nil_append, readDecimal?]
      dsimp only
      rw [taken, left]
      split
      · next rest same => exact absurd same (powerChars_ne_point power rest)
      · simp only [notNone, Bool.false_and, Bool.false_eq_true, if_false, exponent,
          Option.map_some]
  | cons c more =>
      have point : EndsDigits ('.' :: (c :: more ++ powerChars power)) := .cons (by decide) _
      obtain ⟨taken, left⟩ := Text.takeWhile_run wholeDigits point
      obtain ⟨fractionTaken, fractionLeft⟩ := Text.takeWhile_run digits powerEnds
      have shape : Numeral.pointed (c :: more) ++ powerChars power =
          '.' :: (c :: more ++ powerChars power) := rfl
      rw [shape, readDecimal?]
      dsimp only
      rw [taken, left]
      simp only [fractionTaken, fractionLeft, notNone, Bool.false_and, Bool.false_eq_true, if_false,
        exponent, Option.map_some]

end Decimal

namespace Json.Numeral

variable {numeral : Numeral}

def double (numeral : Numeral) : Binary64 :=
  Binary64.ofMagnitude numeral.negative (Decimal.toMagnitude numeral.decimal)

theorem takeSign_chars (numeral : Numeral) : Decimal.takeSign numeral.chars =
    (numeral.negative, Decimal.digits numeral.whole ++ numeral.behind) := by
  obtain ⟨c, more, shape, digit⟩ := numeral.exists_digit
  rw [chars, signChars, shape]
  cases numeral.negative with
  | true => rfl
  | false => exact Decimal.takeSign_of_isDigit digit more

theorem readDecimal?_chars (numeral : Numeral) :
    Decimal.readDecimal? (Decimal.digits numeral.whole ++ numeral.behind) =
      some numeral.decimal := by
  have digits : ∀ c ∈ Decimal.digits numeral.whole, Decimal.isDigit c = true :=
    fun c member => Decimal.isDigit_of_mem_digits member
  exact Decimal.readDecimal?_digits digits numeral.digits_ne_nil numeral.areDigits numeral.power

/-- No name begins with a digit. -/
theorem map_toLower_ne {c letter : Char} (digit : Decimal.isDigit c = true)
    (notDigit : Decimal.isDigit letter = false) (more letters : List Char) :
    (c :: more).map Char.toLower ≠ letter :: letters := by
  intro same
  have first : c.toLower = letter := (List.cons.inj same).1
  have unchanged : c.toLower = c := by
    obtain ⟨value, rfl⟩ := exists_digitChar digit
    fin_cases value <;> rfl
  rw [← first, unchanged, digit] at notDigit
  cases notDigit

theorem readDouble?_text (numeral : Numeral) :
    Decimal.readDouble? numeral.text = some numeral.double := by
  have magnitude := numeral.readDecimal?_chars
  obtain ⟨c, more, shape, digit⟩ := numeral.exists_digit
  have notNan := map_toLower_ne digit (by decide : Decimal.isDigit 'n' = false) more ['a', 'n']
  have notInf : (c :: more).map Char.toLower ≠ "inf".toList :=
    map_toLower_ne digit (by decide : Decimal.isDigit 'i' = false) more ['n', 'f']
  have notInfinity : (c :: more).map Char.toLower ≠ "infinity".toList :=
    map_toLower_ne digit (by decide : Decimal.isDigit 'i' = false) more "nfinity".toList
  rw [Decimal.readDouble?, text, String.toList_ofList, takeSign_chars]
  rw [shape] at magnitude ⊢
  simp only [show (c :: more).map Char.toLower ≠ "nan".toList from notNan, notInf, notInfinity,
    if_false, or_self, magnitude, Option.map_some]
  rfl

def integer (numeral : Numeral) : Int :=
  if numeral.negative then -numeral.whole else numeral.whole

theorem behind_of_isWhole (isWhole : numeral.IsWhole) : numeral.behind = [] := by
  rw [behind, isWhole.1, isWhole.2]
  rfl

theorem exists_mark_of_not_isWhole (notWhole : ¬ numeral.IsWhole) :
    ∃ c ∈ numeral.behind, Decimal.isDigit c = false := by
  rw [behind]
  cases isFraction : numeral.fraction with
  | cons c more => exact ⟨'.', List.mem_cons_self, by decide⟩
  | nil =>
      cases isPower : numeral.power with
      | none => exact absurd ⟨isFraction, isPower⟩ notWhole
      | some power =>
          refine ⟨power.mark, List.mem_cons_self, ?_⟩
          rcases power.mark_eq with small | capital
          · rw [small]; decide
          · rw [capital]; decide

theorem readInt64?_text (numeral : Numeral) : Decimal.readInt64? numeral.text =
    if numeral.IsWhole ∧ Counter.Fits numeral.integer then some (Int64.ofInt numeral.integer)
    else none := by
  obtain ⟨c, more, shape, digit⟩ := numeral.exists_digit
  have notEmpty : (Decimal.digits numeral.whole ++ numeral.behind).isEmpty = false := by
    rw [shape]
    rfl
  rw [Decimal.readInt64?, text, String.toList_ofList, takeSign_chars]
  dsimp only
  rw [notEmpty, Bool.false_or]
  by_cases isWhole : numeral.IsWhole
  · have digits : (Decimal.digits numeral.whole).all Decimal.isDigit = true :=
      List.all_eq_true.mpr fun c member => Decimal.isDigit_of_mem_digits member
    rw [behind_of_isWhole isWhole, List.append_nil, digits, Decimal.ofDigits_digits]
    simp only [Bool.not_true, Bool.false_eq_true, if_false, isWhole, true_and, integer]
    rfl
  · obtain ⟨mark, member, notDigit⟩ := exists_mark_of_not_isWhole isWhole
    have notAll : (Decimal.digits numeral.whole ++ numeral.behind).all Decimal.isDigit = false :=
      List.all_eq_false.mpr ⟨mark, List.mem_append_right _ member, by rw [notDigit]; decide⟩
    rw [notAll, Bool.not_false, if_pos rfl, if_neg fun whole => isWhole whole.1]

end Json.Numeral

end Telemetry
