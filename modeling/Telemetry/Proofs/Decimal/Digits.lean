import Mathlib.Algebra.Group.Nat.Defs
import Telemetry.Decimal.Basic

namespace Telemetry.Decimal

open Telemetry

/-! The digits of a number, from the first to the last. -/

theorem digitsAux_append (fuel number : Nat) (tail : List Char) :
    digitsAux fuel number tail = digitsAux fuel number [] ++ tail := by
  induction fuel generalizing number tail with
  | zero => rfl
  | succ fuel induction =>
      unfold digitsAux
      split
      · rfl
      · rw [induction, induction (number / 10) [digitChar (number % 10)], List.append_assoc]
        rfl

theorem digitsAux_of_lt {number : Nat} (small : number < 10) (fuel : Nat) :
    digitsAux (fuel + 1) number [] = [digitChar number] := by
  rw [digitsAux, if_pos small]

theorem digitsAux_of_le {number : Nat} (large : 10 ≤ number) (fuel : Nat) :
    digitsAux (fuel + 1) number [] =
      digitsAux fuel (number / 10) [] ++ [digitChar (number % 10)] := by
  have notSmall : ¬ number < 10 := by omega
  rw [digitsAux, if_neg notSmall, digitsAux_append]

/-- Fuel makes no difference once there is a unit of it for every binary digit. -/
theorem digitsAux_fuel (fuel other number : Nat) (enough : number < 2 ^ (fuel + 1))
    (otherEnough : number < 2 ^ (other + 1)) :
    digitsAux (fuel + 1) number [] = digitsAux (other + 1) number [] := by
  induction fuel generalizing number other with
  | zero =>
      have small : number < 10 := by omega
      rw [digitsAux_of_lt small, digitsAux_of_lt small]
  | succ fuel induction =>
      by_cases small : number < 10
      · rw [digitsAux_of_lt small, digitsAux_of_lt small]
      · have large : 10 ≤ number := by omega
        -- A tenth has at least one binary digit less, so one unit of fuel less is enough.
        cases other with
        | zero => omega
        | succ other =>
            rw [Nat.pow_succ] at enough otherEnough
            rw [digitsAux_of_le large, digitsAux_of_le large,
              induction other (number / 10) (by omega) (by omega)]

theorem digits_of_lt {number : Nat} (small : number < 10) : digits number = [digitChar number] :=
  digitsAux_of_lt small _

theorem digits_of_le {number : Nat} (large : 10 ≤ number) :
    digits number = digits (number / 10) ++ [digitChar (number % 10)] := by
  have bound : number < 2 ^ (number.log2 + 1) := Nat.lt_log2_self
  have positive : number.log2 ≠ 0 := by
    intro none
    rw [none] at bound
    omega
  obtain ⟨fuel, fuelIs⟩ := Nat.exists_eq_succ_of_ne_zero positive
  rw [fuelIs, Nat.succ_eq_add_one, Nat.pow_succ] at bound
  rw [digits, digitsAux_of_le large, digits, fuelIs, Nat.succ_eq_add_one,
    digitsAux_fuel fuel (number / 10).log2 (number / 10) (by omega) Nat.lt_log2_self]

theorem digits_induction {motive : Nat → Prop} (one : ∀ digit, digit < 10 → motive digit)
    (more : ∀ number, 10 ≤ number → motive (number / 10) → motive number) (number : Nat) :
    motive number := by
  induction number using Nat.strongRecOn with
  | ind number induction =>
      by_cases small : number < 10
      · exact one number small
      · exact more number (by omega) (induction (number / 10) (by omega))

theorem lt_pow_length_digits (number : Nat) : number < 10 ^ (digits number).length := by
  induction number using digits_induction with
  | one digit small =>
      rw [digits_of_lt small]
      exact small
  | more number large induction =>
      rw [digits_of_le large, List.length_append, List.length_singleton, Nat.pow_succ]
      omega

theorem pow_length_digits_le {number : Nat} (positive : number ≠ 0) :
    10 ^ ((digits number).length - 1) ≤ number := by
  induction number using digits_induction with
  | one digit small =>
      rw [digits_of_lt small]
      exact Nat.pos_of_ne_zero positive
  | more number large induction =>
      have bound := induction (by omega)
      have written : (digits (number / 10)).length ≠ 0 := by
        intro none
        have small := lt_pow_length_digits (number / 10)
        rw [none] at small
        omega
      obtain ⟨length, isLength⟩ := Nat.exists_eq_succ_of_ne_zero written
      rw [isLength, Nat.succ_sub_one] at bound
      rw [digits_of_le large, List.length_append, List.length_singleton, isLength,
        Nat.add_sub_cancel, Nat.pow_succ]
      omega

theorem digits_ne_nil (number : Nat) : digits number ≠ [] := by
  induction number using digits_induction with
  | one digit small => simp [digits_of_lt small]
  | more number large induction => simp [digits_of_le large]

/-- A number other than zero does not begin with a zero. -/
theorem exists_first_digit {number : Nat} (positive : number ≠ 0) :
    ∃ c rest, digits number = c :: rest ∧ c ≠ '0' := by
  induction number using digits_induction with
  | one digit small =>
      have first : ∀ digit : Fin 10, digit.val ≠ 0 → digitChar digit ≠ '0' := by decide
      exact ⟨digitChar digit, [], digits_of_lt small, first ⟨digit, small⟩ positive⟩
  | more number large induction =>
      obtain ⟨c, rest, begins, notZero⟩ := induction (by omega)
      refine ⟨c, rest ++ [digitChar (number % 10)], ?_, notZero⟩
      rw [digits_of_le large, begins, List.cons_append]

theorem length_digits_le {number width : Nat} (small : number < 10 ^ width) (wide : 0 < width) :
    (digits number).length ≤ width := by
  by_cases zero : number = 0
  · rw [zero]
    exact wide
  · have least := pow_length_digits_le zero
    have fewer := (Nat.pow_lt_pow_iff_right (by decide)).mp (Nat.lt_of_le_of_lt least small)
    omega

theorem isDigit_digitChar : ∀ digit : Fin 10,
    isDigit (digitChar digit) = true ∧ digitValue (digitChar digit) = digit := by
  decide

theorem isDigit_of_mem_digits {number : Nat} {c : Char} (member : c ∈ digits number) :
    isDigit c = true := by
  induction number using digits_induction with
  | one digit small =>
      rw [digits_of_lt small, List.mem_singleton] at member
      rw [member]
      exact (isDigit_digitChar ⟨digit, small⟩).1
  | more number large induction =>
      rw [digits_of_le large] at member
      rcases List.mem_append.mp member with early | last
      · exact induction early
      · rw [List.mem_singleton.mp last]
        exact (isDigit_digitChar ⟨number % 10, by omega⟩).1

theorem ofDigits_concat (written : List Char) (c : Char) :
    ofDigits (written ++ [c]) = 10 * ofDigits written + digitValue c := by
  rw [ofDigits, List.foldl_append]
  rfl

theorem ofDigits_digits (number : Nat) : ofDigits (digits number) = number := by
  induction number using digits_induction with
  | one digit small =>
      rw [digits_of_lt small]
      have value := (isDigit_digitChar ⟨digit, small⟩).2
      simpa [ofDigits] using value
  | more number large induction =>
      have value : digitValue (digitChar (number % 10)) = number % 10 :=
        (isDigit_digitChar ⟨number % 10, by omega⟩).2
      rw [digits_of_le large, ofDigits_concat, induction, value]
      omega

theorem digits_injective : Function.Injective digits :=
  Function.LeftInverse.injective ofDigits_digits

end Telemetry.Decimal
