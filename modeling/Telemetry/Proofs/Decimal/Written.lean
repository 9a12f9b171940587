import Telemetry.Decimal.Written
import Telemetry.Proofs.Decimal.Digits

namespace Telemetry.Decimal

open Telemetry

/-! What numerals are made of. None holds a colon, and an integer is told by its text. -/

theorem notMem_digits {c : Char} (other : isDigit c = false) (number : Nat) :
    c ∉ digits number := by
  intro member
  rw [isDigit_of_mem_digits member] at other
  cases other

theorem notMem_padded {c : Char} (other : isDigit c = false) (width number : Nat) :
    c ∉ padded width number := by
  intro member
  rcases List.mem_append.mp member with zero | digit
  · rw [List.eq_of_mem_replicate zero] at other
    cases other
  · exact notMem_digits other number digit

theorem mem_sign {x : Binary64} {c : Char} (member : c ∈ sign x) : c = '-' := by
  unfold sign at member
  split at member
  · exact List.mem_singleton.mp member
  · cases member

theorem colon_notMem_sign (x : Binary64) : ':' ∉ sign x := by
  intro member
  exact absurd (mem_sign member) (by decide)

theorem colon_notMem_special (x : Binary64) : ':' ∉ special x := by
  unfold special
  split
  · decide
  · rw [List.mem_append, not_or]
    exact ⟨colon_notMem_sign x, by decide⟩

theorem colon_notMem_sixPlacesChars (x : Binary64) : ':' ∉ sixPlacesChars x := by
  have other : isDigit ':' = false := by decide
  unfold sixPlacesChars
  split
  · rw [List.mem_append, List.mem_append, List.mem_cons, not_or, not_or, not_or]
    exact ⟨⟨colon_notMem_sign x, notMem_digits other _⟩, by decide, notMem_padded other _ _⟩
  · exact colon_notMem_special x

theorem colon_notMem_ofInt (number : Int) : ':' ∉ ofInt number := by
  have other : isDigit ':' = false := by decide
  unfold ofInt
  split
  · rw [List.mem_cons, not_or]
    exact ⟨by decide, notMem_digits other _⟩
  · exact notMem_digits other _

theorem ofInt_injective : Function.Injective ofInt := by
  have minus : isDigit '-' = false := by decide
  intro number other same
  unfold ofInt at same
  split at same
  · next negative =>
      split at same
      · next otherNegative =>
          have sameSize := digits_injective (List.cons.inj same).2
          omega
      · have member : '-' ∈ digits other.natAbs := same ▸ List.mem_cons_self
        exact absurd member (notMem_digits minus _)
  · next nonnegative =>
      split at same
      · have member : '-' ∈ digits number.natAbs := same ▸ List.mem_cons_self
        exact absurd member (notMem_digits minus _)
      · next otherNonnegative =>
          have sameSize := digits_injective same
          omega

theorem intText_injective : Function.Injective intText := by
  intro number other same
  exact ofInt_injective (String.ofList_injective same)

end Telemetry.Decimal
