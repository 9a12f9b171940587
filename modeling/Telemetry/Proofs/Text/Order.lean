import Telemetry.Proofs.Metric.Line

namespace Telemetry

open Telemetry

/-! Texts come in the order of their UTF-8 form, octet by octet. -/

namespace Bytes

theorem ofNat_cons_lt_iff {number other : Nat} (isOctet : number < 256) (isOtherOctet : other < 256)
    {bytes more : Bytes} :
    UInt8.ofNat number :: bytes < UInt8.ofNat other :: more ↔
      number < other ∨ number = other ∧ bytes < more := by
  rw [List.cons_lt_cons_iff, UInt8.lt_iff_toNat_lt, ← UInt8.toNat_inj, UInt8.toNat_ofNat',
    UInt8.toNat_ofNat', Nat.mod_eq_of_lt isOctet, Nat.mod_eq_of_lt isOtherOctet]

theorem utf8EncodeChar_lt {c d : Char} (before : c < d) (bytes more : Bytes) :
    String.utf8EncodeChar c ++ bytes < String.utf8EncodeChar d ++ more := by
  have less : c.val.toNat < d.val.toNat := UInt32.lt_iff_toNat_lt.mp before
  have bounded : d.val.toNat < 0x110000 := by
    rcases d.valid with low | high
    · exact low.trans (by decide)
    · exact high.2
  simp only [String.utf8EncodeChar]
  generalize c.val.toNat = code at less
  generalize d.val.toNat = other at less bounded
  have digits {number : Nat} (small : number < 0x110000) : number / 64 / 64 = number / 4096 ∧
      number / 4096 / 64 = number / 262144 ∧ number / 262144 / 8 = 0 :=
    ⟨Nat.div_div_eq_div_mul .., Nat.div_div_eq_div_mul .., by omega⟩
  have codeDigits := digits (less.trans bounded)
  have otherDigits := digits bounded
  -- More octets begin with a greater one; as many are compared as digits to the base 64.
  split <;> repeat' split
  all_goals
    simp (disch := omega) only [List.cons_append, ofNat_cons_lt_iff]
    omega

theorem ofChars_cons (c : Char) (chars : List Char) :
    ofChars (c :: chars) = String.utf8EncodeChar c ++ ofChars chars :=
  List.flatMap_cons

theorem ofChars_lt {chars others : List Char} (before : chars < others) :
    ofChars chars < ofChars others := by
  induction chars generalizing others with
  | nil =>
      cases others with
      | nil => exact absurd before (List.lt_irrefl _)
      | cons other others =>
          obtain ⟨octet, octets, encoded⟩ :=
            List.exists_cons_of_ne_nil (String.utf8EncodeChar_ne_nil (c := other))
          rw [ofChars_cons, encoded]
          exact List.nil_lt_cons _ _
  | cons c chars induction =>
      cases others with
      | nil => exact absurd before (List.not_lt_nil _)
      | cons other others =>
          rw [ofChars_cons, ofChars_cons]
          rcases List.cons_lt_cons_iff.mp before with earlier | ⟨rfl, laterBefore⟩
          · exact utf8EncodeChar_lt earlier _ _
          · exact List.append_left_lt (induction laterBefore)

theorem ofText_lt {text other : String} (before : text < other) : ofText text < ofText other := by
  rw [ofText_eq, ofText_eq]
  exact ofChars_lt (String.lt_iff.mp before)

end Bytes

end Telemetry
