import Mathlib.Tactic.Common
import Telemetry.Hex

namespace Telemetry.Hex

open Telemetry

/-! Reading undoes writing for the digits of either case, and for nothing else. -/

/-- The characters of the first half of an octet, where all digits are. -/
theorem value?_ascii : ∀ point : Fin 128,
    (∀ nibble : Fin 16, value? (Char.ofNat point) = some nibble.val ↔
      (Char.ofNat point).toLower = digit nibble) ∧
      ∀ nibble ∈ value? (Char.ofNat point), nibble < 16 := by
  decide

theorem digit_ascii : ∀ nibble : Fin 16, (digit nibble).toNat < 128 := by
  decide

theorem toLower_of_le {c : Char} (beyond : 128 ≤ c.toNat) : c.toLower = c := by
  have notUpper : ¬ (c.val ≥ 'A'.val ∧ c.val ≤ 'Z'.val) := by
    rintro ⟨-, upper⟩
    have bound : c.toNat ≤ 90 := UInt32.le_iff_toNat_le.mp upper
    omega
  exact dif_neg notUpper

theorem value?_of_le {c : Char} (beyond : 128 ≤ c.toNat) : value? c = none := by
  have above : ∀ d : Char, d.toNat < 128 → ¬ c ≤ d := by
    intro d small below
    have bound : c.toNat ≤ d.toNat := UInt32.le_iff_toNat_le.mp below
    omega
  simp only [value?, above '9' (by decide), above 'f' (by decide), above 'F' (by decide), and_false,
    if_false]

/-- A character is read as the number whose digit it is, in one case or the other. -/
theorem value?_eq_some_iff {c : Char} {nibble : Nat} :
    value? c = some nibble ↔ nibble < 16 ∧ c.toLower = digit nibble := by
  by_cases ascii : c.toNat < 128
  · have known := value?_ascii ⟨c.toNat, ascii⟩
    rw [Char.ofNat_toNat] at known
    constructor
    · intro read
      have small := known.2 nibble read
      exact ⟨small, (known.1 ⟨nibble, small⟩).mp read⟩
    · rintro ⟨small, same⟩
      exact (known.1 ⟨nibble, small⟩).mpr same
  · have beyond : 128 ≤ c.toNat := Nat.le_of_not_lt ascii
    rw [value?_of_le beyond, toLower_of_le beyond]
    refine iff_of_false (by simp) ?_
    rintro ⟨small, rfl⟩
    exact ascii (digit_ascii ⟨nibble, small⟩)

theorem decodeChars_cons_cons {high low : Char} {written : List Char} {byte : UInt8}
    {bytes : Bytes} :
    decodeChars (high :: low :: written) = some (byte :: bytes) ↔
      value? high = some (byte.toNat / 16) ∧ value? low = some (byte.toNat % 16) ∧
        decodeChars written = some bytes := by
  have whole : 16 * (byte.toNat / 16) + byte.toNat % 16 = byte.toNat := Nat.div_add_mod _ _
  constructor
  · intro read
    simp only [decodeChars, bind, Option.bind_eq_some_iff, pure, Option.some.injEq,
      List.cons.injEq] at read
    obtain ⟨upper, isUpper, lower, isLower, rest, isRest, rfl, rfl⟩ := read
    have upperSmall := (value?_eq_some_iff.mp isUpper).1
    have lowerSmall := (value?_eq_some_iff.mp isLower).1
    have octet : (UInt8.ofNat (16 * upper + lower)).toNat = 16 * upper + lower :=
      UInt8.toNat_ofNat_of_lt' (show 16 * upper + lower < 256 by omega)
    refine ⟨?_, ?_, isRest⟩
    · rw [isUpper, octet]
      congr 1
      omega
    · rw [isLower, octet]
      congr 1
      omega
  · rintro ⟨isUpper, isLower, isRest⟩
    simp only [decodeChars, bind, Option.bind, pure, isUpper, isLower, isRest, whole,
      UInt8.ofNat_toNat]

theorem decodeChars_eq_some_iff {written : List Char} {bytes : Bytes} :
    decodeChars written = some bytes ↔ written.map Char.toLower = encodeChars bytes := by
  induction written using decodeChars.induct generalizing bytes with
  | case1 =>
      cases bytes with
      | nil => exact iff_of_true rfl rfl
      | cons byte bytes =>
          exact iff_of_false (by simp [decodeChars]) (by simp [encodeChars, digits])
  | case2 c =>
      cases bytes with
      | nil => exact iff_of_false (by simp [decodeChars]) (by simp [encodeChars])
      | cons byte bytes =>
          exact iff_of_false (by simp [decodeChars]) (by simp [encodeChars, digits])
  | case3 high low written induction =>
      cases bytes with
      | nil =>
          refine iff_of_false ?_ (by simp [encodeChars])
          simp [decodeChars, bind, Option.bind_eq_some_iff]
      | cons byte bytes =>
          have upperSmall : byte.toNat / 16 < 16 := by
            have := byte.toNat_lt
            omega
          have lowerSmall : byte.toNat % 16 < 16 := Nat.mod_lt _ (by decide)
          have written_eq : encodeChars (byte :: bytes) =
              digit (byte.toNat / 16) :: digit (byte.toNat % 16) :: encodeChars bytes := rfl
          rw [decodeChars_cons_cons, value?_eq_some_iff, value?_eq_some_iff, induction, written_eq,
            List.map_cons, List.map_cons, List.cons.injEq, List.cons.injEq,
            and_iff_right upperSmall, and_iff_right lowerSmall]

/-- A text is read as octets exactly if it is how they are written, up to the case of letters. -/
theorem decode_eq_some_iff {text : String} {bytes : Bytes} :
    decode text = some bytes ↔ text.toLower = encode bytes := by
  have lowered : text.toLower.toList = text.toList.map Char.toLower := String.toList_map
  rw [decode, decodeChars_eq_some_iff, encode, ← String.toList_inj, String.toList_ofList, lowered]

/-- Pairs of digits, of either case. -/
def IsPairs (text : String) : Prop :=
  text.length % 2 = 0 ∧ ∀ c ∈ text.toList, (value? c).isSome = true

instance (text : String) : Decidable (IsPairs text) :=
  inferInstanceAs (Decidable (_ ∧ _))

theorem isSome_decodeChars_cons_cons (high low : Char) (written : List Char) :
    (decodeChars (high :: low :: written)).isSome =
      ((value? high).isSome && (value? low).isSome && (decodeChars written).isSome) := by
  rw [decodeChars]
  cases value? high with
  | none => rfl
  | some upper =>
      cases value? low with
      | none => rfl
      | some lower =>
          cases decodeChars written with
          | none => rfl
          | some bytes => rfl

theorem isSome_decodeChars {written : List Char} :
    (decodeChars written).isSome = true ↔
      written.length % 2 = 0 ∧ ∀ c ∈ written, (value? c).isSome = true := by
  induction written using decodeChars.induct with
  | case1 => simp [decodeChars]
  | case2 c => simp [decodeChars]
  | case3 high low written induction =>
      have even : (high :: low :: written).length % 2 = written.length % 2 := by
        rw [List.length_cons, List.length_cons]
        omega
      rw [isSome_decodeChars_cons_cons, even, List.forall_mem_cons, List.forall_mem_cons,
        Bool.and_eq_true, Bool.and_eq_true, induction]
      tauto

theorem isSome_decode {text : String} : (decode text).isSome = true ↔ IsPairs text := by
  rw [decode, isSome_decodeChars, IsPairs, String.length_toList]

end Telemetry.Hex
