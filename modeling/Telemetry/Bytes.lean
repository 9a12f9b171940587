namespace Telemetry

/-! Octet strings. Every format of this library is read from and written to a list of octets; text
enters and leaves through UTF-8. -/

abbrev Bytes := List UInt8

namespace Bytes

def ofText (text : String) : Bytes := text.toUTF8.data.toList

/-- The text with this UTF-8 form, if the octets are well-formed UTF-8. -/
def toText? (bytes : Bytes) : Option String := String.fromUTF8? ⟨bytes.toArray⟩

@[simp] theorem toText?_ofText (text : String) : toText? (ofText text) = some text := by
  have sameBytes : (⟨(ofText text).toArray⟩ : ByteArray) = text.toByteArray := rfl
  unfold toText? String.fromUTF8?
  rw [sameBytes, dif_pos text.isValidUTF8]
  exact congrArg some (String.toByteArray_inj.mp rfl)

/-- The octets of a word, most significant first. -/
def ofWordBE (word : UInt32) : Bytes :=
  [(word >>> 24).toUInt8, (word >>> 16).toUInt8, (word >>> 8).toUInt8, word.toUInt8]

/-- The octets of a word, least significant first. -/
def ofWordLE (word : UInt32) : Bytes := (ofWordBE word).reverse

/-- The number with these base-256 digits, most significant first. -/
def toNatBE (bytes : Bytes) : Nat := bytes.foldl (fun total byte => total * 256 + byte.toNat) 0

/-- The `width` least significant base-256 digits of a number, most significant first. -/
def ofNatBE (width : Nat) (number : Nat) : Bytes :=
  match width with
  | 0 => []
  | width + 1 => ofNatBE width (number / 256) ++ [UInt8.ofNat (number % 256)]

@[simp] theorem length_ofNatBE (width number : Nat) : (ofNatBE width number).length = width := by
  induction width generalizing number with
  | zero => rfl
  | succ width induction => simp [ofNatBE, induction]

end Bytes

end Telemetry
