import Telemetry.Bytes

namespace Telemetry.Der

open Telemetry

/-! Tagged values as octets: a tag, the length in the fewest octets, and the content. -/

structure Element where
  tag : UInt8
  content : Bytes
  deriving DecidableEq, Repr

def integerTag : UInt8 := 0x02
def bitStringTag : UInt8 := 0x03
def octetStringTag : UInt8 := 0x04
def nullTag : UInt8 := 0x05
def identifierTag : UInt8 := 0x06
def sequenceTag : UInt8 := 0x30

/-- Whether the tag gets its meaning from where it stands. -/
def Element.isContextual (element : Element) : Bool := element.tag &&& 0xC0 = 0x80

def readLength : Bytes → Option (Nat × Bytes)
  | [] => none
  | byte :: rest =>
    if byte < 0x80 then some (byte.toNat, rest)
    else
      let count := byte.toNat - 0x80
      let length := Bytes.toNatBE (rest.take count)
      let least := if count = 1 then 0x80 else Nat.pow 256 (count - 1)
      if 0 < count ∧ count ≤ 4 ∧ count ≤ rest.length ∧ least ≤ length then
        some (length, rest.drop count)
      else none

def readElement : Bytes → Option (Element × Bytes)
  | [] => none
  | tag :: rest => do
    let (length, rest) ← readLength rest
    if length ≤ rest.length then some (⟨tag, rest.take length⟩, rest.drop length) else none

def readElements : Nat → Bytes → Option (List Element)
  | 0, _ => none
  | fuel + 1, bytes =>
    if bytes.isEmpty then some []
    else do
      let (element, rest) ← readElement bytes
      let elements ← readElements fuel rest
      some (element :: elements)

/-- The elements of a sequence. -/
def Element.elements (element : Element) : Option (List Element) :=
  if element.tag = sequenceTag then readElements (element.content.length + 1) element.content
  else none

def decodeSequence (bytes : Bytes) : Option (List Element) := do
  let (element, rest) ← readElement bytes
  if rest.isEmpty then element.elements else none

/-- An integer that is not negative, in the fewest octets. -/
def Element.natural? (element : Element) : Option Nat :=
  if element.tag ≠ integerTag then none
  else match element.content with
    | [] => none
    | [byte] => if byte < 0x80 then some byte.toNat else none
    | byte :: next :: rest =>
      if 0x80 ≤ byte ∨ (byte = 0 ∧ next < 0x80) then none
      else some (Bytes.toNatBE (byte :: next :: rest))

/-- The octets of a string of whole octets. -/
def Element.octets? (element : Element) : Option Bytes :=
  if element.tag = octetStringTag then some element.content
  else if element.tag = bitStringTag then
    match element.content with
    | unused :: octets => if unused = 0 then some octets else none
    | [] => none
  else none

end Telemetry.Der
