import Telemetry.Decimal.Basic
import Telemetry.Hex
import Telemetry.Text.Quoted

namespace Telemetry

open Telemetry

/-! Internet addresses of both families, their text and the readers of it. -/

inductive Address where
  | v4 (bits : BitVec 32)
  | v6 (bits : BitVec 128)
  deriving DecidableEq, Repr

namespace Address

def width : Address → Nat
  | v4 _ => 32
  | v6 _ => 128

def ofOctets (a b c d : Nat) : BitVec 32 := BitVec.ofNat 32 (((a * 256 + b) * 256 + c) * 256 + d)

def loopback : Address := v4 (ofOctets 127 0 0 1)

def isLoopback : Address → Bool
  | v4 bits => bits.toNat >>> 24 = 127
  | v6 bits => bits.toNat = 1

def isUnspecified : Address → Bool
  | v4 bits => bits.toNat = 0
  | v6 bits => bits.toNat = 0

/-! Written form. -/

def octets (bits : BitVec 32) : List Nat :=
  [bits.toNat >>> 24, bits.toNat >>> 16 % 256, bits.toNat >>> 8 % 256, bits.toNat % 256]

def chars4 (bits : BitVec 32) : List Char :=
  ((octets bits).map Decimal.digits |>.intersperse ['.']).flatten

def groups (bits : BitVec 128) : List Nat :=
  (List.range 8).map fun index => bits.toNat >>> (112 - 16 * index) % 0x10000

def groupChars (groups : List Nat) : List Char :=
  ((groups.map fun group => Text.hexDigits 4 group []).intersperse [':']).flatten

def zeroRun (groups : List Nat) : Nat := (groups.takeWhile (· = 0)).length

/-- The start and the length of the first longest run of zeros. -/
def longestZeroRun (groups : List Nat) : Nat × Nat :=
  (List.range groups.length).foldl (fun (start, length) index =>
    let run := zeroRun (groups.drop index)
    if length < run then (index, run) else (start, length)) (0, 0)

/-- Groups in hexadecimal digits, the first longest run of at least two zeros left out; an address
that stands for one of the other family ends in that one. -/
def chars6 (bits : BitVec 128) : List Char :=
  if bits.toNat >>> 32 = 0xFFFF then
    "::ffff:".toList ++ chars4 (BitVec.ofNat 32 bits.toNat)
  else
    let groups := groups bits
    let (start, length) := longestZeroRun groups
    if 1 < length then
      groupChars (groups.take start) ++ ':' :: ':' :: groupChars (groups.drop (start + length))
    else groupChars groups

def text : Address → String
  | v4 bits => String.ofList (chars4 bits)
  | v6 bits => String.ofList (chars6 bits)

/-! Readers. Each answers what it read with the characters it left. -/

/-- One to three digits for a number below 256, without a needless zero in front. -/
def readOctet (written : List Char) : Option (Nat × List Char) :=
  let run := written.takeWhile Decimal.isDigit
  let number := Decimal.ofDigits run
  if run.isEmpty || 3 < run.length || 255 < number || (run.head? = some '0' && 1 < run.length) then
    none
  else some (number, written.dropWhile Decimal.isDigit)

def readDot : List Char → Option (List Char)
  | '.' :: rest => some rest
  | _ => none

def read4 (written : List Char) : Option (BitVec 32 × List Char) := do
  let (a, rest) ← readOctet written
  let (b, rest) ← readOctet (← readDot rest)
  let (c, rest) ← readOctet (← readDot rest)
  let (d, rest) ← readOctet (← readDot rest)
  return (ofOctets a b c d, rest)

def isHexDigit (c : Char) : Bool := (Hex.value? c).isSome

def readGroup (written : List Char) : Option (Nat × List Char) :=
  let run := written.takeWhile isHexDigit
  if run.isEmpty || 4 < run.length then none
  else some (run.foldl (fun n c => n * 16 + (Hex.value? c).getD 0) 0, written.dropWhile isHexDigit)

/-- Up to `limit` groups with colons between them, the last two of which may be written as an
address of the other family; also whether they are. -/
def readGroups (first : Bool) : Nat → List Char → List Nat × Bool × List Char
  | 0, written => ([], false, written)
  | limit + 1, written =>
    let start? := if first then some written else match written with
      | ':' :: rest => some rest
      | _ => none
    match start? with
    | none => ([], false, written)
    | some start =>
      match if 0 < limit then read4 start else none with
      | some (bits, rest) => ([bits.toNat >>> 16, bits.toNat % 0x10000], true, rest)
      | none =>
        match readGroup start with
        | none => ([], false, written)
        | some (group, rest) =>
          let (groups, embedded, rest) := readGroups false limit rest
          (group :: groups, embedded, rest)

def ofGroups (groups : List Nat) : BitVec 128 :=
  BitVec.ofNat 128 (groups.foldl (fun n group => n * 0x10000 + group) 0)

/-- Eight groups, or fewer with one double colon for the zeros left out. -/
def read6 (written : List Char) : Option (BitVec 128 × List Char) :=
  let (front, embedded, rest) := readGroups true 8 written
  if front.length = 8 then some (ofGroups front, rest)
  else if embedded then none
  else match rest with
    | ':' :: ':' :: rest =>
      let (back, _, rest) := readGroups true (7 - front.length) rest
      let zeros := List.replicate (8 - front.length - back.length) 0
      some (ofGroups (front ++ zeros ++ back), rest)
    | _ => none

/-- The address that a whole text writes. -/
def ofText? (text : String) : Option Address :=
  match read4 text.toList with
  | some (bits, []) => some (v4 bits)
  | _ => match read6 text.toList with
    | some (bits, []) => some (v6 bits)
    | _ => none

end Address

end Telemetry
