import Telemetry.Rsa.Key

namespace Telemetry.Rsa

open Telemetry

/-! Sealing one block. A message is filled up to the size of the key with octets other than zero, at
least eight of them, and the block is raised to the exponent as one number. -/

/-- A power modulo a number, by squaring. -/
def powerModulo (modulus : Nat) : Nat → Nat → Nat → Nat → Nat
  | 0, _, _, result => result
  | fuel + 1, base, exponent, result =>
    if exponent = 0 then result
    else
      let result := if exponent % 2 = 1 then result * base % modulus else result
      powerModulo modulus fuel (base * base % modulus) (exponent / 2) result

def power (modulus base exponent : Nat) : Nat :=
  powerModulo modulus (exponent.log2 + 1) (base % modulus) exponent (1 % modulus)

/-- So many octets other than zero, from the given ones as far as they go. -/
def padding (count : Nat) (filler : Bytes) : Bytes :=
  (filler.filter (· ≠ 0) ++ List.replicate count 0xFF).take count

/-- The octets of a block beside the message and its padding. -/
def overhead : Nat := 3

def leastPadding : Nat := 8

def pad (size : Nat) (filler message : Bytes) : Option Bytes :=
  if message.length + overhead + leastPadding ≤ size then
    some (0 :: 2 :: padding (size - message.length - overhead) filler ++ 0 :: message)
  else none

/-- The message in a block: what stands behind the first zero, with enough padding in front. -/
def unpad : Bytes → Option Bytes
  | first :: second :: rest =>
    match rest.dropWhile (· ≠ 0) with
    | [] => none
    | _ :: message =>
      if first = 0 ∧ second = 2 ∧ leastPadding ≤ (rest.takeWhile (· ≠ 0)).length then some message
      else none
  | _ => none

/-- Seals a message; `filler` are the random octets of the padding. -/
def PublicKey.encrypt (key : PublicKey) (filler message : Bytes) : Except Failure Bytes :=
  match pad key.size filler message with
  | none => .error (.crypto .messageTooLong)
  | some block =>
    .ok (Bytes.ofNatBE key.size (power key.modulus (Bytes.toNatBE block) key.exponent))

/-- Opens a sealed message. Zeros in front do not count. -/
def PrivateKey.decrypt (key : PrivateKey) (sealed : Bytes) : Except Failure Bytes :=
  let size := key.toPublic.size
  let digits := sealed.dropWhile (· = 0)
  let opened :=
    if size < digits.length then none
    else
      let number := Bytes.toNatBE digits
      if number < key.modulus then
        unpad (Bytes.ofNatBE size (power key.modulus number key.secret))
      else none
  match opened with
  | some message => .ok message
  | none => .error (.crypto .decryption)

end Telemetry.Rsa
