import Telemetry.Der
import Telemetry.Failure
import Telemetry.Pem

namespace Telemetry.Rsa

open Telemetry Der

/-! Keys and the texts they are read from. -/

structure PublicKey where
  modulus : Nat
  exponent : Nat
  deriving DecidableEq, Repr

structure PrivateKey where
  modulus : Nat
  exponent : Nat
  secret : Nat
  primes : List Nat
  deriving DecidableEq, Repr

def bitLimit : Nat := 4096
def exponentLimit : Nat := 0x200000000

def PublicKey.isSound (key : PublicKey) : Bool :=
  key.modulus.log2 < bitLimit && key.modulus % 2 = 1 && key.exponent < key.modulus &&
    key.exponent % 2 = 1 && 2 ≤ key.exponent && key.exponent < exponentLimit

def PrivateKey.toPublic (key : PrivateKey) : PublicKey := ⟨key.modulus, key.exponent⟩

/-- The primes multiply to the modulus, and raising to both exponents gives each number back. -/
def PrivateKey.isSound (key : PrivateKey) : Bool :=
  key.toPublic.isSound && key.primes.all (0 < ·) &&
    key.primes.foldl (· * ·) 1 = key.modulus &&
    key.primes.all fun prime => key.exponent * key.secret % (prime - 1) = 1

def PublicKey.size (key : PublicKey) : Nat := (key.modulus.log2 + 8) / 8

/-- The algorithm named beside a key: its identifier and a parameter that says nothing. -/
def algorithm : List Element :=
  [⟨identifierTag, [0x2A, 0x86, 0x48, 0x86, 0xF7, 0x0D, 0x01, 0x01, 0x01]⟩, ⟨nullTag, []⟩]

def PublicKey.ofNumbers (bytes : Bytes) : Option PublicKey := do
  match ← decodeSequence bytes with
  | [modulus, exponent] =>
    let key : PublicKey := ⟨← modulus.natural?, ← exponent.natural?⟩
    if key.isSound then some key else none
  | _ => none

/-- A key wrapped together with the name of its algorithm. -/
def PublicKey.ofInfo (bytes : Bytes) : Option PublicKey := do
  match ← decodeSequence bytes with
  | [name, key] =>
    if (← name.elements) = algorithm ∧ key.tag = bitStringTag then
      PublicKey.ofNumbers (← key.octets?)
    else none
  | _ => none

def PrivateKey.ofNumbers (bytes : Bytes) : Option PrivateKey := do
  match ← decodeSequence bytes with
  | [version, modulus, exponent, secret, first, second, firstRest, secondRest, coefficient] =>
    let _ ← firstRest.natural?
    let _ ← secondRest.natural?
    let _ ← coefficient.natural?
    let key : PrivateKey := ⟨← modulus.natural?, ← exponent.natural?, ← secret.natural?,
      [← first.natural?, ← second.natural?]⟩
    if (← version.natural?) = 0 ∧ key.isSound then some key else none
  | _ => none

/-- The element that carries a public key beside a private one. -/
def companion (element : Element) : Bool := element.tag &&& 0x1F = 1

/-- A key wrapped together with the name of its algorithm; a second version goes with a public key
beside it. -/
def PrivateKey.ofInfo (bytes : Bytes) : Option PrivateKey := do
  match ← decodeSequence bytes with
  | version :: name :: key :: rest =>
    let version ← version.natural?
    if (← name.elements) = algorithm ∧ key.tag = octetStringTag ∧ rest.all (·.isContextual) ∧
        version = (if rest.any companion then 1 else 0) then
      PrivateKey.ofNumbers (← key.octets?)
    else none
  | _ => none

def PublicKey.ofText? (text : String) : Option PublicKey :=
  let text := Bytes.ofText text
  ((Pem.decode "PUBLIC KEY" text).bind PublicKey.ofInfo) <|>
    ((Pem.decode "RSA PUBLIC KEY" text).bind PublicKey.ofNumbers)

def PrivateKey.ofText? (text : String) : Option PrivateKey :=
  let text := Bytes.ofText text
  ((Pem.decode "RSA PRIVATE KEY" text).bind PrivateKey.ofNumbers) <|>
    ((Pem.decode "PRIVATE KEY" text).bind PrivateKey.ofInfo)

def PublicKey.ofText (text : String) : Except Failure PublicKey :=
  match PublicKey.ofText? text with
  | some key => .ok key
  | none => .error (.crypto .publicKey)

def PrivateKey.ofText (text : String) : Except Failure PrivateKey :=
  match PrivateKey.ofText? text with
  | some key => .ok key
  | none => .error (.crypto .privateKey)

/-- The key in a file, given what reading the file answered. -/
def PublicKey.ofFile (path : String) (content : Except SystemError String) :
    Except Failure PublicKey :=
  match content with
  | .ok text => PublicKey.ofText text
  | .error cause => .error (.crypto (.publicKeyFile path cause))

def PrivateKey.ofFile (path : String) (content : Except SystemError String) :
    Except Failure PrivateKey :=
  match content with
  | .ok text => PrivateKey.ofText text
  | .error cause => .error (.crypto (.privateKeyFile path cause))

end Telemetry.Rsa
