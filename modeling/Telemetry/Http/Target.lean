import Telemetry.Bytes

namespace Telemetry.Http.Target

open Telemetry

/-! Request targets: a path with or without a query, an asterisk, an authority alone, or all of a
scheme, an authority and a path. -/

def within (low high : Nat) (byte : UInt8) : Bool := low ≤ byte.toNat && byte.toNat ≤ high

def oneOf (characters : String) (byte : UInt8) : Bool :=
  characters.toList.any fun c => c.toNat = byte.toNat

def isLetter (byte : UInt8) : Bool := within 0x41 0x5A byte || within 0x61 0x7A byte
def isDigit (byte : UInt8) : Bool := within 0x30 0x39 byte

def isPathByte (byte : UInt8) : Bool :=
  within 0x21 0x22 byte || within 0x24 0x3B byte || byte = 0x3D || within 0x40 0x5F byte ||
    within 0x61 0xFF byte

def isQueryByte (byte : UInt8) : Bool :=
  byte = 0x21 || within 0x24 0x3B byte || byte = 0x3D || within 0x3F 0xFF byte

def isSchemeByte (byte : UInt8) : Bool := isLetter byte || isDigit byte || oneOf "+-." byte

def isAuthorityByte (byte : UInt8) : Bool :=
  isLetter byte || isDigit byte || oneOf "-._~:[]@!$&'()*+,;=" byte

def question : UInt8 := 0x3F
def hash : UInt8 := 0x23
def slash : UInt8 := 0x2F

/-- The path of a target that begins with one; what follows a question mark or a number sign is
checked and left out. -/
def path? (bytes : Bytes) : Option Bytes :=
  let path := bytes.takeWhile fun byte => byte ≠ question && byte ≠ hash
  let query := match bytes.drop path.length with
    | byte :: rest => if byte = question then rest.takeWhile (· ≠ hash) else []
    | [] => []
  if path.all isPathByte && query.all isQueryByte then some path else none

structure Scan where
  colons : Nat
  opened : Bool
  closed : Bool
  percent : Bool
  endsAtSign : Bool

def Scan.step (scan : Scan) (byte : UInt8) : Option Scan :=
  let scan := { scan with endsAtSign := false }
  if byte = 0x3A then
    if 8 ≤ scan.colons then none else some { scan with colons := scan.colons + 1 }
  else if byte = 0x5B then
    if scan.percent || scan.opened then none else some { scan with opened := true }
  else if byte = 0x5D then
    if !scan.opened || scan.closed then none
    else some { scan with closed := true, colons := 0, percent := false }
  else if byte = 0x40 then some { scan with endsAtSign := true, colons := 0, percent := false }
  else if byte = 0x25 then some { scan with percent := true }
  else if isAuthorityByte byte then some scan
  else none

def isAuthority (bytes : Bytes) : Bool :=
  match bytes.foldlM Scan.step ⟨0, false, false, false, false⟩ with
  | none => false
  | some scan =>
    scan.opened = scan.closed && scan.colons ≤ 1 && !scan.endsAtSign && !scan.percent

def lower (byte : UInt8) : UInt8 := if within 0x41 0x5A byte then byte + 0x20 else byte

def schemeLimit : Nat := 64

/-- The part behind the scheme and its two slashes, if there is a scheme; none if the scheme is too
long. -/
def scheme? (bytes : Bytes) : Option (Option Bytes) :=
  let scheme := bytes.takeWhile isSchemeByte
  match bytes.drop scheme.length with
  | 0x3A :: 0x2F :: 0x2F :: rest =>
    if bytes.length ≤ 3 then some none
    else if schemeLimit < scheme.length then none
    else some (some rest)
  | _ => some none

def lengthLimit : Nat := 65534

/-- The path that a target asks for; none if it is no target. An authority alone has an empty path,
and with a scheme an empty path means the root. -/
def parse (target : String) : Option String :=
  let bytes := Bytes.ofText target
  let asText (path : Bytes) : Option String := Bytes.toText? path
  if bytes.isEmpty || lengthLimit < bytes.length then none
  else if bytes = [0x2A] then some "*"
  else if bytes.head? = some slash then (path? bytes).bind asText
  else
    match scheme? bytes with
    | none => none
    | some rest =>
      let located := rest.getD bytes
      let authority := located.takeWhile fun byte =>
        byte ≠ slash && byte ≠ question && byte ≠ hash
      let behind := located.drop authority.length
      if !isAuthority authority then none
      else if rest.isNone then if behind.isEmpty then some "" else none
      else if authority.isEmpty then none
      else (path? behind).bind fun path => if path.isEmpty then some "/" else asText path

end Telemetry.Http.Target
