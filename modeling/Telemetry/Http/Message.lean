import Telemetry.Http.Target

namespace Telemetry.Http

open Telemetry

/-! Requests and responses. -/

structure Request where
  method : String
  path : String
  /-- Names in lower case, with their values in order. -/
  headers : List (String × Bytes)
  body : Bytes
  deriving DecidableEq, Repr

structure Response where
  status : Nat
  headers : List (String × String)
  body : Bytes
  deriving DecidableEq, Repr

def isTokenByte (byte : UInt8) : Bool :=
  Target.isLetter byte || Target.isDigit byte || Target.oneOf "!#$%&'*+-.^_`|~" byte

def isToken (text : String) : Bool := !text.isEmpty && (Bytes.ofText text).all isTokenByte

def isValueByte (byte : UInt8) : Bool := (0x20 ≤ byte && byte ≠ 0x7F) || byte = 0x09

def isTextByte (byte : UInt8) : Bool := (0x20 ≤ byte && byte < 0x7F) || byte = 0x09

def lower (text : String) : String :=
  String.ofList (text.toList.map fun c => if c.isUpper then Char.ofNat (c.toNat + 0x20) else c)

namespace Request

/-- Puts a request together, if its parts are what a request may hold. -/
def ofParts? (method target : String) (headers : List (String × Bytes)) (body : Bytes) :
    Option Request := do
  let path ← Target.parse target
  if isToken method && headers.all fun (name, value) => isToken name && value.all isValueByte then
    some ⟨method, path, headers.map fun (name, value) => (lower name, value), body⟩
  else none

/-- The first value of a header, if it is text. -/
def header? (request : Request) (name : String) : Option String :=
  match request.headers.lookup name with
  | some value => if value.all isTextByte then Bytes.toText? value else none
  | none => none

def headerTexts (request : Request) (name : String) : List String :=
  request.headers.filterMap fun (each, value) =>
    if each = name && value.all isTextByte then Bytes.toText? value else none

end Request

namespace Response

def empty (status : Nat) : Response := ⟨status, [], []⟩

def withType (status : Nat) (contentType : String) (body : Bytes) : Response :=
  ⟨status, [("content-type", contentType)], body⟩

def json (status : Nat) (body : Bytes) : Response := withType status "application/json" body

def plain (status : Nat) (message : String) : Response :=
  withType status "text/plain; charset=utf-8" (Bytes.ofText message)

def header? (response : Response) (name : String) : Option String := response.headers.lookup name

/-- Adds a header that is not there yet. -/
def addHeader (response : Response) (name value : String) : Response :=
  if (response.header? name).isSome then response
  else { response with headers := response.headers ++ [(name, value)] }

def isSuccess (response : Response) : Bool := 200 ≤ response.status && response.status < 300

end Response

end Telemetry.Http
