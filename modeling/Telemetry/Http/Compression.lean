import Telemetry.Gzip.Member
import Telemetry.Http.Message
import Telemetry.Text.Blank

namespace Telemetry.Http

open Telemetry

/-! Compressed responses. A client lists the encodings that it takes, each with a quality between
zero and one in thousandths. -/

/-- The thousandths that up to three digits behind the point mean. -/
def thousandths : Nat → List Char → Option Nat
  | _, [] => some 0
  | factor, digit :: digits =>
    if digit.isDigit && 0 < factor then
      (thousandths (factor / 10) digits).map ((digit.toNat - 0x30) * factor + ·)
    else none

def quality? : List Char → Option Nat
  | letter :: '=' :: whole :: rest =>
    if (letter = 'q' || letter = 'Q') && (whole = '0' || whole = '1') then
      let unit := if whole = '1' then 1000 else 0
      match rest with
      | [] => some unit
      | '.' :: digits =>
        (thousandths 100 digits).bind fun part =>
          if unit + part ≤ 1000 then some (unit + part) else none
      | _ => none
    else none
  | _ => none

inductive Encoding where
  | identity
  | gzip
  deriving DecidableEq, Repr

def Encoding.ofName? (name : String) : Option Encoding :=
  match lower name with
  | "gzip" => some .gzip
  | "x-gzip" => some .gzip
  | "identity" => some .identity
  | _ => none

/-- One entry of a list of encodings; unknown encodings and malformed qualities do not count. -/
def preference? (entry : List Char) : Option (Encoding × Nat) := do
  let name := Text.trimChars (entry.takeWhile (· ≠ ';'))
  let encoding ← Encoding.ofName? (String.ofList name)
  match entry.dropWhile (· ≠ ';') with
  | [] => return (encoding, 1000)
  | _ :: quality => return (encoding, ← quality? (Text.trimChars quality))

def preferences (request : Request) : List (Encoding × Nat) :=
  (request.headerTexts "accept-encoding").flatMap fun value =>
    (value.toList.splitOn ',').filterMap preference?

def bestQuality (encoding : Encoding) (preferences : List (Encoding × Nat)) : Nat :=
  ((preferences.filter fun each => each.1 = encoding).map Prod.snd).foldl max 0

/-- Whether the client takes compressed responses, and likes them no less than plain ones. -/
def Request.takesGzip (request : Request) : Bool :=
  let preferences := preferences request
  let quality := bestQuality .gzip preferences
  0 < quality && bestQuality .identity preferences ≤ quality

/-- Bodies below this size are not worth compressing. -/
def leastCompressed : Nat := 32

/-- Compresses a response that is long enough, if the client takes that. A response that could be
compressed says that it depends on what the client takes. -/
def Response.compressedFor (request : Request) (response : Response) : Response :=
  if response.body.length < leastCompressed then response
  else
    let response := response.addHeader "vary" "accept-encoding"
    if request.takesGzip then
      { response.addHeader "content-encoding" "gzip" with body := Gzip.compress response.body }
    else response

end Telemetry.Http
