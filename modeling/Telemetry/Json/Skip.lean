import Telemetry.Json.Text

namespace Telemetry.Json

open Telemetry

/-! Passing over a value of any shape. Only the form is looked at: numbers of any size, unpaired
surrogates, invalid UTF-8 inside strings and any depth pass. -/

inductive Frame where
  | list
  | object
  deriving DecidableEq, Repr

def Frame.close : Frame → UInt8
  | .list => ascii ']'
  | .object => ascii '}'

/-- What a value may be followed by, or what must come next. -/
inductive Expected where
  | value
  | firstOrClose (frame : Frame)
  | member
  | next
  deriving DecidableEq, Repr

def skipFraction (bytes : Bytes) : Except Fault Bytes :=
  if (bytes.takeWhile isDigit).isEmpty then .error .malformed else .ok (bytes.dropWhile isDigit)

def skipPower (bytes : Bytes) : Except Fault Bytes :=
  match bytes with
  | byte :: rest =>
    if byte = ascii '+' || byte = ascii '-' then skipFraction rest else skipFraction bytes
  | [] => .error .malformed

def skipNumber (bytes : Bytes) : Except Fault Bytes := do
  let rest ← match bytes with
    | byte :: rest =>
      if byte = ascii '0' then
        match rest with
        | next :: _ => if isDigit next then .error .malformed else .ok rest
        | [] => .ok rest
      else if isDigit byte then .ok (rest.dropWhile isDigit)
      else .error .malformed
    | [] => .error .malformed
  match rest with
  | byte :: after =>
    if byte = ascii '.' then
      match ← skipFraction after with
      | byte :: rest =>
        if byte = ascii 'e' || byte = ascii 'E' then skipPower rest else .ok (byte :: rest)
      | [] => .ok []
    else if byte = ascii 'e' || byte = ascii 'E' then skipPower after
    else .ok rest
  | [] => .ok []

/-- A value that opens no list or object, or the frame that it opens. -/
def skipScalar (byte : UInt8) (rest : Bytes) : Except Fault (Option Frame × Bytes) := do
  if byte = ascii '[' then return (some .list, rest)
  else if byte = ascii '\x7b' then return (some .object, rest)
  else if byte = quote then return (none, ← skipQuoted rest)
  else if byte = ascii 'n' then return (none, ← readName (Bytes.ofText "ull") rest)
  else if byte = ascii 't' then return (none, ← readName (Bytes.ofText "rue") rest)
  else if byte = ascii 'f' then return (none, ← readName (Bytes.ofText "alse") rest)
  else if byte = ascii '-' then return (none, ← skipNumber rest)
  else if isDigit byte then return (none, ← skipNumber (byte :: rest))
  else .error .malformed

/-- Passes over what is expected and closes all open frames. Every turn takes an octet or turns
from an opening to what it holds. -/
def skipFrames : Nat → Expected → List Frame → Bytes → Except Fault Bytes
  | 0, _, _, _ => .error .malformed
  | fuel + 1, expected, frames, bytes =>
    match expected, frames with
    | .next, [] => .ok bytes
    | expected, frames =>
      match skipSpace bytes with
      | [] => .error .unexpectedEnd
      | byte :: rest =>
        match expected with
        | .value => do
          match ← skipScalar byte rest with
          | (some frame, rest) => skipFrames fuel (.firstOrClose frame) (frame :: frames) rest
          | (none, rest) => skipFrames fuel .next frames rest
        | .firstOrClose frame =>
          if byte = frame.close then skipFrames fuel .next frames.tail rest
          else match frame with
            | .list => skipFrames fuel .value frames (byte :: rest)
            | .object => skipFrames fuel .member frames (byte :: rest)
        | .member => do
          if byte ≠ quote then .error .malformed
          else match skipSpace (← skipQuoted rest) with
            | [] => .error .unexpectedEnd
            | byte :: rest =>
              if byte = ascii ':' then skipFrames fuel .value frames rest else .error .malformed
        | .next =>
          match frames with
          | [] => .ok bytes
          | frame :: outer =>
            if byte = frame.close then skipFrames fuel .next outer rest
            else if byte = ascii ',' then
              match frame with
              | .list => skipFrames fuel .value frames rest
              | .object => skipFrames fuel .member frames rest
            else .error .malformed

def skipValue (bytes : Bytes) : Except Fault Bytes :=
  skipFrames (2 * bytes.length + 2) .value [] bytes

end Telemetry.Json
