import Telemetry.Base64

namespace Telemetry.Pem

open Telemetry

/-! Octets as text between a line that announces what they are and a line that closes them. Text may
stand before the first line; behind the last there is at most the end of the line. -/

def lineFeed : UInt8 := 0x0A
def carriageReturn : UInt8 := 0x0D

def skipLineEnd : Bytes → Option Bytes
  | byte :: rest =>
    if byte = carriageReturn then
      match rest with
      | next :: behind => some (if next = lineFeed then behind else rest)
      | [] => some rest
    else if byte = lineFeed then some rest
    else none
  | [] => none

/-- The octets, last first, in front of an end of line. -/
def dropLineEnd : Bytes → Option Bytes
  | byte :: rest =>
    if byte = lineFeed then
      match rest with
      | next :: before => some (if next = carriageReturn then before else rest)
      | [] => some rest
    else if byte = carriageReturn then some rest
    else none
  | [] => none

def skipStart : Bytes → Bytes → Option Bytes
  | [], bytes => some bytes
  | _ :: _, [] => none
  | a :: start, b :: bytes => if a = b then skipStart start bytes else none

def boundary : Bytes := Bytes.ofText "-----"
def opening : Bytes := Bytes.ofText "-----BEGIN "
def closing : Bytes := Bytes.ofText "-----END "

/-- The octets from the first line on that begins as an announcement. -/
def announced (atLineStart : Bool) : Bytes → Option Bytes
  | [] => none
  | byte :: rest =>
    if atLineStart && (skipStart opening (byte :: rest)).isSome then some (byte :: rest)
    else if byte = 0 then none
    else announced (byte = lineFeed) rest

def lineWidth : Nat := 64

/-- The characters of lines that are all, but for the last, of the same width. -/
def joinLines : Nat → Bytes → Option Bytes
  | 0, _ => none
  | fuel + 1, bytes =>
    if bytes.length ≤ lineWidth then some bytes
    else do
      let rest ← skipLineEnd (bytes.drop lineWidth)
      let rest ← joinLines fuel rest
      some (bytes.take lineWidth ++ rest)

/-- What a text holds, if it announces octets of the given kind. -/
def decode (label : String) (text : Bytes) : Option Bytes := do
  let label := Bytes.ofText label
  let text ← announced true text
  let text ← skipLineEnd (← skipStart (opening ++ label ++ boundary) text)
  let backward := text.reverse
  let backward := (dropLineEnd backward).getD backward
  let backward ← skipStart (closing ++ label ++ boundary).reverse backward
  let body := (← dropLineEnd backward).reverse
  if body.isEmpty then none
  else Base64.decode (← joinLines (body.length + 1) body)

end Telemetry.Pem
