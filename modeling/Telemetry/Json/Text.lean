import Telemetry.Json.Basic
import Telemetry.Hex

namespace Telemetry.Json

open Telemetry

/-! Strings. Writing escapes the quote, the backslash and the control characters and nothing else;
reading takes every escape of JSON and wants well-formed UTF-8. -/

def quote : UInt8 := ascii '"'
def backslash : UInt8 := ascii '\\'

/-- The control characters with a letter of their own. -/
def shortEscape? (byte : UInt8) : Option UInt8 :=
  if byte = 0x08 then some (ascii 'b')
  else if byte = 0x09 then some (ascii 't')
  else if byte = 0x0A then some (ascii 'n')
  else if byte = 0x0C then some (ascii 'f')
  else if byte = 0x0D then some (ascii 'r')
  else none

def escape (byte : UInt8) : Bytes :=
  if byte = quote || byte = backslash then [backslash, byte]
  else if byte < 0x20 then
    match shortEscape? byte with
    | some letter => [backslash, letter]
    | none => [backslash, ascii 'u', ascii '0', ascii '0'] ++ (Hex.digits byte).map ascii
  else [byte]

def writeText (text : String) : Bytes :=
  quote :: (Bytes.ofText text).flatMap escape ++ [quote]

def unescape? (letter : UInt8) : Option UInt8 :=
  if letter = quote || letter = backslash || letter = ascii '/' then some letter
  else if letter = ascii 'b' then some 0x08
  else if letter = ascii 't' then some 0x09
  else if letter = ascii 'n' then some 0x0A
  else if letter = ascii 'f' then some 0x0C
  else if letter = ascii 'r' then some 0x0D
  else none

/-- The code unit that four hexadecimal digits write. -/
def codeUnit? (a b c d : UInt8) : Option Nat := do
  let a ← Hex.value? (Char.ofUInt8 a)
  let b ← Hex.value? (Char.ofUInt8 b)
  let c ← Hex.value? (Char.ofUInt8 c)
  let d ← Hex.value? (Char.ofUInt8 d)
  return ((a * 16 + b) * 16 + c) * 16 + d

def isHighSurrogate (unit : Nat) : Bool := 0xD800 ≤ unit && unit < 0xDC00
def isLowSurrogate (unit : Nat) : Bool := 0xDC00 ≤ unit && unit < 0xE000

def codePoint (unit : Nat) : Bytes := Bytes.ofText (String.singleton (Char.ofNat unit))

/-- The octets of a string up to its closing quote, escapes replaced; `done` holds those already
read, last first. A surrogate must come in a pair. -/
def unescaped (done : Bytes) : Bytes → Except Fault (Bytes × Bytes)
  | [] => .error .unexpectedEnd
  | byte :: rest =>
    if byte = quote then .ok (done.reverse, rest)
    else if byte = backslash then
      match rest with
      | [] => .error .unexpectedEnd
      | letter :: rest =>
        if letter = ascii 'u' then
          match rest with
          | a :: b :: c :: d :: rest =>
            match codeUnit? a b c d with
            | none => .error .malformed
            | some unit =>
              if isLowSurrogate unit then .error .malformed
              else if isHighSurrogate unit then
                match rest with
                | [] => .error .unexpectedEnd
                | mark :: rest =>
                  if mark ≠ backslash then .error .malformed
                  else match rest with
                    | [] => .error .unexpectedEnd
                    | letter :: rest =>
                      if letter ≠ ascii 'u' then .error .malformed
                      else match rest with
                        | a :: b :: c :: d :: rest =>
                          match codeUnit? a b c d with
                          | none => .error .malformed
                          | some low =>
                            if isLowSurrogate low then
                              let point := 0x10000 + (unit - 0xD800) * 0x400 + (low - 0xDC00)
                              unescaped ((codePoint point).reverse ++ done) rest
                            else .error .malformed
                        | _ => .error .unexpectedEnd
              else unescaped ((codePoint unit).reverse ++ done) rest
          | _ => .error .unexpectedEnd
        else match unescape? letter with
          | some byte => unescaped (byte :: done) rest
          | none => .error .malformed
    else if byte < 0x20 then .error .malformed
    else unescaped (byte :: done) rest

def readQuoted : Reader String := fun bytes => do
  let (content, rest) ← unescaped [] bytes
  match Bytes.toText? content with
  | some text => .ok (text, rest)
  | none => .error .malformed

/-- Passes over a string behind its opening quote, looking at the form of its escapes only. -/
def skipQuoted : Bytes → Except Fault Bytes
  | [] => .error .unexpectedEnd
  | byte :: rest =>
    if byte = quote then .ok rest
    else if byte = backslash then
      match rest with
      | [] => .error .unexpectedEnd
      | letter :: rest =>
        if letter = ascii 'u' then
          match rest with
          | a :: b :: c :: d :: rest =>
            if (codeUnit? a b c d).isSome then skipQuoted rest else .error .malformed
          | _ => .error .unexpectedEnd
        else if (unescape? letter).isSome then skipQuoted rest
        else .error .malformed
    else if byte < 0x20 then .error .malformed
    else skipQuoted rest

end Telemetry.Json
