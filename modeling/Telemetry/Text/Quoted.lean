import Telemetry.Text.Printable
import Telemetry.Hex

namespace Telemetry.Text

open Telemetry

/-! Texts between double quotes, as they appear in messages. Quotes, backslashes and the usual
controls are written with a backslash, code points without a visible form by their number. -/

def hexDigits : Nat → Nat → List Char → List Char
  | 0, _, tail => tail
  | fuel + 1, number, tail =>
    if number < 16 then Hex.digit number :: tail
    else hexDigits fuel (number / 16) (Hex.digit (number % 16) :: tail)

def byNumber (c : Char) : List Char :=
  "\\u\x7b".toList ++ hexDigits 8 c.toNat [] ++ ['\x7d']

/-- The form of one character; `apostrophe` says whether that takes a backslash too. -/
def quotedChar (apostrophe : Bool) (c : Char) : List Char :=
  if c = '\x00' then "\\0".toList
  else if c = '\t' then "\\t".toList
  else if c = '\r' then "\\r".toList
  else if c = '\n' then "\\n".toList
  else if c = '"' ∨ c = '\\' ∨ (apostrophe ∧ c = '\'') then ['\\', c]
  else if isExtending c ∨ ¬ isPrintable c then byNumber c
  else [c]

def quotedWith (apostrophe : Bool) (text : String) : String :=
  String.ofList ('"' :: text.toList.flatMap (quotedChar apostrophe) ++ ['"'])

/-- The quoted form of a text. -/
def quoted (text : String) : String := quotedWith false text

/-- The quoted form of a path, in which an apostrophe takes a backslash. -/
def quotedPath (path : String) : String := quotedWith true path

end Telemetry.Text
