import Telemetry.Yaml.Node

namespace Telemetry.Yaml

/-! A place in a document, with what a reader has to know about it. -/

structure Cursor where
  rest : List Char
  column : Nat
  /-- Whether only blanks stand in front of the place on its line. -/
  fresh : Bool
  anchors : List (String × Node)

def isBlank (c : Char) : Bool := c = ' ' || c = '\t'

/-- Whether a word ends in front of this text. -/
def atBreak : List Char → Bool
  | [] => true
  | c :: _ => isBlank c || c = '\n'

/-- Whether the text begins with the indicator, and a word ends behind it. -/
def atIndicator (indicator : Char) : List Char → Bool
  | c :: rest => c = indicator && atBreak rest
  | [] => false

/-- Whether the text begins with a line that separates documents. -/
def atMarker : List Char → Bool
  | '-' :: '-' :: '-' :: rest => atBreak rest
  | '.' :: '.' :: '.' :: rest => atBreak rest
  | _ => false

namespace Cursor

def atEnd (cursor : Cursor) : Bool :=
  cursor.rest.isEmpty || (cursor.column = 0 && atMarker cursor.rest)

def advance (cursor : Cursor) (count : Nat) : Cursor :=
  { cursor with rest := cursor.rest.drop count, column := cursor.column + count, fresh := false }

def moveTo (cursor : Cursor) (rest : List Char) (column : Nat) : Cursor :=
  { cursor with rest, column, fresh := false }

/-- Moves over blanks, comments and ends of lines. Tabs count as blanks inside brackets and behind
the first word of a line. -/
def seek (brackets : Bool) : Bool → Bool → Cursor → List Char → Cursor
  | _, _, cursor, [] => { cursor with rest := [] }
  | tabs, comment, cursor, c :: rest =>
    if c = '\n' then seek brackets brackets false { cursor with column := 0, fresh := true } rest
    else if comment || c = ' ' || (c = '\t' && tabs) then
      seek brackets tabs comment { cursor with column := cursor.column + 1 } rest
    else if c = '#' then seek brackets tabs true cursor rest
    else { cursor with rest := c :: rest }

/-- The next place outside brackets where something stands. -/
def next (cursor : Cursor) : Cursor := seek false (!cursor.fresh) false cursor cursor.rest

/-- The next place inside brackets where something stands. -/
def nextInside (cursor : Cursor) : Cursor := seek true true false cursor cursor.rest

/-- The next place behind blanks of the same line. -/
def skipBlanks (cursor : Cursor) : Cursor :=
  cursor.advance (cursor.rest.takeWhile isBlank).length

end Cursor

end Telemetry.Yaml
