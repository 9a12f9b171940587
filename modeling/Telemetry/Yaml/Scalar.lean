import Telemetry.Yaml.Cursor
import Telemetry.Json.Text

namespace Telemetry.Yaml

/-! The written forms of scalars: plain, in quotes, and as blocks of lines. -/

structure Reading where
  text : List Char
  style : Style
  cursor : Cursor

def Reading.node (reading : Reading) : Node :=
  .scalar ⟨none, reading.style, String.ofList reading.text⟩

def newlines (count : Nat) : List Char := List.replicate count '\n'

/-- What a run of line ends in running text comes to. -/
def folded (count : Nat) : List Char := if count = 1 then [' '] else newlines (count - 1)

/-! Plain scalars. -/

def isBracket (c : Char) : Bool := c ∈ [',', '[', ']', '\x7b', '\x7d']

def startsPlain (brackets : Bool) : List Char → Bool
  | [] => false
  | c :: rest =>
    if c = '-' then !rest.isEmpty && !atBreak rest
    else if c = '?' || c = ':' then !brackets && !atBreak rest
    else !isBlank c && c ≠ '\n' &&
      c ∉ [',', '[', ']', '\x7b', '\x7d', '#', '&', '*', '!', '|', '>', '\'', '"', '%', '@', '`']

/-- The characters of a plain scalar on one line, last first; `held` are the blanks behind them.
Inside brackets a colon in front of a bracket is refused. -/
def plainRun (brackets : Bool) (done held : List Char) :
    List Char → Option (List Char × List Char)
  | [] => some (done, held.reverse)
  | c :: rest =>
    let stop := some (done, held.reverse ++ c :: rest)
    if c = '\n' then stop
    else if isBlank c then plainRun brackets done (c :: held) rest
    else if c = '#' && !held.isEmpty then stop
    else if c = ':' && atBreak rest then stop
    else if brackets && isBracket c then stop
    else if brackets && c = ':' && (rest.head?.any fun next => isBracket next || next = '?') then
      none
    else plainRun brackets (c :: held ++ done) [] rest

/-- How many ends of lines there are in front of the next character other than a blank, and the
place of that. -/
def skipLines (count column : Nat) : List Char → Nat × Nat × List Char
  | [] => (count, column, [])
  | c :: rest =>
    if c = '\n' then skipLines (count + 1) 0 rest
    else if isBlank c then skipLines count (column + 1) rest
    else (count, column, c :: rest)

/-- The rest of a plain scalar: further lines that begin at column `floor` or later. -/
def plainRest (brackets : Bool) (floor : Nat) :
    Nat → List Char → Cursor → Option Reading
  | 0, _, _ => none
  | fuel + 1, done, cursor => do
    let (run, rest) ← plainRun brackets [] [] cursor.rest
    let done := run ++ done
    let cursor := cursor.moveTo rest (cursor.column + run.length)
    let (count, column, next) := skipLines 0 cursor.column rest
    let continues := 0 < count && !next.isEmpty && (brackets || floor ≤ column) &&
      !(column = 0 && atMarker next) && next.head? ≠ some '#' && !atIndicator ':' next &&
      !(brackets && next.head?.any isBracket)
    if continues then
      plainRest brackets floor fuel ((folded count).reverse ++ done) (cursor.moveTo next column)
    else some ⟨done.reverse, .plain, cursor⟩

def readPlain (brackets : Bool) (floor : Nat) (cursor : Cursor) : Option Reading :=
  plainRest brackets floor (cursor.rest.length + 1) [] cursor

/-! Scalars in quotes. -/

inductive Piece where
  | letter (c : Char)
  | blank (c : Char)
  | lineEnd
  /-- An end of line that is taken back. -/
  | joint

def Piece.ofChar (c : Char) : Piece :=
  if c = '\n' then .lineEnd else if isBlank c then .blank c else .letter c

/-- The line ends met since the last letter: whether they began with a joint, and how many follow
the first. -/
structure Gap where
  joined : Bool
  count : Nat

def Gap.chars (gap : Gap) : List Char :=
  if gap.joined then newlines gap.count else folded (gap.count + 1)

/-- The text of pieces: ends of lines are folded together with the blanks around them. -/
def foldPieces (held : List Char) (gap : Option Gap) : List Piece → List Char
  | [] => match gap with
    | some gap => gap.chars
    | none => held.reverse
  | piece :: pieces =>
    let before := match gap with
      | some gap => gap.chars
      | none => held.reverse
    match piece with
    | .letter c => before ++ c :: foldPieces [] none pieces
    | .joint => before ++ foldPieces [] (some ⟨true, 0⟩) pieces
    | .blank c =>
      match gap with
      | some _ => foldPieces [] gap pieces
      | none => foldPieces (c :: held) none pieces
    | .lineEnd =>
      match gap with
      | some gap => foldPieces [] (some { gap with count := gap.count + 1 }) pieces
      | none => foldPieces [] (some ⟨false, 0⟩) pieces

structure Quoted where
  pieces : List Piece
  column : Nat
  rest : List Char

/-- Between apostrophes only the apostrophe is special; two stand for one. -/
def singleQuoted : Nat → Nat → List Piece → List Char → Option Quoted
  | 0, _, _, _ => none
  | fuel + 1, column, done, text =>
    if column = 0 ∧ atMarker text then none
    else match text with
      | [] => none
      | '\'' :: '\'' :: rest => singleQuoted fuel (column + 2) (.letter '\'' :: done) rest
      | '\'' :: rest => some ⟨done.reverse, column + 1, rest⟩
      | c :: rest => singleQuoted fuel (if c = '\n' then 0 else column + 1) (.ofChar c :: done) rest

/-- The character that a letter behind a backslash stands for. -/
def escape? (c : Char) : Option Char :=
  [('0', '\x00'), ('a', '\x07'), ('b', '\x08'), ('t', '\t'), ('\t', '\t'), ('n', '\n'),
    ('v', '\x0b'), ('f', '\x0c'), ('r', '\r'), ('e', '\x1b'), (' ', ' '), ('"', '"'), ('/', '/'),
    ('\\', '\\'), ('N', '\u0085'), ('_', '\u00a0'), ('L', '\u2028'), ('P', '\u2029')].lookup c

def escapeWidth? (c : Char) : Option Nat := [('x', 2), ('u', 4), ('U', 8)].lookup c

/-- The code point that so many hexadecimal digits write. -/
def codePoint? (width : Nat) (text : List Char) : Option Char := do
  let digits := text.take width
  if digits.length < width then none
  else
    let point ← digits.foldlM (fun total c => (Hex.value? c).map (total * 16 + ·)) 0
    if point < 0xD800 ∨ (0xE000 ≤ point ∧ point < 0x110000) then some (Char.ofNat point) else none

def doubleQuoted : Nat → Nat → List Piece → List Char → Option Quoted
  | 0, _, _, _ => none
  | fuel + 1, column, done, text =>
    if column = 0 ∧ atMarker text then none
    else match text with
      | [] => none
      | '"' :: rest => some ⟨done.reverse, column + 1, rest⟩
      | '\\' :: '\n' :: rest => doubleQuoted fuel 0 (.joint :: done) rest
      | '\\' :: c :: rest =>
        match escape? c, escapeWidth? c with
        | some c, _ => doubleQuoted fuel (column + 2) (.letter c :: done) rest
        | none, some width => do
          let c ← codePoint? width rest
          doubleQuoted fuel (column + 2 + width) (.letter c :: done) (rest.drop width)
        | none, none => none
      | c :: rest => doubleQuoted fuel (if c = '\n' then 0 else column + 1) (.ofChar c :: done) rest

def readQuoted (mark : Char) (cursor : Cursor) : Option Reading := do
  let inside := cursor.advance 1
  let fuel := inside.rest.length + 1
  let quoted ← if mark = '"' then doubleQuoted fuel inside.column [] inside.rest
    else singleQuoted fuel inside.column [] inside.rest
  return ⟨foldPieces [] none quoted.pieces, .other, cursor.moveTo quoted.rest quoted.column⟩

/-! Blocks of lines. -/

/-- What becomes of the ends of the last lines. -/
inductive Chomping where
  | strip
  | clip
  | keep
  deriving DecidableEq

/-- The indicators of a block: its chomping and by how much it is indented, each at most once. -/
structure BlockHeader where
  chomping : Option Chomping
  increment : Option Nat

def readHeader : Nat → BlockHeader → List Char → Option (BlockHeader × List Char)
  | 0, _, _ => none
  | fuel + 1, header, c :: rest =>
    if (c = '+' || c = '-') && header.chomping.isNone then
      readHeader fuel { header with chomping := some (if c = '+' then .keep else .strip) } rest
    else if '1' ≤ c ∧ c ≤ '9' ∧ header.increment.isNone then
      readHeader fuel { header with increment := some (c.toNat - 48) } rest
    else if isBlank c || c = '\n' || c = '#' then some (header, c :: rest)
    else none
  | _, header, [] => some (header, [])

/-- The text behind the rest of a line that holds blanks and a comment at most. -/
def skipLineEnd (text : List Char) : Option (List Char) :=
  match text.dropWhile isBlank with
  | [] => some []
  | '\n' :: rest => some rest
  | '#' :: rest => some ((rest.dropWhile (· ≠ '\n')).drop 1)
  | _ => none

/-- How far the first line that is not blank is indented, but no less than any blank line before
it. -/
def detectIndent : Nat → Nat → List Char → Nat
  | 0, most, _ => most
  | fuel + 1, most, text =>
    let spaces := (text.takeWhile (· = ' ')).length
    match text.drop spaces with
    | '\n' :: rest => detectIndent fuel (max most spaces) rest
    | _ => max most spaces

/-- Blank lines with no more than the indent: how many, and the text behind the indent of the line
that follows, with its column. -/
def skipBlankLines (indent : Nat) : Nat → Nat → List Char → Nat × Nat × List Char
  | 0, count, text => (count, 0, text)
  | fuel + 1, count, text =>
    let spaces := min indent (text.takeWhile (· = ' ')).length
    match text.drop spaces with
    | '\n' :: rest => skipBlankLines indent fuel (count + 1) rest
    | rest => (count, spaces, rest)

/-- The lines of a block, put together. A line that begins with a blank is not folded. -/
structure BlockState where
  done : List Char
  lineEnd : Bool
  blanks : Nat
  indented : Bool

def BlockState.join (state : BlockState) (literal indented : Bool) : List Char :=
  if !literal && state.lineEnd && !state.indented && !indented then
    if state.blanks = 0 then [' '] else newlines state.blanks
  else newlines ((if state.lineEnd then 1 else 0) + state.blanks)

def blockLines (literal : Bool) (indent : Nat) :
    Nat → BlockState → Nat → List Char → BlockState × Nat × List Char
  | 0, state, column, text => (state, column, text)
  | fuel + 1, state, column, text =>
    if column = indent ∧ text ≠ [] then
      let indented := text.head?.any isBlank
      let line := text.takeWhile (· ≠ '\n')
      let rest := text.dropWhile (· ≠ '\n')
      let (blanks, column, next) := skipBlankLines indent (rest.length + 1) 0 (rest.drop 1)
      let done := line.reverse ++ (state.join literal indented).reverse ++ state.done
      blockLines literal indent fuel ⟨done, !rest.isEmpty, blanks, indented⟩ column next
    else (state, column, text)

/-- A block whose lines begin at column `floor` or later. -/
def readBlock (floor : Nat) (cursor : Cursor) : Option Reading := do
  let literal := cursor.rest.head? = some '|'
  let rest := cursor.rest.drop 1
  let (header, rest) ← readHeader (rest.length + 1) ⟨none, none⟩ rest
  let text ← skipLineEnd rest
  let indent := match header.increment with
    | some increment => floor - 1 + increment
    | none => max (max (detectIndent (text.length + 1) 0 text) floor) 1
  let (blanks, column, text) := skipBlankLines indent (text.length + 1) 0 text
  if text.head? = some '\t' ∧ column < indent then none
  else
    let (state, column, rest) :=
      blockLines literal indent (text.length + 1) ⟨[], false, blanks, false⟩ column text
    let lineEnd := if state.lineEnd then ['\n'] else []
    let ending := match header.chomping.getD .clip with
      | .strip => []
      | .clip => lineEnd
      | .keep => lineEnd ++ newlines state.blanks
    return {
      text := state.done.reverse ++ ending
      style := if literal then .literal else .other
      cursor := { cursor with rest, column, fresh := true } }

end Telemetry.Yaml
