import Telemetry.Yaml.Scalar

namespace Telemetry.Yaml

/-! Documents. Outside brackets the column where a line begins says what it belongs to. -/

structure Properties where
  tag : Option String
  anchor : Option String

def Properties.isEmpty (properties : Properties) : Bool :=
  properties.tag.isNone && properties.anchor.isNone

/-- Gives a node its tag and remembers it under its anchor. -/
def Properties.apply (properties : Properties) (node : Node) (cursor : Cursor) : Node × Cursor :=
  let node := match properties.tag with
    | some tag => node.withTag tag
    | none => node
  match properties.anchor with
  | some anchor => (node, { cursor with anchors := (anchor, node) :: cursor.anchors })
  | none => (node, cursor)

def isNameChar (c : Char) : Bool := c.isAlphanum || c = '_' || c = '-'

def readName (cursor : Cursor) : Option (String × Cursor) :=
  let name := (cursor.rest.drop 1).takeWhile isNameChar
  let after := cursor.advance (name.length + 1)
  let closed := atBreak after.rest || after.rest.head?.any fun c => c ∈ "?:,]\x7d%@\x60".toList
  if name.isEmpty || !closed then none else some (String.ofList name, after)

/-- The tag that a written one stands for. -/
def resolveTag (written : List Char) : Option String :=
  match written with
  | ['!'] => none
  | '!' :: '!' :: name => some (Scalar.coreTag (String.ofList name))
  | '!' :: '<' :: name => some (String.ofList (name.takeWhile (· ≠ '>')))
  | _ => some (String.ofList written)

def readProperties (brackets : Bool) : Nat → Properties → Cursor → Option (Properties × Cursor)
  | 0, properties, cursor => some (properties, cursor)
  | fuel + 1, properties, cursor =>
    let seek (cursor : Cursor) := if brackets then cursor.nextInside else cursor.next
    match cursor.rest with
    | '&' :: _ => do
      let (name, after) ← readName cursor
      let properties := { properties with anchor := some name }
      let next := seek after
      if next.fresh then some (properties, next) else readProperties brackets fuel properties next
    | '!' :: _ =>
      let written := cursor.rest.takeWhile fun c =>
        !isBlank c && c ≠ '\n' && !(brackets && isBracket c)
      let properties := { properties with tag := resolveTag written }
      let next := seek (cursor.advance written.length)
      if next.fresh then some (properties, next) else readProperties brackets fuel properties next
    | _ => some (properties, cursor)

def isSpread (start stop : Cursor) : Bool :=
  (start.rest.take (start.rest.length - stop.rest.length)).any (· = '\n')

def readAlias (cursor : Cursor) : Option (Node × Cursor) := do
  let (name, after) ← readName cursor
  let node ← cursor.anchors.lookup name
  return (node, after)

def readScalar (brackets : Bool) (floor : Nat) (cursor : Cursor) : Option (Node × Cursor) :=
  match cursor.rest with
  | [] => none
  | c :: _ => do
    if c = '*' then readAlias cursor
    else if c = '"' || c = '\'' then
      let reading ← readQuoted c cursor
      return (reading.node, reading.cursor)
    else if startsPlain brackets cursor.rest then
      let reading ← readPlain brackets floor cursor
      return (reading.node, reading.cursor)
    else none

def headIs (cursor : Cursor) (c : Char) : Bool := cursor.rest.head? = some c

/-- Whether a node inside brackets ends here. -/
def atSeparator (cursor : Cursor) : Bool :=
  cursor.rest.head?.any fun c => c = ',' || c = ']' || c = '\x7d' || c = ':'

mutual

/-- A node inside or between brackets. -/
def flowNode : Nat → Cursor → Option (Node × Cursor)
  | 0, _ => none
  | fuel + 1, cursor => do
    let (properties, cursor) ← readProperties true 2 ⟨none, none⟩ cursor
    if cursor.atEnd then none
    else if !properties.isEmpty && atSeparator cursor then return properties.apply .empty cursor
    else
      let (node, after) ←
        if headIs cursor '[' then flowItems fuel [] (cursor.advance 1).nextInside
        else if headIs cursor '\x7b' then flowEntries fuel [] (cursor.advance 1).nextInside
        else readScalar true 0 cursor
      return properties.apply node after

/-- The value behind a colon, if there is one. -/
def flowValue : Nat → Cursor → Option (Node × Cursor)
  | 0, _ => none
  | fuel + 1, cursor =>
    let next := (cursor.advance 1).nextInside
    if atSeparator next then some (.empty, next) else flowNode fuel next

/-- The items up to a closing bracket; `done` holds those already read, last first. A pair stands
for a mapping of its own. -/
def flowItems : Nat → List Node → Cursor → Option (Node × Cursor)
  | 0, _, _ => none
  | fuel + 1, done, cursor => do
    if headIs cursor ']' then return (.sequence done.reverse, cursor.advance 1)
    else
      let (item, after) ← flowNode fuel cursor
      let next := after.nextInside
      let (item, next) ←
        if headIs next ':' then
          if isSpread cursor next then none
          else do
            let (value, after) ← flowValue fuel next
            some (Node.mapping [(item, value)], after.nextInside)
        else some (item, next)
      if headIs next ',' then flowItems fuel (item :: done) (next.advance 1).nextInside
      else if headIs next ']' then flowItems fuel (item :: done) next
      else none

/-- The entries up to a closing brace; `done` holds those already read, last first. -/
def flowEntries : Nat → List (Node × Node) → Cursor → Option (Node × Cursor)
  | 0, _, _ => none
  | fuel + 1, done, cursor => do
    if headIs cursor '\x7d' then return (.mapping done.reverse, cursor.advance 1)
    else
      let explicit := atIndicator '?' cursor.rest
      let start := if explicit then (cursor.advance 1).nextInside else cursor
      let (key, after) ← if headIs start ':' then some (Node.empty, start) else flowNode fuel start
      let next := after.nextInside
      let (value, next) ←
        if headIs next ':' then
          if !explicit && isSpread start next then none
          else do
            let (value, after) ← flowValue fuel next
            some (value, after.nextInside)
        else some (Node.empty, next)
      if headIs next ',' then flowEntries fuel ((key, value) :: done) (next.advance 1).nextInside
      else if headIs next '\x7d' then flowEntries fuel ((key, value) :: done) next
      else none

end

/-- A node that may be a key: it is no block. -/
def readInline (floor : Nat) (cursor : Cursor) : Option (Node × Cursor) :=
  if headIs cursor '[' || headIs cursor '\x7b' then flowNode (4 * cursor.rest.length + 4) cursor
  else readScalar false floor cursor

/-- A key on one line with the place of the colon behind it. -/
def readKey (floor : Nat) (cursor : Cursor) : Option (Node × Cursor) := do
  let (properties, start) ← readProperties false 2 ⟨none, none⟩ cursor
  if start.atEnd || (start.fresh && !properties.isEmpty) then none
  else
    let (node, after) ← readInline floor start
    let (node, after) := properties.apply node after
    let after := after.skipBlanks
    if atIndicator ':' after.rest && !isSpread cursor after then some (node, after) else none

mutual

/-- A node outside brackets. Further lines of it begin at column `floor` or later; `opens` says
whether a block collection may begin here, and `level` whether its items may begin one column
before. -/
def blockNode : Nat → Nat → Bool → Bool → Cursor → Option (Node × Cursor)
  | 0, _, _, _, _ => none
  | fuel + 1, floor, level, opens, cursor => do
    let column := cursor.column
    if atIndicator '-' cursor.rest then
      if opens then blockItems fuel column false [] cursor else none
    else if atIndicator '?' cursor.rest || (readKey floor cursor).isSome then
      if opens then blockEntries fuel column [] cursor else none
    else
      let (properties, start) ← readProperties false 2 ⟨none, none⟩ cursor
      let (node, after) ←
        if !properties.isEmpty && (start.fresh || start.atEnd) then
          blockContent fuel floor level true start
        else if headIs start '|' || headIs start '>' then do
          let reading ← readBlock floor start
          some (reading.node, reading.cursor)
        else readInline floor start
      return properties.apply node after

def blockContent : Nat → Nat → Bool → Bool → Cursor → Option (Node × Cursor)
  | 0, _, _, _, _ => none
  | fuel + 1, floor, level, opens, cursor =>
    if cursor.atEnd then some (.empty, cursor)
    else if !cursor.fresh then blockNode fuel floor level opens cursor
    else if floor ≤ cursor.column then blockNode fuel floor level true cursor
    else if level && cursor.column + 1 = floor && atIndicator '-' cursor.rest then
      blockItems fuel cursor.column true [] cursor
    else some (.empty, cursor)

/-- The items that begin at a column; `done` holds those already read, last first. Items on the
level of the mapping they belong to end at its next key. -/
def blockItems : Nat → Nat → Bool → List Node → Cursor → Option (Node × Cursor)
  | 0, _, _, _, _ => none
  | fuel + 1, column, level, done, cursor => do
    let inside := cursor.advance 1
    let start := Cursor.seek false false false inside inside.rest
    let (item, after) ← blockContent fuel (column + 1) false true start
    let done := item :: done
    let next := after.next
    if next.atEnd then return (.sequence done.reverse, next)
    else if !next.fresh then none
    else if next.column = column ∧ atIndicator '-' next.rest then
      blockItems fuel column level done next
    else if next.column < column ∨ (level ∧ next.column = column) then
      return (.sequence done.reverse, next)
    else none

/-- The entries that begin at a column; `done` holds those already read, last first. -/
def blockEntries : Nat → Nat → List (Node × Node) → Cursor → Option (Node × Cursor)
  | 0, _, _, _ => none
  | fuel + 1, column, done, cursor => do
    let (key, value, after) ←
      if atIndicator '?' cursor.rest then do
        let inside := cursor.advance 1
        let start := Cursor.seek false false false inside inside.rest
        let (key, after) ← blockContent fuel (column + 1) true true start
        let next := after.next
        if next.fresh ∧ next.column = column ∧ atIndicator ':' next.rest then do
          let inside := next.advance 1
          let start := Cursor.seek false false false inside inside.rest
          let (value, after) ← blockContent fuel (column + 1) true true start
          some (key, value, after)
        else some (key, Node.empty, next)
      else do
        let (key, colon) ← readKey (column + 1) cursor
        let (value, after) ← blockContent fuel (column + 1) true false (colon.advance 1).next
        some (key, value, after)
    let done := (key, value) :: done
    let next := after.next
    if next.atEnd then return (.mapping done.reverse, next)
    else if !next.fresh then none
    else if next.column = column then blockEntries fuel column done next
    else if next.column < column then return (.mapping done.reverse, next)
    else none

end

def unifyLines : List Char → List Char
  | [] => []
  | '\r' :: '\n' :: rest => '\n' :: unifyLines rest
  | c :: rest => (if c = '\r' ∨ c = '\u0085' then '\n' else c) :: unifyLines rest

def isAllowed (c : Char) : Bool :=
  let point := c.toNat
  c = '\t' || c = '\n' || (0x20 ≤ point && point ≤ 0x7E) ||
    (0xA0 ≤ point && point ≠ 0xFEFF && point ≠ 0xFFFE && point ≠ 0xFFFF)

/-- The place behind the directives in front of a document; there may be one for the version. -/
def skipDirectives : Nat → Cursor → Option (Bool × Cursor)
  | 0, _ => none
  | fuel + 1, cursor =>
    if headIs cursor '%' ∧ cursor.column = 0 then
      let line := cursor.rest.takeWhile (· ≠ '\n')
      let words := (String.ofList line).splitOn " " |>.filter (· ≠ "")
      if words.head? = some "%TAG" ∨ words.take 2 = ["%YAML", "1.1"] ∨
          words.take 2 = ["%YAML", "1.2"] then
        (skipDirectives fuel (cursor.advance line.length).next).map fun (_, next) => (true, next)
      else none
    else some (false, cursor)

/-- Whether nothing but ends of documents follows. -/
def isFinished : Nat → Cursor → Bool
  | 0, _ => false
  | fuel + 1, cursor =>
    if cursor.rest.isEmpty then true
    else if cursor.column = 0 && cursor.rest.take 3 = ['.', '.', '.'] && atMarker cursor.rest then
      let next := (cursor.advance 3).next
      (next.fresh || next.rest.isEmpty) && isFinished fuel next
    else false

/-- Reads the only document of a text; a text without any is an empty one. -/
def decode (text : String) : Option Node := do
  let written := match text.toList with
    | '\ufeff' :: rest => rest
    | written => written
  let written := unifyLines written
  if !written.all isAllowed then none
  else
    let fuel := 8 * written.length + 16
    let start : Cursor := ⟨written, 0, true, []⟩
    let (directives, start) ← skipDirectives fuel start.next
    if start.rest.take 3 = ['-', '-', '-'] ∧ start.atEnd then
      let (node, after) ← blockContent fuel 0 false false (start.advance 3).next
      if isFinished fuel after.next then some node else none
    else if directives then none
    else
      let (node, after) ← blockContent fuel 0 false false start
      if isFinished fuel after.next then some node else none

end Telemetry.Yaml
