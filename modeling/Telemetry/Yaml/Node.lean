namespace Telemetry.Yaml

/-! Nodes of a document, and what a scalar says under the core schema. -/

inductive Style where
  | plain
  | literal
  | other
  deriving DecidableEq, Repr

structure Scalar where
  tag : Option String
  style : Style
  text : String
  deriving DecidableEq, Repr

inductive Node where
  | scalar (scalar : Scalar)
  | sequence (items : List Node)
  | mapping (entries : List (Node × Node))
  deriving Repr

namespace Scalar

def empty : Scalar := ⟨none, .plain, ""⟩

def coreTag (name : String) : String := "tag:yaml.org,2002:" ++ name

def isNullText (text : String) : Bool :=
  text = "" || text = "~" || text = "null" || text = "Null" || text = "NULL"

/-- Whether the scalar may stand for a value other than text: it is plain, or a literal block with
the tag of that kind of value. -/
def isUnquoted (scalar : Scalar) (kind : String) : Bool :=
  match scalar.style with
  | .plain => true
  | .literal => scalar.tag = some (coreTag kind)
  | .other => false

def boolean? (scalar : Scalar) : Option Bool :=
  if scalar.isUnquoted "bool" then
    if scalar.text ∈ ["true", "True", "TRUE"] then some true
    else if scalar.text ∈ ["false", "False", "FALSE"] then some false
    else none
  else none

def digit? (base : Nat) (c : Char) : Option Nat :=
  let value :=
    if '0' ≤ c ∧ c ≤ '9' then c.toNat - 48
    else if 'a' ≤ c ∧ c ≤ 'f' then c.toNat - 87
    else if 'A' ≤ c ∧ c ≤ 'F' then c.toNat - 55
    else base
  if value < base then some value else none

/-- The number that some digits write, at least one, of at most 64 bits. -/
def ofDigits? (base : Nat) (digits : List Char) : Option Nat :=
  if digits.isEmpty then none
  else do
    let number ← digits.foldlM (fun total c => (digit? base c).map (total * base + ·)) 0
    if number < 0x10000000000000000 then some number else none

def isDigit (c : Char) : Bool := '0' ≤ c ∧ c ≤ '9'

/-- An unsigned integer: decimal without needless zeros, or with a mark in base sixteen, eight or
two. -/
def natural? (scalar : Scalar) : Option Nat :=
  if scalar.isUnquoted "int" then
    let written := match scalar.text.toList with
      | '+' :: rest => rest
      | written => written
    match written with
    | '0' :: 'x' :: digits => ofDigits? 16 digits
    | '0' :: 'o' :: digits => ofDigits? 8 digits
    | '0' :: 'b' :: digits => ofDigits? 2 digits
    | '0' :: _ :: _ => none
    | digits => ofDigits? 10 digits
  else none

/-- Whether the scalar stands for an absent value; none if its tag promises that and it does not. -/
def isNull? (scalar : Scalar) : Option Bool :=
  match scalar.tag with
  | some tag =>
    if tag = coreTag "null" then if isNullText scalar.text then some true else none
    else some false
  | none => some (scalar.style = .plain && isNullText scalar.text)

/-- The name that a scalar, or a local tag in front of nothing, picks from an enumeration. -/
def choice? (scalar : Scalar) : Option String :=
  match scalar.tag.map String.toList with
  | some ('!' :: name) =>
    if scalar.style = .plain && isNullText scalar.text then some (String.ofList name) else none
  | _ => some scalar.text

end Scalar

namespace Node

def empty : Node := .scalar .empty

def scalar? : Node → Option Scalar
  | .scalar value => some value
  | _ => none

def text? (node : Node) : Option String := node.scalar?.map (·.text)

/-- The entries of a mapping; nothing at all stands for none. -/
def entries? : Node → Option (List (Node × Node))
  | .mapping entries => some entries
  | .scalar value => if value.style = .plain ∧ value.text = "" then some [] else none
  | .sequence _ => none

def withTag (tag : Option String) : Node → Node
  | .scalar value => .scalar { value with tag }
  | node => node

end Node

end Telemetry.Yaml
