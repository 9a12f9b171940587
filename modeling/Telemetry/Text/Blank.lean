namespace Telemetry.Text

/-! Blanks in the sense of Unicode, and texts without those at their ends. -/

def isBlank (c : Char) : Bool :=
  let point := c.toNat
  (0x09 ≤ point && point ≤ 0x0D) || point = 0x20 || point = 0x85 || point = 0xA0 ||
    point = 0x1680 || (0x2000 ≤ point && point ≤ 0x200A) || point = 0x2028 || point = 0x2029 ||
    point = 0x202F || point = 0x205F || point = 0x3000

def trimStartChars (text : List Char) : List Char := text.dropWhile isBlank

def trimChars (text : List Char) : List Char :=
  (trimStartChars (trimStartChars text).reverse).reverse

def trim (text : String) : String := String.ofList (trimChars text.toList)

def words (text : List Char) : List (List Char) :=
  (text.splitBy fun a b => isBlank a == isBlank b).filter fun piece => !piece.any isBlank

def trimEndOf (c : Char) (text : String) : String :=
  String.ofList ((text.toList.reverse.dropWhile (· = c)).reverse)

/-- The part of a text behind an initial segment. -/
def stripStart? (start text : List Char) : Option (List Char) :=
  match start, text with
  | [], text => some text
  | _ :: _, [] => none
  | c :: start, d :: text => if c = d then stripStart? start text else none

/-- The text without the copies of an initial segment that it starts with, at most `fuel` of
them. -/
def stripCopies (start : List Char) : Nat → List Char → List Char
  | 0, text => text
  | fuel + 1, text =>
    match stripStart? start text with
    | some rest => stripCopies start fuel rest
    | none => text

/-- The text without the copies of an initial segment that it starts with. -/
def trimStartsOf (start text : List Char) : List Char := stripCopies start text.length text

/-- The part of a text before the first occurrence of another, if there is one. -/
def before? (mark : List Char) : List Char → Option (List Char)
  | [] => if mark.isEmpty then some [] else none
  | c :: text =>
    if (stripStart? mark (c :: text)).isSome then some []
    else (before? mark text).map (c :: ·)

/-- The part before and the part behind the first occurrence of a character. -/
def splitOnce? (c : Char) (text : List Char) : Option (List Char × List Char) :=
  match text.dropWhile (· ≠ c) with
  | [] => none
  | _ :: rest => some (text.takeWhile (· ≠ c), rest)

/-- The pieces of a text between the occurrences of a character. -/
def pieces (c : Char) (text : String) : List String := (text.toList.splitOn c).map String.ofList

/-- The lines of a text whose current line starts with `begun`, last character first. -/
def linesFrom (begun : List Char) : List Char → List (List Char)
  | [] => if begun.isEmpty then [] else [begun.reverse]
  | c :: rest =>
    if c = '\n' then
      let line := match begun with
        | '\r' :: line => line
        | line => line
      line.reverse :: linesFrom [] rest
    else linesFrom (c :: begun) rest

/-- The lines of a text: a line feed ends one, a carriage return in front of it belongs to the end,
and a last line may lack its end. -/
def lines (text : List Char) : List (List Char) := linesFrom [] text

end Telemetry.Text
