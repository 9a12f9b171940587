import Telemetry.Duration.Basic
import Telemetry.Decimal.Reader
import Telemetry.Text.Blank
import Telemetry.Text.Quoted

namespace Telemetry.Duration

open Telemetry Decimal

/-! Reading spans of time: numbers with units, added up. Blanks may stand anywhere but inside a
unit. A fraction must come to whole nanoseconds, from hours upward to whole seconds. -/

inductive Fault where
  | empty
  | numberExpected (offset : Nat)
  | invalidCharacter (offset : Nat)
  | unitMissing (number : Nat)
  | unknownUnit (unit : String)
  | outOfRange
  deriving DecidableEq, Repr

def Fault.message : Fault → String
  | .empty => "value was empty"
  | .numberExpected offset => "expected number at " ++ natText offset
  | .invalidCharacter offset => "invalid character at " ++ natText offset
  | .unitMissing number =>
    let number := natText number
    s!"time unit needed, for example {number}sec or {number}ms"
  | .unknownUnit unit =>
    let unit := Text.quoted unit
    s!"unknown time unit {unit}, supported units: ns, us/µs, ms, sec, min, hours, days, weeks, " ++
      "months, years (and few variations)"
  | .outOfRange => "number is too large or cannot be represented without a lack of precision " ++
      "(values below 1ns are not supported)"

def limit : Nat := 0xFFFFFFFFFFFFFFFF

def within (number : Nat) : Except Fault Nat :=
  if number ≤ limit then .ok number else .error .outOfRange

inductive TimeUnit where
  | nanosecond
  | microsecond
  | millisecond
  | second
  | minute
  | hour
  | day
  | week
  | month
  | year
  deriving DecidableEq, Repr

def TimeUnit.ofName? (name : String) : Option TimeUnit :=
  match name with
  | "nanos" | "nsec" | "ns" => some .nanosecond
  | "usec" | "us" | "µs" => some .microsecond
  | "millis" | "msec" | "ms" => some .millisecond
  | "seconds" | "second" | "secs" | "sec" | "s" => some .second
  | "minutes" | "minute" | "min" | "mins" | "m" => some .minute
  | "hours" | "hour" | "hr" | "hrs" | "h" => some .hour
  | "days" | "day" | "d" => some .day
  | "weeks" | "week" | "wk" | "wks" | "w" => some .week
  | "months" | "month" | "M" => some .month
  | "years" | "year" | "yr" | "yrs" | "y" => some .year
  | _ => none

/-- A number of `each` units of so many nanoseconds; both the number of units and the count of
`each` stay within the limit. -/
structure Scale where
  each : Nat
  nanoseconds : Nat

def TimeUnit.scale : TimeUnit → Scale
  | .nanosecond => ⟨1, 1⟩
  | .microsecond => ⟨1000, 1⟩
  | .millisecond => ⟨1000000, 1⟩
  | .second => ⟨1, nanosecondsPerSecond⟩
  | .minute => ⟨secondsPerMinute, nanosecondsPerSecond⟩
  | .hour => ⟨secondsPerHour, nanosecondsPerSecond⟩
  | .day => ⟨secondsPerDay, nanosecondsPerSecond⟩
  | .week => ⟨secondsPerWeek, nanosecondsPerSecond⟩
  | .month => ⟨secondsPerMonth, nanosecondsPerSecond⟩
  | .year => ⟨secondsPerYear, nanosecondsPerSecond⟩

/-- What a fraction of the unit is counted in; a nanosecond has no fraction. -/
def TimeUnit.fractionScale? : TimeUnit → Option Scale
  | .nanosecond => none
  | .second => some ⟨nanosecondsPerSecond, 1⟩
  | .minute => some ⟨secondsPerMinute * nanosecondsPerSecond, 1⟩
  | unit => some unit.scale

/-- A fraction as it was written: digits over a power of ten. -/
structure Fraction where
  numerator : Nat
  denominator : Nat
  deriving DecidableEq, Repr

/-- Adds so many spans of the same size. What is counted in nanoseconds is first added to those
beyond the whole seconds. -/
def addTo (total : Duration) (count size : Nat) : Except Fault Duration := do
  if size = 1 then
    let _ ← within (total.nanoseconds % nanosecondsPerSecond + count)
  let sum := total.nanoseconds + count * size
  let _ ← within (sum / nanosecondsPerSecond)
  return ⟨sum⟩

def addUnits (total : Duration) (number : Nat) (fraction : Option Fraction) (name : List Char) :
    Except Fault Duration := do
  let name := String.ofList name
  match TimeUnit.ofName? name with
  | none => .error (if name = "" then .unitMissing number else .unknownUnit name)
  | some unit =>
    let scale := unit.scale
    let total ← addTo total (← within (number * scale.each)) scale.nanoseconds
    match fraction with
    | none => return total
    | some fraction =>
      match unit.fractionScale? with
      | none => .error .outOfRange
      | some scale =>
        let product ← within (fraction.numerator * scale.each)
        if product % fraction.denominator = 0 then
          addTo total (product / fraction.denominator) scale.nanoseconds
        else .error .outOfRange

def isUnitLetter (c : Char) : Bool :=
  ('a' ≤ c && c ≤ 'z') || ('A' ≤ c && c ≤ 'Z') || c = 'µ'

structure Amount where
  number : Nat
  fraction : Option Fraction
  /-- The first letter of the unit, if it has one. -/
  unit : List Char
  offset : Nat
  rest : List Char

/-- The digits behind a point; there is at least one. A fault is said to be at `place`: where the
point stands, until something follows it. -/
def readFraction (number : Nat) (fraction : Fraction) (place offset : Nat) :
    List Char → Except Fault Amount
  | [] =>
    if fraction.denominator = 1 then .error (.invalidCharacter place)
    else .ok ⟨number, some fraction, [], offset, []⟩
  | c :: rest => do
    let next := offset + c.utf8Size
    if isDigit c then
      let numerator ← within (fraction.numerator * 10 + digitValue c)
      let denominator ← within (fraction.denominator * 10)
      readFraction number ⟨numerator, denominator⟩ next next rest
    else if Text.isBlank c then readFraction number fraction next next rest
    else if isUnitLetter c && fraction.denominator ≠ 1 then
      return ⟨number, some fraction, [c], next, rest⟩
    else .error (.invalidCharacter place)

def readAmount (number offset : Nat) : List Char → Except Fault Amount
  | [] => .ok ⟨number, none, [], offset, []⟩
  | c :: rest => do
    let next := offset + c.utf8Size
    if isDigit c then readAmount (← within (number * 10 + digitValue c)) next rest
    else if Text.isBlank c then readAmount number next rest
    else if isUnitLetter c then return ⟨number, none, [c], next, rest⟩
    else if c = '.' then readFraction number ⟨0, 1⟩ offset next rest
    else .error (.invalidCharacter offset)

def readUnit (unit : List Char) (offset : Nat) :
    List Char → Except Fault (List Char × Nat × List Char)
  | [] => .ok (unit.reverse, offset, [])
  | c :: rest =>
    if isUnitLetter c then readUnit (c :: unit) (offset + c.utf8Size) rest
    else if isDigit c then .ok (unit.reverse, offset, c :: rest)
    else if Text.isBlank c then .ok (unit.reverse, offset + c.utf8Size, rest)
    else .error (.invalidCharacter offset)

/-- Adds up numbers with units; the offset of a missing number is where the blanks in front of it
begin. -/
def readTotal : Nat → Duration → Nat → List Char → Except Fault Duration
  | 0, total, _, _ => .ok total
  | fuel + 1, total, offset, written => do
    let start := written.dropWhile Text.isBlank
    match start with
    | [] => return total
    | c :: rest =>
      if !isDigit c then .error (.numberExpected offset)
      else
        let blanks := (written.takeWhile Text.isBlank).foldl (fun n c => n + c.utf8Size) 0
        let amount ← readAmount (digitValue c) (offset + blanks + 1) rest
        let (unit, offset, rest) ← readUnit amount.unit amount.offset amount.rest
        let total ← addUnits total amount.number amount.fraction unit
        readTotal fuel total offset rest

/-- Reads numbers with units; there must be one, but nothing at all needs no unit. -/
def read (written : List Char) : Except Fault Duration :=
  if written = ['0'] then .ok zero
  else if written.all Text.isBlank then .error .empty
  else readTotal written.length zero 0 written

def readSeconds (text : String) : Except Fault Duration :=
  let trimmed := Text.trimChars text.toList
  match readNat? limit trimmed with
  | some count => .ok (ofSeconds count)
  | none => read trimmed

/-- The text of a fault in a span given on the command line. -/
def argumentFault (text : String) (fault : Fault) : String :=
  let text := Text.trim text
  let fault := fault.message
  s!"invalid duration '{text}': {fault}"

end Telemetry.Duration
