import Telemetry.Decimal.Basic

namespace Telemetry

/-! Spans of time, counted in nanoseconds, and their two written forms. -/

structure Duration where
  nanoseconds : Nat
  deriving DecidableEq, Repr

namespace Duration

open Decimal

def zero : Duration := ⟨0⟩
def nanosecondsPerSecond : Nat := 1000000000
def nanosecondsPerMillisecond : Nat := 1000000
def nanosecondsPerMicrosecond : Nat := 1000

def ofSeconds (count : Nat) : Duration := ⟨count * nanosecondsPerSecond⟩
def ofMilliseconds (count : Nat) : Duration := ⟨count * nanosecondsPerMillisecond⟩

def isZero (span : Duration) : Bool := span.nanoseconds = 0

def seconds (span : Duration) : Nat := span.nanoseconds / nanosecondsPerSecond

def fraction (span : Duration) : Nat := span.nanoseconds % nanosecondsPerSecond

def secondsPerMinute : Nat := 60
def secondsPerHour : Nat := 3600
def secondsPerDay : Nat := 86400
def secondsPerWeek : Nat := 604800
/-- The twelfth part of a year, 30.44 days. -/
def secondsPerMonth : Nat := 2630016
/-- A year of 365.25 days. -/
def secondsPerYear : Nat := 31557600

def amounts (span : Duration) : List (Nat × String) :=
  let plural (count : Nat) (name : String) := (count, if 1 < count then name ++ "s" else name)
  let inYear := span.seconds % secondsPerYear
  let inMonth := inYear % secondsPerMonth
  let inDay := inMonth % secondsPerDay
  [plural (span.seconds / secondsPerYear) "year",
    plural (inYear / secondsPerMonth) "month",
    plural (inMonth / secondsPerDay) "day",
    (inDay / secondsPerHour, "h"),
    (inDay % secondsPerHour / secondsPerMinute, "m"),
    (inDay % secondsPerMinute, "s"),
    (span.fraction / nanosecondsPerMillisecond, "ms"),
    (span.fraction / nanosecondsPerMicrosecond % 1000, "us"),
    (span.fraction % nanosecondsPerMicrosecond, "ns")]

/-- The amounts that are not zero, greatest unit first; an empty span is none of the seconds. -/
def text (span : Duration) : String :=
  if span.isZero then "0s"
  else " ".intercalate <|
    (span.amounts.filter fun (count, _) => count ≠ 0).map fun (count, unit) => natText count ++ unit

/-- A number of units with as many of the digits behind the point as are not zero at the end. -/
def decimalChars (whole fraction places : Nat) : List Char :=
  let written := (padded places fraction).reverse.dropWhile (· = '0')
  digits whole ++ if written.isEmpty then [] else '.' :: written.reverse

/-- One number in the greatest unit, from seconds down to nanoseconds, of which there is at least
one. -/
def compact (span : Duration) : String :=
  let fraction := span.fraction
  let (number, unit) :=
    if 0 < span.seconds then (decimalChars span.seconds fraction 9, "s")
    else if 1000000 ≤ fraction then (decimalChars (fraction / 1000000) (fraction % 1000000) 6, "ms")
    else if 1000 ≤ fraction then (decimalChars (fraction / 1000) (fraction % 1000) 3, "µs")
    else (digits fraction, "ns")
  String.ofList number ++ unit

end Duration

end Telemetry
