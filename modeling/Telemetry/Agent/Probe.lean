import Telemetry.Decimal.Reader
import Telemetry.Disk
import Telemetry.Text.Blank

namespace Telemetry.Probe

open Telemetry

/-! Readings of a host: its memory, and the time that each core has been busy, which the kernel
counts in ticks. -/

structure Memory where
  total : UInt64
  free : UInt64
  deriving DecidableEq, Repr

def runtimeNames : List String :=
  ["ResidentMemory", "VirtualMemory", "RunTime", "ProcessCPUUsage", "DiskReadBytes",
    "DiskWrittenBytes"]

def millisecondsPerTick : UInt64 := 10

def saturatingSub (x y : UInt64) : UInt64 := if x < y then 0 else x - y

/-- The busy milliseconds in the columns of a core: user, nice, system, idle, waiting, interrupts,
soft interrupts and stolen time, without the fourth and the fifth. -/
def busyMilliseconds (columns : List UInt64) : UInt64 :=
  let total := (columns.take 8).foldl (· + ·) 0
  let idle := columns.getD 3 0 + columns.getD 4 0
  saturatingSub total idle * millisecondsPerTick

def sum? (x y : UInt64) : Option UInt64 :=
  if x.toNat + y.toNat < UInt64.size then some (x + y) else none

def difference? (x y : UInt64) : Option UInt64 :=
  if y.toNat ≤ x.toNat then some (x - y) else none

def product? (x y : UInt64) : Option UInt64 :=
  if x.toNat * y.toNat < UInt64.size then some (x * y) else none

/-- The busy milliseconds by operations that refuse to leave the machine's words, as they do where
arithmetic is checked. -/
def busyMilliseconds? (columns : List UInt64) : Option UInt64 := do
  let total ← (columns.take 8).foldlM sum? 0
  let idle ← sum? (columns.getD 3 0) (columns.getD 4 0)
  product? (← difference? total idle) millisecondsPerTick

/-- The columns of a line about one core: all numbers behind the core's name. -/
def coreColumns? (line : List Char) : Option (List UInt64) :=
  match Text.stripStart? "cpu".toList line with
  | some (digit :: rest) =>
    if digit.isDigit then
      some (((Text.words (digit :: rest)).drop 1).filterMap fun word =>
        Decimal.readUInt64? (String.ofList word))
    else none
  | _ => none

def leastColumns : Nat := 4

def readLine (line : List Char) : Except Failure (Option UInt64) :=
  match coreColumns? line with
  | none => .ok none
  | some columns =>
    if columns.length < leastColumns then .error (.io (.cpuLine (String.ofList line)))
    else .ok (some (busyMilliseconds columns))

/-- Whether reading a line breaks off where arithmetic is checked. -/
def breaksOff (line : List Char) : Bool :=
  match coreColumns? line with
  | none => false
  | some columns => leastColumns ≤ columns.length && (busyMilliseconds? columns).isNone

/-- Whether reading the kernel's statistics breaks off where arithmetic is checked: a line does, and
no line before it is refused. -/
def statisticsBreakOff (statistics : String) : Bool :=
  ((Text.lines statistics.toList).takeWhile fun line => (readLine line).isOk).any breaksOff

def readBusy (statistics : String) : Except Failure (List UInt64) := do
  let lines ← (Text.lines statistics.toList).mapM readLine
  match lines.filterMap id with
  | [] => .error (.io .noCpuLines)
  | cores => .ok cores

def statisticsPath : String := "/proc/stat"

/-- The busy milliseconds of each core, given what reading the kernel's statistics answered. -/
def busy (content : Except SystemError String) : Except Failure (List UInt64) :=
  match content with
  | .error cause => .error (.io (.statistics statisticsPath cause))
  | .ok statistics => readBusy statistics

end Telemetry.Probe
