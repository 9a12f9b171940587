import Telemetry.Agent.Probe
import Telemetry.Duration.Basic
import Telemetry.Metric.Basic

namespace Telemetry

open Telemetry

/-! Samples of the process and of the host, and the batch of metrics that they make up. -/

def pollCountName : String := "PollCount"
def randomName : String := "RandomValue"
def totalMemoryName : String := "TotalMemory"
def freeMemoryName : String := "FreeMemory"

/-- The name of a core's utilization; cores are numbered from one. -/
def utilizationName (core : Nat) : String := "CPUutilization" ++ Decimal.natText (core + 1)

structure Collector where
  /-- Samples taken and not yet delivered. -/
  pollCount : Int64
  runtime : List Metric
  host : List Metric
  busy : List UInt64
  /-- When they were read, or else when the collector was made. -/
  readAt : Duration
  deriving DecidableEq, Repr

namespace Collector

def start (cores : Except Failure (List UInt64)) (now : Duration) : Collector :=
  ⟨0, [], [], cores.toOption.getD [], now⟩

/-- The number of the next process sample, which is worked out once it has been counted. None is
left behind the greatest: where arithmetic is checked, a sample without a number breaks off. -/
def nextNumber? (collector : Collector) : Option Int64 :=
  if collector.pollCount = Int64.maxValue then none else some (collector.pollCount + 1)

/-- Takes in a process sample. It counts even if nothing could be read; the gauges are then kept.
The count wraps, also where the sample then breaks off for want of a number. -/
def sampleRuntime (collector : Collector)
    (statistics : Except Failure (List (String × Binary64))) : Collector :=
  let counted := { collector with pollCount := collector.pollCount + 1 }
  match statistics with
  | .ok readings => { counted with runtime := readings.map fun (name, value) => .gauge name value }
  | .error _ => counted

def milliseconds (span : Duration) : Binary64 :=
  let seconds := (Binary64.ofNat span.seconds).add
    ((Binary64.ofNat span.fraction).div (.ofNat Duration.nanosecondsPerSecond))
  seconds.mul (.ofNat 1000)

/-- The part of a span that a core was busy; a core that was not read before was not busy. -/
def utilization (before : Option UInt64) (now : UInt64) (elapsed : Duration) : Binary64 :=
  let spent := Probe.saturatingSub now (before.getD now)
  (Binary64.ofNat spent.toNat).div (milliseconds elapsed)

def memoryGauges (memory : Probe.Memory) : List Metric :=
  [.gauge totalMemoryName (.ofNat memory.total.toNat),
    .gauge freeMemoryName (.ofNat memory.free.toNat)]

/-- The utilization of each core since the last reading; none if no time has passed. -/
def utilizationGauges (collector : Collector) (cores : List UInt64) (now : Duration) :
    List Metric :=
  let elapsed : Duration := ⟨now.nanoseconds - collector.readAt.nanoseconds⟩
  if elapsed.isZero then []
  else cores.mapIdx fun core busy =>
    .gauge (utilizationName core) (utilization collector.busy[core]? busy elapsed)

/-- Takes in a host sample. What could not be read has no gauges until it is read again. -/
def sampleHost (collector : Collector) (memory : Except Failure Probe.Memory)
    (cores : Except Failure (List UInt64)) (now : Duration) : Collector :=
  let ofMemory := (memory.toOption.map memoryGauges).getD []
  match cores with
  | .error _ => { collector with host := ofMemory }
  | .ok cores =>
    { collector with
      host := ofMemory ++ collector.utilizationGauges cores now
      busy := cores
      readAt := now }

def batch (collector : Collector) (random : Binary64) : List Metric :=
  collector.runtime ++ .gauge randomName random :: collector.host ++
    [.counter pollCountName collector.pollCount]

/-- Takes delivered samples off the count. -/
def acknowledge (collector : Collector) (delivered : Int64) : Collector :=
  { collector with pollCount := collector.pollCount - delivered }

def sampleCount (batch : List Metric) : Int64 :=
  ((batch.find? fun metric => metric.id = pollCountName).bind (·.delta)).getD 0

end Collector

end Telemetry
