import Telemetry.Metric.Sum
import Telemetry.Proofs.Agent.Collector
import Telemetry.Proofs.Agent.Utilization

namespace Telemetry.Collector

open Telemetry

/-! A batch is made of the last samples, whatever came before them: of statistics the last that were
read, of the host what the last sample read, and of the cores how busy they were since they were
read before. -/

structure HostSample where
  memory : Except Failure Probe.Memory
  cores : Except Failure (List UInt64)
  now : Duration

/-- What is done with a collector, with what its probe answers. -/
inductive Call where
  | sampleRuntime (statistics : Except Failure (List (String × Binary64)))
  | sampleHost (sample : HostSample)
  | acknowledge (delivered : Int64)

namespace Call

def apply (collector : Collector) : Call → Collector
  | .sampleRuntime statistics => collector.sampleRuntime statistics
  | .sampleHost sample => collector.sampleHost sample.memory sample.cores sample.now
  | .acknowledge delivered => collector.acknowledge delivered

def statistics? : Call → Option (List (String × Binary64))
  | .sampleRuntime (.ok readings) => some readings
  | _ => none

def hostSample? : Call → Option HostSample
  | .sampleHost sample => some sample
  | _ => none

/-- How long each core had been busy, and when that was read. -/
def busy? : Call → Option (List UInt64 × Duration)
  | .sampleHost ⟨_, .ok cores, now⟩ => some (cores, now)
  | _ => none

def samples : Call → Int
  | .sampleRuntime _ => 1
  | _ => 0

def delivered : Call → Int
  | .acknowledge delivered => delivered.toInt
  | _ => 0

variable {α : Type} {tells : Call → Option α} {calls : List Call} {call : Call}

/-- The last thing that calls tell, with the calls before. -/
def last? (tells : Call → Option α) : List Call → Option (List Call × α)
  | [] => none
  | call :: calls =>
    match last? tells calls with
    | some (earlier, told) => some (call :: earlier, told)
    | none => (tells call).map fun told => ([], told)

theorem last?_concat_of_none (calls : List Call) (silent : tells call = none) :
    last? tells (calls ++ [call]) = last? tells calls := by
  induction calls with
  | nil => simp [last?, silent]
  | cons first calls induction => rw [List.cons_append, last?, induction, last?]

theorem last?_concat_of_some {told : α} (calls : List Call) (speaks : tells call = some told) :
    last? tells (calls ++ [call]) = some (calls, told) := by
  induction calls with
  | nil => simp [last?, speaks]
  | cons first calls induction => rw [List.cons_append, last?, induction]

theorem last?_append_of_none {later : List Call} (calls : List Call)
    (silent : ∀ call ∈ later, tells call = none) :
    last? tells (calls ++ later) = last? tells calls := by
  induction later using List.reverseRecOn with
  | nil => rw [List.append_nil]
  | append_singleton later call induction =>
      rw [← List.append_assoc, last?_concat_of_none _ (silent call (by simp))]
      exact induction fun other member => silent other (List.mem_append_left _ member)

theorem last?_eq_some_iff {earlier : List Call} {told : α} :
    last? tells calls = some (earlier, told) ↔ ∃ call later, calls = earlier ++ call :: later ∧
      tells call = some told ∧ ∀ other ∈ later, tells other = none := by
  constructor
  · intro isLast
    induction calls using List.reverseRecOn with
    | nil => cases isLast
    | append_singleton calls call induction =>
        cases speaks : tells call with
        | some content =>
            rw [last?_concat_of_some calls speaks] at isLast
            obtain ⟨rfl, rfl⟩ := Prod.mk.inj (Option.some.inj isLast)
            exact ⟨call, [], rfl, speaks, by simp⟩
        | none =>
            rw [last?_concat_of_none calls speaks] at isLast
            obtain ⟨last, later, rfl, speaking, silent⟩ := induction isLast
            refine ⟨last, later ++ [call], by simp, speaking, fun other member => ?_⟩
            rcases List.mem_append.mp member with before | isCall
            · exact silent other before
            · rw [List.mem_singleton.mp isCall, speaks]
  · rintro ⟨call, later, rfl, speaks, silent⟩
    have split : earlier ++ call :: later = earlier ++ [call] ++ later := by simp
    rw [split, last?_append_of_none _ silent, last?_concat_of_some earlier speaks]

/-- Samples less those delivered. -/
def balance (calls : List Call) : Int :=
  (calls.map samples).sum - (calls.map delivered).sum

theorem balance_concat (calls : List Call) (call : Call) :
    balance (calls ++ [call]) = balance calls + call.samples - call.delivered := by
  simp only [balance, List.map_append, List.sum_append, List.map_singleton, List.sum_singleton]
  omega

end Call

/-- The collector after these calls; `first` is what was read of the cores when it was made. -/
def after (first : Except Failure (List UInt64)) (startedAt : Duration) (calls : List Call) :
    Collector :=
  calls.foldl Call.apply (start first startedAt)

/-- What the next reading of the cores is compared with: the last one, be it the first. -/
def baseline (first : Except Failure (List UInt64)) (startedAt : Duration) (calls : List Call) :
    List UInt64 × Duration :=
  match Call.last? Call.busy? calls with
  | some (_, reading) => reading
  | none => (first.toOption.getD [], startedAt)

/-- The gauges of the statistics that were read last. -/
def runtimeGauges (calls : List Call) : List Metric :=
  match Call.last? Call.statistics? calls with
  | some (_, readings) => readings.map fun (name, value) => Metric.gauge name value
  | none => []

/-- The gauges of the memory are there if it was read. -/
structure IsOfMemory (memory : Except Failure Probe.Memory) (gauges : List Metric) : Prop where
  unread : ∀ failure, memory = .error failure → gauges = []
  read : ∀ known, memory = .ok known →
    gauges = [.gauge totalMemoryName (.ofNat known.total.toNat),
      .gauge freeMemoryName (.ofNat known.free.toNat)]

/-- There is a gauge for each core if the cores were read and time has passed since. -/
structure IsOfCores (before : List UInt64 × Duration) (cores : Except Failure (List UInt64))
    (now : Duration) (gauges : List Metric) : Prop where
  unread : ∀ failure, cores = .error failure → gauges = []
  still : now.nanoseconds ≤ before.2.nanoseconds → gauges = []
  read : ∀ known, cores = .ok known → before.2.nanoseconds < now.nanoseconds →
    gauges.length = known.length ∧ ∀ core busy, known[core]? = some busy →
      ∃ utilization, gauges[core]? = some (Metric.gauge (utilizationName core) utilization) ∧
        IsUtilization before.1[core]? busy ⟨now.nanoseconds - before.2.nanoseconds⟩ utilization

/-- The gauges of the host are those of its last sample. -/
structure IsOfHost (first : Except Failure (List UInt64)) (startedAt : Duration)
    (calls : List Call) (ofMemory ofCores : List Metric) : Prop where
  unsampled : Call.last? Call.hostSample? calls = none → ofMemory = [] ∧ ofCores = []
  sampled : ∀ earlier sample, Call.last? Call.hostSample? calls = some (earlier, sample) →
    IsOfMemory sample.memory ofMemory ∧
      IsOfCores (baseline first startedAt earlier) sample.cores sample.now ofCores

theorem isOfMemory_memoryGauges (memory : Except Failure Probe.Memory) :
    IsOfMemory memory ((memory.toOption.map memoryGauges).getD []) := by
  cases memory with
  | error failure => exact ⟨fun _ _ => rfl, fun known read => (by cases read)⟩
  | ok memory =>
      refine ⟨fun failure unread => (by cases unread), fun known read => ?_⟩
      rw [Except.ok.inj read]
      rfl

theorem isOfCores_utilizationGauges (collector : Collector) (cores : List UInt64)
    (now : Duration) :
    IsOfCores (collector.busy, collector.readAt) (.ok cores) now
      (collector.utilizationGauges cores now) := by
  refine ⟨fun failure unread => (by cases unread), fun still => ?_, fun known read later => ?_⟩
  · have none : Duration.isZero ⟨now.nanoseconds - collector.readAt.nanoseconds⟩ = true :=
      decide_eq_true (Nat.sub_eq_zero_of_le still)
    rw [utilizationGauges, if_pos none]
  · obtain rfl := Except.ok.inj read
    have passed : Duration.isZero ⟨now.nanoseconds - collector.readAt.nanoseconds⟩ = false :=
      decide_eq_false (Nat.sub_ne_zero_of_lt later)
    rw [utilizationGauges, if_neg (by rw [passed]; exact Bool.false_ne_true)]
    refine ⟨List.length_mapIdx, fun core busy found => ?_⟩
    refine ⟨_, ?_, isUtilization_utilization collector.busy[core]? busy passed⟩
    rw [List.getElem?_mapIdx, found]
    rfl

/-- A collector that these calls brought to what it holds. -/
structure Follows (first : Except Failure (List UInt64)) (startedAt : Duration)
    (calls : List Call) (collector : Collector) : Prop where
  pollCount : collector.pollCount = Int64.ofInt (Call.balance calls)
  runtime : collector.runtime = runtimeGauges calls
  baseline : baseline first startedAt calls = (collector.busy, collector.readAt)
  host : ∃ ofMemory ofCores, collector.host = ofMemory ++ ofCores ∧
    IsOfHost first startedAt calls ofMemory ofCores

section

variable {first : Except Failure (List UInt64)} {startedAt : Duration} {calls : List Call}
  {call : Call} {collector : Collector}

theorem runtimeGauges_concat_of_none (silent : call.statistics? = none) :
    runtimeGauges (calls ++ [call]) = runtimeGauges calls := by
  rw [runtimeGauges, Call.last?_concat_of_none calls silent, runtimeGauges]

theorem runtimeGauges_concat_of_some {readings : List (String × Binary64)}
    (speaks : call.statistics? = some readings) :
    runtimeGauges (calls ++ [call]) = readings.map fun (name, value) => .gauge name value := by
  rw [runtimeGauges, Call.last?_concat_of_some calls speaks]

theorem baseline_concat_of_none (silent : call.busy? = none) :
    baseline first startedAt (calls ++ [call]) = baseline first startedAt calls := by
  rw [baseline, Call.last?_concat_of_none calls silent, baseline]

theorem baseline_concat_of_some {reading : List UInt64 × Duration}
    (speaks : call.busy? = some reading) :
    baseline first startedAt (calls ++ [call]) = reading := by
  rw [baseline, Call.last?_concat_of_some calls speaks]

theorem IsOfHost.concat_of_none {ofMemory ofCores : List Metric}
    (isOfHost : IsOfHost first startedAt calls ofMemory ofCores)
    (silent : call.hostSample? = none) :
    IsOfHost first startedAt (calls ++ [call]) ofMemory ofCores := by
  constructor
  · rw [Call.last?_concat_of_none calls silent]
    exact isOfHost.unsampled
  · rw [Call.last?_concat_of_none calls silent]
    exact isOfHost.sampled

theorem isOfHost_concat_of_some {sample : HostSample} {ofMemory ofCores : List Metric}
    (speaks : call.hostSample? = some sample) (isOfMemory : IsOfMemory sample.memory ofMemory)
    (isOfCores : IsOfCores (baseline first startedAt calls) sample.cores sample.now ofCores) :
    IsOfHost first startedAt (calls ++ [call]) ofMemory ofCores := by
  constructor
  · rw [Call.last?_concat_of_some calls speaks]
    intro none
    cases none
  · rw [Call.last?_concat_of_some calls speaks]
    rintro _ _ ⟨⟩
    exact ⟨isOfMemory, isOfCores⟩

theorem Call.pollCount_apply (collector : Collector) (call : Call) :
    (call.apply collector).pollCount =
      collector.pollCount + Int64.ofInt call.samples - Int64.ofInt call.delivered := by
  cases call with
  | sampleRuntime statistics => simp [apply, samples, delivered]
  | sampleHost sample => simp [apply, samples, delivered]
  | acknowledge delivered => simp [apply, samples, Call.delivered]

theorem follows_start (first : Except Failure (List UInt64)) (startedAt : Duration) :
    Follows first startedAt [] (start first startedAt) := by
  refine ⟨rfl, rfl, rfl, [], [], rfl, fun _ => ⟨rfl, rfl⟩, fun earlier sample isLast => ?_⟩
  cases isLast

namespace Follows

theorem pollCount_apply (follows : Follows first startedAt calls collector) (call : Call) :
    (call.apply collector).pollCount = Int64.ofInt (Call.balance (calls ++ [call])) := by
  rw [Call.pollCount_apply, follows.pollCount, Call.balance_concat, Int64.ofInt_sub,
    Int64.ofInt_add]

theorem runtime_apply (follows : Follows first startedAt calls collector) (call : Call) :
    (call.apply collector).runtime = runtimeGauges (calls ++ [call]) := by
  cases call with
  | sampleRuntime statistics =>
      cases statistics with
      | error failure =>
          rw [runtimeGauges_concat_of_none rfl]
          exact follows.runtime
      | ok readings =>
          rw [runtimeGauges_concat_of_some rfl]
          rfl
  | sampleHost sample =>
      rw [runtimeGauges_concat_of_none rfl]
      exact (collector.runtime_sampleHost _ _ _).trans follows.runtime
  | acknowledge delivered =>
      rw [runtimeGauges_concat_of_none rfl]
      exact follows.runtime

theorem baseline_apply (follows : Follows first startedAt calls collector) (call : Call) :
    Collector.baseline first startedAt (calls ++ [call]) =
      ((call.apply collector).busy, (call.apply collector).readAt) := by
  cases call with
  | sampleRuntime statistics =>
      rw [baseline_concat_of_none rfl, follows.baseline]
      cases statistics <;> rfl
  | sampleHost sample =>
      obtain ⟨memory, cores, now⟩ := sample
      cases cores with
      | error failure =>
          rw [baseline_concat_of_none rfl]
          exact follows.baseline
      | ok cores =>
          rw [baseline_concat_of_some rfl]
          rfl
  | acknowledge delivered =>
      rw [baseline_concat_of_none rfl]
      exact follows.baseline

theorem host_apply (follows : Follows first startedAt calls collector) (call : Call) :
    ∃ ofMemory ofCores, (call.apply collector).host = ofMemory ++ ofCores ∧
      IsOfHost first startedAt (calls ++ [call]) ofMemory ofCores := by
  obtain ⟨ofMemory, ofCores, host, isOfHost⟩ := follows.host
  cases call with
  | sampleRuntime statistics =>
      refine ⟨ofMemory, ofCores, ?_, isOfHost.concat_of_none rfl⟩
      rw [← host]
      cases statistics <;> rfl
  | sampleHost sample =>
      obtain ⟨memory, cores, now⟩ := sample
      have isOfMemory := isOfMemory_memoryGauges memory
      cases cores with
      | error failure =>
          have none : IsOfCores (Collector.baseline first startedAt calls) (.error failure) now
              [] :=
            ⟨fun _ _ => rfl, fun _ => rfl, fun known read => (by cases read)⟩
          exact ⟨_, [], (List.append_nil _).symm, isOfHost_concat_of_some rfl isOfMemory none⟩
      | ok cores =>
          -- What the cores are compared with is what the calls before left.
          have each := isOfCores_utilizationGauges collector cores now
          rw [← follows.baseline] at each
          exact ⟨_, _, rfl, isOfHost_concat_of_some rfl isOfMemory each⟩
  | acknowledge delivered => exact ⟨ofMemory, ofCores, host, isOfHost.concat_of_none rfl⟩

theorem apply (follows : Follows first startedAt calls collector) (call : Call) :
    Follows first startedAt (calls ++ [call]) (call.apply collector) :=
  ⟨follows.pollCount_apply call, follows.runtime_apply call, follows.baseline_apply call,
    follows.host_apply call⟩

end Follows

theorem follows_after (first : Except Failure (List UInt64)) (startedAt : Duration)
    (calls : List Call) : Follows first startedAt calls (after first startedAt calls) := by
  induction calls using List.reverseRecOn with
  | nil => exact follows_start first startedAt
  | append_singleton calls call induction =>
      rw [after, List.foldl_append]
      exact induction.apply call

end

/-- A batch has the gauges of the statistics that were read last, a random gauge, the gauges of the
last host sample, and at the end the samples less those delivered. They are counted modulo
`2 ^ 64`. -/
theorem batch_after (first : Except Failure (List UInt64)) (startedAt : Duration)
    (calls : List Call) :
    ∃ ofMemory ofCores count, IsOfHost first startedAt calls ofMemory ofCores ∧
      count = Int64.ofInt (Call.balance calls) ∧
      (Counter.Fits (Call.balance calls) → count.toInt = Call.balance calls) ∧
      ∀ random, (after first startedAt calls).batch random =
        runtimeGauges calls ++ [.gauge randomName random] ++ ofMemory ++ ofCores ++
          [.counter pollCountName count] := by
  have follows := follows_after first startedAt calls
  obtain ⟨ofMemory, ofCores, host, isOfHost⟩ := follows.host
  refine ⟨ofMemory, ofCores, _, isOfHost, rfl, fun fits => ?_, fun random => ?_⟩
  · exact Int64.toInt_ofInt_of_le fits.1 fits.2
  · rw [batch, follows.runtime, host, follows.pollCount]
    simp

example : (after (.ok [1000, 50]) .zero
    [.sampleRuntime (.ok [("Alloc", .ofNat 2)]),
      .sampleHost ⟨.error .cancelled, .ok [1500, 40, 7], .ofSeconds 1⟩,
      .sampleRuntime (.error .cancelled)]).batch (.ofNat 8) =
    [.gauge "Alloc" (.ofNat 2), .gauge "RandomValue" (.ofNat 8),
      .gauge "CPUutilization1" ((Binary64.ofNat 1).div (.ofNat 2)), .gauge "CPUutilization2" .zero,
      .gauge "CPUutilization3" .zero, .counter "PollCount" 2] := by
  decide +kernel

/-- A single delivery can leave the range of the count. -/
theorem not_forall_toInt_eq_balance :
    ¬ ∀ (first : Except Failure (List UInt64)) (startedAt : Duration) (calls : List Call)
        (random : Binary64), ∃ gauges count,
      (after first startedAt calls).batch random = gauges ++ [.counter pollCountName count] ∧
        count.toInt = Call.balance calls := by
  intro all
  obtain ⟨gauges, count, same, exact⟩ :=
    all (.ok []) .zero [.acknowledge Int64.minValue] Binary64.zero
  have last := congrArg List.getLast? same
  rw [batch_eq, List.getLast?_concat, List.getLast?_concat] at last
  rw [← Option.some.inj (congrArg Metric.delta (Option.some.inj last))] at exact
  exact absurd exact (by decide)

end Telemetry.Collector
