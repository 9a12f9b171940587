import Telemetry.Agent.Collector

namespace Telemetry.Collector

open Telemetry

/-! What a batch is made of: gauges of other names first, and the number of samples last. -/

/-- A gauge that cannot be taken for the number of samples. -/
def IsOther (metric : Metric) : Prop :=
  ∃ id value, id ≠ pollCountName ∧ metric = .gauge id value

/-- A collector without a gauge that is named like the number of samples. -/
structure IsProper (collector : Collector) : Prop where
  runtime : ∀ metric ∈ collector.runtime, IsOther metric
  host : ∀ metric ∈ collector.host, IsOther metric

def AreProper (statistics : Except Failure (List (String × Binary64))) : Prop :=
  ∀ readings, statistics = .ok readings → ∀ reading ∈ readings, reading.1 ≠ pollCountName

theorem isProper_start (cores : Except Failure (List UInt64)) (now : Duration) :
    (start cores now).IsProper where
  runtime metric member := by cases member
  host metric member := by cases member

theorem utilizationName_ne (core : Nat) : utilizationName core ≠ pollCountName := by
  intro same
  have sameCharacters := congrArg String.toList same
  simp [utilizationName, pollCountName] at sameCharacters

theorem isOther_memoryGauges (memory : Probe.Memory) :
    ∀ metric ∈ memoryGauges memory, IsOther metric := by
  intro metric member
  simp only [memoryGauges, List.mem_cons, List.not_mem_nil, or_false] at member
  rcases member with rfl | rfl
  · exact ⟨totalMemoryName, _, by decide, rfl⟩
  · exact ⟨freeMemoryName, _, by decide, rfl⟩

theorem isOther_utilizationGauges (collector : Collector) (cores : List UInt64) (now : Duration) :
    ∀ metric ∈ collector.utilizationGauges cores now, IsOther metric := by
  intro metric member
  simp only [utilizationGauges] at member
  split at member
  · cases member
  · obtain ⟨core, bound, rfl⟩ := List.mem_mapIdx.mp member
    exact ⟨_, _, utilizationName_ne core, rfl⟩

namespace IsProper

variable {collector : Collector}

theorem sampleRuntime (proper : collector.IsProper)
    {statistics : Except Failure (List (String × Binary64))} (named : AreProper statistics) :
    (collector.sampleRuntime statistics).IsProper := by
  cases statistics with
  | error failure => exact ⟨proper.runtime, proper.host⟩
  | ok readings =>
      refine ⟨?_, proper.host⟩
      intro metric member
      obtain ⟨⟨name, value⟩, readingMember, rfl⟩ := List.mem_map.mp member
      exact ⟨name, value, named readings rfl (name, value) readingMember, rfl⟩

theorem sampleHost (proper : collector.IsProper) (memory : Except Failure Probe.Memory)
    (cores : Except Failure (List UInt64)) (now : Duration) :
    (collector.sampleHost memory cores now).IsProper := by
  have ofMemory : ∀ metric ∈ (memory.toOption.map memoryGauges).getD [], IsOther metric := by
    intro metric member
    cases memory with
    | error failure => cases member
    | ok memory => exact isOther_memoryGauges memory metric member
  cases cores with
  | error failure => exact ⟨proper.runtime, ofMemory⟩
  | ok cores =>
      refine ⟨proper.runtime, ?_⟩
      intro metric member
      rcases List.mem_append.mp member with fromMemory | fromCores
      · exact ofMemory metric fromMemory
      · exact isOther_utilizationGauges collector cores now metric fromCores

theorem acknowledge (proper : collector.IsProper) (delivered : Int64) :
    (collector.acknowledge delivered).IsProper :=
  ⟨proper.runtime, proper.host⟩

end IsProper

def gauges (collector : Collector) (random : Binary64) : List Metric :=
  collector.runtime ++ .gauge randomName random :: collector.host

theorem batch_eq (collector : Collector) (random : Binary64) :
    collector.batch random =
      collector.gauges random ++ [.counter pollCountName collector.pollCount] := by
  rw [batch, gauges, List.append_assoc]

theorem IsProper.gauges {collector : Collector} (proper : collector.IsProper) (random : Binary64) :
    ∀ metric ∈ collector.gauges random, IsOther metric := by
  intro metric member
  rcases List.mem_append.mp member with ofRuntime | other
  · exact proper.runtime metric ofRuntime
  · rcases List.mem_cons.mp other with rfl | ofHost
    · exact ⟨randomName, random, by decide, rfl⟩
    · exact proper.host metric ofHost

theorem IsProper.sampleCount_batch {collector : Collector} (proper : collector.IsProper)
    (random : Binary64) : sampleCount (collector.batch random) = collector.pollCount := by
  have passed :
      (collector.gauges random).find? (fun metric => metric.id = pollCountName) = none := by
    rw [List.find?_eq_none]
    intro metric member
    obtain ⟨id, value, otherName, rfl⟩ := proper.gauges random metric member
    exact fun same => otherName (of_decide_eq_true same)
  rw [sampleCount, batch_eq, List.find?_append, passed]
  rfl

theorem IsProper.validate_batch {collector : Collector} (proper : collector.IsProper)
    (random : Binary64) :
    ∀ metric ∈ collector.batch random, metric.validate = .ok () := by
  intro metric member
  rw [batch_eq] at member
  rcases List.mem_append.mp member with isGauge | isCount
  · obtain ⟨id, value, _, rfl⟩ := proper.gauges random metric isGauge
    rfl
  · rw [List.mem_singleton.mp isCount]
    rfl

@[simp] theorem pollCount_sampleRuntime (collector : Collector)
    (statistics : Except Failure (List (String × Binary64))) :
    (collector.sampleRuntime statistics).pollCount = collector.pollCount + 1 := by
  cases statistics <;> rfl

@[simp] theorem pollCount_sampleHost (collector : Collector) (memory : Except Failure Probe.Memory)
    (cores : Except Failure (List UInt64)) (now : Duration) :
    (collector.sampleHost memory cores now).pollCount = collector.pollCount := by
  cases cores <;> rfl

@[simp] theorem runtime_sampleHost (collector : Collector) (memory : Except Failure Probe.Memory)
    (cores : Except Failure (List UInt64)) (now : Duration) :
    (collector.sampleHost memory cores now).runtime = collector.runtime := by
  cases cores <;> rfl

@[simp] theorem pollCount_acknowledge (collector : Collector) (delivered : Int64) :
    (collector.acknowledge delivered).pollCount = collector.pollCount - delivered := rfl

/-- So many samples more have numbers. -/
def HasRoom (collector : Collector) (samples : Nat) : Prop :=
  collector.pollCount.toInt + samples ≤ Int64.maxValue.toInt

theorem hasRoom_zero (collector : Collector) : collector.HasRoom 0 := by
  rw [HasRoom, Int.natCast_zero, Int.add_zero]
  exact Int64.toInt_le collector.pollCount

theorem hasRoom_one_iff {collector : Collector} :
    collector.HasRoom 1 ↔ collector.nextNumber?.isSome := by
  have bound := Int64.toInt_le collector.pollCount
  unfold nextNumber?
  split
  case isTrue isGreatest =>
    rw [HasRoom, isGreatest]
    exact iff_of_false (by omega) nofun
  case isFalse other =>
    refine iff_of_true ?_ rfl
    have notGreatest : collector.pollCount.toInt ≠ Int64.maxValue.toInt :=
      fun same => other (Int64.toInt_inj.mp same)
    rw [HasRoom]
    omega

end Telemetry.Collector
