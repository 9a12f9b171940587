import Telemetry.Agent.Client
import Telemetry.Proofs.Agent.Collector
import Telemetry.Proofs.Storage.Interchange
import Telemetry.Proofs.Storage.Sums
import Telemetry.Server.Service

namespace Telemetry

open Telemetry

/-! What happens beside a delivery: samples, and what other clients save. And how the samples taken
divide between the count of an agent and the sum at its server. -/

/-- An agent and the server that it reports to. -/
structure Deployment (State : Type) where
  encoder : Encoder
  rateLimit : Nat
  client : Client
  settings : Server.Settings
  backend : Backend State
  /-- Puts other files beside the state. -/
  place : Disk → State → State

/-- What a ledger says of a state is kept by the backend, and does not depend on files. -/
structure Deployment.Tracks {State : Type} (deployment : Deployment State)
    (Represents : State → Ledger → Prop) : Prop where
  simulation : Simulation deployment.backend Represents
  place : ∀ disk state ledger, Represents state ledger →
    Represents (deployment.place disk state) ledger

inductive Occurrence where
  | sampleRuntime (statistics : Except Failure (List (String × Binary64)))
  | sampleHost (memory : Except Failure Probe.Memory) (cores : Except Failure (List UInt64))
      (now : Duration)
  /-- Another client saves metrics. -/
  | saveMany (metrics : List Metric) (key : String)
  /-- Files change, by snapshots or by others. -/
  | replaceFiles (disk : Disk)

namespace Occurrence

def samples : Occurrence → Nat
  | .sampleRuntime _ => 1
  | _ => 0

/-- Nobody but the agent adds to the number of samples, and no statistic is named like it. -/
def IsProper : Occurrence → Prop
  | .sampleRuntime statistics => Collector.AreProper statistics
  | .sampleHost _ _ _ => True
  | .saveMany metrics _ => ∀ metric ∈ metrics, ¬ metric.AddsTo pollCountName
  | .replaceFiles _ => True

def total : List Occurrence → Nat
  | [] => 0
  | occurrence :: occurrences => occurrence.samples + total occurrences

@[simp] theorem total_nil : total [] = 0 := rfl

@[simp] theorem total_cons (occurrence : Occurrence) (occurrences : List Occurrence) :
    total (occurrence :: occurrences) = occurrence.samples + total occurrences := rfl

theorem isProper_unread : IsProper (.sampleRuntime (.error .cancelled)) := by
  intro readings isOk
  cases isOk

end Occurrence

variable {State : Type}

namespace Site

def meet (deployment : Deployment State) (site : Site State) : Occurrence → Site State
  | .sampleRuntime statistics =>
    { site with collector := site.collector.sampleRuntime statistics }
  | .sampleHost memory cores now =>
    { site with collector := site.collector.sampleHost memory cores now }
  | .saveMany metrics key =>
    { site with world := (deployment.backend.saveMany key metrics site.world).2 }
  | .replaceFiles disk => { site with world := deployment.place disk site.world }

def meetAll (deployment : Deployment State) (site : Site State) (occurrences : List Occurrence) :
    Site State :=
  occurrences.foldl (meet deployment) site

theorem pollCount_meet (deployment : Deployment State) (site : Site State)
    (occurrence : Occurrence) :
    (site.meet deployment occurrence).collector.pollCount =
      site.collector.pollCount + Int64.ofNat occurrence.samples := by
  cases occurrence with
  | sampleRuntime statistics => exact Collector.pollCount_sampleRuntime _ statistics
  | sampleHost memory cores now =>
      exact (Collector.pollCount_sampleHost _ memory cores now).trans (Int64.add_zero _).symm
  | saveMany | replaceFiles => exact (Int64.add_zero _).symm

theorem pollCount_meetAll (deployment : Deployment State) (site : Site State)
    (occurrences : List Occurrence) :
    (site.meetAll deployment occurrences).collector.pollCount =
      site.collector.pollCount + Int64.ofNat (Occurrence.total occurrences) := by
  induction occurrences generalizing site with
  | nil => exact (Int64.add_zero _).symm
  | cons occurrence occurrences induction =>
      have rest := induction (site.meet deployment occurrence)
      rw [pollCount_meet, Int64.add_assoc, ← Int64.ofNat_add] at rest
      exact rest

/-- What the server has summed up, and what the agent still counts. -/
structure Stands (Represents : State → Ledger → Prop) (site : Site State) (sum : Int)
    (count : Int64) : Prop where
  represented : ∃ ledger, Represents site.world ledger ∧ ledger.sum pollCountName = sum
  proper : site.collector.IsProper
  counted : site.collector.pollCount = count

namespace Stands

variable {deployment : Deployment State} {Represents : State → Ledger → Prop} {site : Site State}
  {sum : Int} {count : Int64}

theorem of_absent {ledger : Ledger} (represents : Represents site.world ledger)
    (absent : ledger.lookup (.counter pollCountName) = none) (proper : site.collector.IsProper)
    (fresh : site.collector.pollCount = 0) : site.Stands Represents 0 0 := by
  refine ⟨⟨ledger, represents, ?_⟩, proper, fresh⟩
  rw [Ledger.sum, Ledger.total, absent]
  rfl

theorem sum_eq (tracks : deployment.Tracks Represents)
    (stands : site.Stands Represents sum count) :
    deployment.backend.sum pollCountName site.world = sum := by
  obtain ⟨ledger, represents, rfl⟩ := stands.represented
  exact tracks.simulation.sum_eq represents pollCountName

theorem meet (tracks : deployment.Tracks Represents)
    (stands : site.Stands Represents sum count) {occurrence : Occurrence}
    (proper : occurrence.IsProper) :
    (site.meet deployment occurrence).Stands Represents sum
      (count + Int64.ofNat occurrence.samples) := by
  have counted : (site.meet deployment occurrence).collector.pollCount =
      count + Int64.ofNat occurrence.samples := by
    rw [pollCount_meet, stands.counted]
  cases occurrence with
  | sampleRuntime statistics =>
      exact ⟨stands.represented, stands.proper.sampleRuntime proper, counted⟩
  | sampleHost memory cores now =>
      exact ⟨stands.represented, stands.proper.sampleHost memory cores now, counted⟩
  | saveMany metrics key =>
      obtain ⟨ledger, represents, sameSum⟩ := stands.represented
      have saved := tracks.simulation.saveMany metrics key represents
      refine ⟨⟨_, saved.2, ?_⟩, stands.proper, counted⟩
      rw [Ledger.sum_saveMany_of_not_addsTo proper key, sameSum]
  | replaceFiles disk =>
      obtain ⟨ledger, represents, sameSum⟩ := stands.represented
      exact ⟨⟨ledger, tracks.place disk _ ledger represents, sameSum⟩, stands.proper, counted⟩

theorem meetAll (tracks : deployment.Tracks Represents) {occurrences : List Occurrence}
    (stands : site.Stands Represents sum count)
    (proper : ∀ occurrence ∈ occurrences, occurrence.IsProper) :
    (site.meetAll deployment occurrences).Stands Represents sum
      (count + Int64.ofNat (Occurrence.total occurrences)) := by
  induction occurrences generalizing site count with
  | nil =>
      have same : count + Int64.ofNat (Occurrence.total []) = count := Int64.add_zero count
      rw [same]
      exact stands
  | cons occurrence occurrences induction =>
      have next := stands.meet tracks (proper occurrence (by simp))
      have rest := induction next fun other member => proper other (by simp [member])
      rw [Occurrence.total_cons, Int64.ofNat_add, ← Int64.add_assoc]
      exact rest

theorem acknowledge (stands : site.Stands Represents sum count) (delivered : Int64) :
    (site.acknowledge delivered).Stands Represents sum (count - delivered) :=
  ⟨stands.represented, stands.proper.acknowledge delivered,
    congrArg (· - delivered) stands.counted⟩

end Stands

end Site

def Storage.place (disk : Disk) : Storage × Disk → Storage × Disk
  | (storage, _) => (storage, disk)

/-- A deployment with one of the three kinds of storage. -/
structure Deployment.IsOpened (deployment : Deployment (Storage × Disk)) : Prop where
  backend : deployment.backend = Storage.backend
  place : deployment.place = Storage.place

theorem Deployment.IsOpened.tracks {deployment : Deployment (Storage × Disk)}
    (opened : deployment.IsOpened) : deployment.Tracks Storage.Represents where
  simulation := opened.backend ▸ Storage.simulation
  place := by
    rintro disk ⟨storage, before⟩ ledger represents
    rw [opened.place]
    cases storage with
    | file store =>
        have keeps : FileStore.Keeps (store, before) ledger := represents
        exact ⟨keeps.represents, keeps.quiet⟩
    | database path table => exact represents
    | keyValue store => exact represents

/-- An agent and a server without keys, both on one machine. -/
def Deployment.onOneMachine (rateLimit : Nat) : Deployment (Storage × Disk) where
  encoder := ⟨"", none⟩
  rateLimit := rateLimit
  client := ⟨"http://127.0.0.1:8080", .loopback⟩
  settings := ⟨"", none, none⟩
  backend := Storage.backend
  place := Storage.place

theorem Deployment.isOpened_onOneMachine (rateLimit : Nat) : (onOneMachine rateLimit).IsOpened :=
  ⟨rfl, rfl⟩

def Site.fresh : Site (Storage × Disk) :=
  ⟨.start (.ok []) .zero, false, .start, .keyValue .empty, .empty⟩

theorem Site.represents_fresh : Storage.Represents Site.fresh.world ∅ := KeyValue.represents_empty

/-- A count of samples cannot have passed its greatest value: where arithmetic is checked the sample
that would do so breaks off, and else there were too few. -/
def CountsExactly (checked : Bool) (taken : Nat) : Prop :=
  checked = true ∨ taken < 0x8000000000000000

theorem CountsExactly.of_add {checked : Bool} {taken samples : Nat}
    (counts : CountsExactly checked (taken + samples)) : CountsExactly checked taken :=
  counts.imp_right fun few => by omega

/-- Between them, a sum and a count hold so many samples: always up to multiples of `2 ^ 64`, and
exactly as long as the count cannot have passed its greatest value. -/
structure Balanced (checked : Bool) (sum : Int) (count : Int64) (taken : Nat) : Prop where
  wrapped : Int64.ofInt sum + count = Int64.ofNat taken
  exactly : CountsExactly checked taken →
    0 ≤ sum ∧ 0 ≤ count.toInt ∧ sum + count.toInt = taken

namespace Balanced

variable {checked : Bool} {sum : Int} {count : Int64} {taken samples : Nat}

theorem start : Balanced checked 0 0 0 where
  wrapped := rfl
  exactly _ := by decide

theorem toInt_add_ofNat (balanced : Balanced checked sum count taken)
    (room : checked = true → count.toInt + samples ≤ Int64.maxValue.toInt)
    (counts : CountsExactly checked (taken + samples)) :
    (count + Int64.ofNat samples).toInt = count.toInt + samples := by
  obtain ⟨sumNonnegative, countNonnegative, total⟩ := balanced.exactly counts.of_add
  have within : count.toInt + samples ≤ Int64.maxValue.toInt := by
    rcases counts with isChecked | few
    · exact room isChecked
    · simp only [Int64.toInt_maxValue]
      omega
  -- Neither the count nor what is added reaches `2 ^ 63`, so the sum does not wrap.
  have sameCount : count = Int64.ofInt count.toInt := (Int64.ofInt_toInt count).symm
  have sameSamples : Int64.ofNat samples = Int64.ofInt samples := rfl
  rw [sameSamples]
  conv_lhs => rw [sameCount, ← Int64.ofInt_add]
  rw [Int64.toInt_maxValue] at within
  exact Int64.toInt_ofInt_of_le (by simp; omega) (by simp; omega)

theorem sample (balanced : Balanced checked sum count taken)
    (room : checked = true → count.toInt + samples ≤ Int64.maxValue.toInt) :
    Balanced checked sum (count + Int64.ofNat samples) (taken + samples) where
  wrapped := by
    rw [← Int64.add_assoc, balanced.wrapped, ← Int64.ofNat_add]
  exactly counts := by
    obtain ⟨sumNonnegative, countNonnegative, total⟩ := balanced.exactly counts.of_add
    have added := balanced.toInt_add_ofNat room counts
    omega

theorem deliver (balanced : Balanced checked sum count taken) {delivered : Int64}
    (within : CountsExactly checked taken →
      0 ≤ delivered.toInt ∧ delivered.toInt ≤ count.toInt) :
    Balanced checked (sum + delivered.toInt) (count - delivered) taken where
  wrapped := by
    rw [Int64.ofInt_add, Int64.ofInt_toInt, ← balanced.wrapped, Int64.add_assoc,
      Int64.add_comm delivered, Int64.sub_add_cancel]
  exactly counts := by
    obtain ⟨sumNonnegative, countNonnegative, total⟩ := balanced.exactly counts
    obtain ⟨deliveredNonnegative, deliveredWithin⟩ := within counts
    have bound := count.toInt_lt
    have kept : (count - delivered).toInt = count.toInt - delivered.toInt := by
      have sameCount : count = Int64.ofInt count.toInt := (Int64.ofInt_toInt count).symm
      have sameDelivered : delivered = Int64.ofInt delivered.toInt :=
        (Int64.ofInt_toInt delivered).symm
      conv_lhs => rw [sameCount, sameDelivered, ← Int64.ofInt_sub]
      exact Int64.toInt_ofInt_of_le (by simp; omega) (by simp; omega)
    omega

end Balanced

end Telemetry
