import Telemetry.Proofs.Agent.Balance
import Telemetry.Proofs.Agent.Encoding
import Telemetry.Proofs.Gzip.Member
import Telemetry.Proofs.Metric.Wire
import Telemetry.Proofs.Server.Batch
import Telemetry.Proofs.Signature

namespace Telemetry

open Telemetry Http

/-! An agent that sends whole batches, its server, and what they count together. -/

/-- What happens while a batch is on its way: before it is served, if it reaches the server at all,
and before the answer is there. -/
structure Exchange where
  before : List Occurrence
  isReached : Bool
  after : List Occurrence

namespace Exchange

def total (exchange : Exchange) : Nat :=
  Occurrence.total exchange.before + Occurrence.total exchange.after

structure IsProper (exchange : Exchange) : Prop where
  before : ∀ occurrence ∈ exchange.before, occurrence.IsProper
  after : ∀ occurrence ∈ exchange.after, occurrence.IsProper

end Exchange

variable {State : Type}

namespace Deployment

def serve (deployment : Deployment State) (isReached : Bool) (request : Request) (state : State) :
    Option (Response × State) :=
  if isReached then some (deployment.settings.serve deployment.backend request state) else none

def transport (deployment : Deployment State) (exchange : Exchange) : Transport State :=
  fun mode body site =>
    let (passage, site) := deployment.client.transport (deployment.serve exchange.isReached) mode
      body (site.meetAll deployment exchange.before)
    (passage, site.meetAll deployment exchange.after)

def report (deployment : Deployment State) (random : Binary64) (exchange : Exchange)
    (site : Site State) : Except Failure Unit × Site State :=
  Sender.report ⟨deployment.encoder, deployment.rateLimit, deployment.transport exchange⟩ .batch
    random site

def Addresses (deployment : Deployment State) : Prop :=
  ∀ path, Target.parse (deployment.client.url ++ Client.path .batch) = some path →
    path = "/updates/"

/-- Whether the server reads a batch, which is not sealed, as it is: if the server's key opens it at
all, no batch is in it. -/
def ReadsClear (deployment : Deployment State) (batch : List Metric) : Prop :=
  ∀ signed, batch.mapM (fun metric => Signature.attach metric deployment.encoder.key) = .ok signed →
    ∀ key ∈ deployment.settings.decryptor,
      ∀ opened, (key.decrypt (Metric.listToWire signed)).toOption = some opened →
        ∀ received, Metric.listOfWire opened ≠ .ok received

/-- Samples and reports in any order; a report is over before the next begins. Where arithmetic is
checked, a sample that has no number breaks the run off. -/
inductive Run (deployment : Deployment State) (checked : Bool) (start : Site State) :
    Nat → Site State → Prop where
  | start : Run deployment checked start 0 start
  | meet {taken : Nat} {site : Site State} (run : Run deployment checked start taken site)
      (occurrence : Occurrence) (proper : occurrence.IsProper)
      (room : checked = true → site.collector.HasRoom occurrence.samples) :
      Run deployment checked start (taken + occurrence.samples)
        (site.meet deployment occurrence)
  | report {taken : Nat} {site : Site State} (run : Run deployment checked start taken site)
      (random : Binary64) (exchange : Exchange) (proper : exchange.IsProper)
      (room : checked = true → site.collector.HasRoom exchange.total)
      (clear : deployment.ReadsClear (site.collector.batch random)) :
      Run deployment checked start (taken + exchange.total)
        (deployment.report random exchange site).2

end Deployment

namespace Client

structure IsBatch (client : Client) (body : Bytes) (request : Request) : Prop where
  method : request.method = "POST"
  path : Target.parse (client.url ++ path .batch) = some request.path
  encoding : request.header? "content-encoding" = some "gzip"
  body : request.body = body

theorem isBatch_of_request? {client : Client} {body : Bytes} {request : Request}
    (made : client.request? .batch body = some request) : client.IsBatch body request := by
  obtain ⟨encoding, isBody⟩ := encoding_of_request? made
  unfold request? Request.ofParts? at made
  obtain ⟨path, target, made⟩ := Option.bind_eq_some_iff.mp made
  split at made
  · rw [← Option.some.inj made] at encoding isBody ⊢
    exact ⟨rfl, target, encoding, isBody⟩
  · cases made

theorem collector_transport (client : Client) (server : Request → State → Option (Response × State))
    (mode : DeliveryMode) (body : Bytes) (site : Site State) :
    (client.transport server mode body site).2.collector = site.collector := by
  unfold transport
  split
  · rfl
  · split <;> rfl

end Client

namespace Deployment

variable {deployment : Deployment State} {Represents : State → Ledger → Prop} {checked : Bool}

/-- What is read back of a batch: metrics that leave the count alone, and the count last. -/
theorem of_resembles {count : Int64} {gauges : List Metric}
    (others : ∀ metric ∈ gauges, Collector.IsOther metric) {signed received : List Metric}
    (isSigned : List.Forall₂ Signature.IsSigned (gauges ++ [.counter pollCountName count]) signed)
    (resembles : List.Forall₂ Metric.Resembles received signed) :
    ∃ elsewhere last, received = elsewhere ++ [last] ∧
      (∀ metric ∈ elsewhere, ¬ metric.AddsTo pollCountName) ∧ last.AddsTo pollCountName ∧
      last.delta = some count := by
  induction gauges generalizing signed received with
  | nil =>
      cases isSigned with
      | cons signedCount none =>
          cases none
          cases resembles with
          | cons resemblesCount none =>
              cases none
              obtain ⟨hash, rfl⟩ := signedCount
              exact ⟨[], _, rfl, by simp, ⟨resemblesCount.kind, resemblesCount.id⟩,
                resemblesCount.delta⟩
  | cons gauge gauges induction =>
      cases isSigned with
      | cons signedGauge signedRest =>
          cases resembles with
          | cons resemblesGauge resemblesRest =>
              obtain ⟨id, value, otherName, rfl⟩ := others gauge (by simp)
              obtain ⟨hash, rfl⟩ := signedGauge
              obtain ⟨elsewhere, last, rfl, leave, addsTo, delta⟩ := induction
                (fun metric member => others metric (by simp [member])) signedRest resemblesRest
              refine ⟨_ :: elsewhere, last, rfl, ?_, addsTo, delta⟩
              intro metric member
              rcases List.mem_cons.mp member with rfl | old
              · exact fun adds => otherName (resemblesGauge.id.symm.trans adds.2)
              · exact leave metric old

theorem stands_of_received {site : Site State} {sum : Int} {count delta : Int64}
    (tracks : deployment.Tracks Represents)
    (stands : site.Stands Represents sum count) {elsewhere : List Metric} {last : Metric}
    (leave : ∀ metric ∈ elsewhere, ¬ metric.AddsTo pollCountName)
    (addsTo : last.AddsTo pollCountName) (holds : last.delta = some delta) (key : String) :
    Site.Stands Represents
      { site with world := (deployment.backend.saveMany key (elsewhere ++ [last]) site.world).2 }
      (match (deployment.backend.saveMany key (elsewhere ++ [last]) site.world).1 with
        | .ok () => sum + delta.toInt
        | .error _ => sum) count := by
  obtain ⟨⟨ledger, represents, rfl⟩, proper, counted⟩ := stands
  obtain ⟨sameResult, stillRepresents⟩ :=
    tracks.simulation.saveMany (elsewhere ++ [last]) key represents
  refine ⟨⟨_, stillRepresents, ?_⟩, proper, counted⟩
  rw [sameResult]
  exact Ledger.sum_saveMany_append leave addsTo holds key

/-- What came of a batch on its way, as far as the count goes: it was summed up and the agent knows,
or it was not and the agent knows. -/
inductive Arrived (Represents : State → Ledger → Prop) (sum : Int) (count sent : Int64) :
    Passage × Site State → Prop where
  | lost (failure : Failure) (site : Site State) (stands : site.Stands Represents sum count) :
      Arrived Represents sum count sent (⟨0, .error failure⟩, site)
  | taken (site : Site State) (stands : site.Stands Represents (sum + sent.toInt) count) :
      Arrived Represents sum count sent (⟨0, .ok ()⟩, site)

theorem resembles_of_decoded {batch signed received : List Metric} {request decoded : Request}
    (clear : deployment.ReadsClear batch)
    (attached : batch.mapM (Signature.attach · deployment.encoder.key) = .ok signed)
    (isBatch : deployment.client.IsBatch (Gzip.compress (Metric.listToWire signed)) request)
    (decodes : deployment.settings.decode request = .ok decoded)
    (reads : Metric.listOfWire decoded.body = .ok received) :
    List.Forall₂ Metric.Resembles received signed := by
  rcases Server.Settings.body_of_decode isBatch.encoding isBatch.body decodes with
    same | ⟨key, holds, opened⟩
  · rw [same] at reads
    exact Metric.resembles_of_listOfWire reads
  · exact absurd reads (clear signed attached key holds _ opened received)

/-- A batch that goes out from a site reaches the server whole or not at all. -/
theorem arrived_of_sent (addresses : deployment.Addresses)
    (tracks : deployment.Tracks Represents) {site : Site State} {sum : Int}
    {count : Int64} (stands : site.Stands Represents sum count) {collector : Collector}
    (proper : collector.IsProper) {random : Binary64}
    (clear : deployment.ReadsClear (collector.batch random)) {signed : List Metric}
    (attached : (collector.batch random).mapM (Signature.attach · deployment.encoder.key) =
      .ok signed)
    (isSigned : List.Forall₂ Signature.IsSigned (collector.batch random) signed)
    (isReached : Bool) :
    Arrived Represents sum count collector.pollCount
      (deployment.client.transport (deployment.serve isReached) .batch
        (Gzip.compress (Metric.listToWire signed)) site) := by
  unfold Client.transport
  cases made : deployment.client.request? .batch (Gzip.compress (Metric.listToWire signed)) with
  | none => exact .lost _ site stands
  | some request =>
      have isBatch := Client.isBatch_of_request? made
      cases isReached with
      | false => exact .lost _ site stands
      | true =>
          have path : Server.Endpoint.ofPath? request.path = some .updates := by
            rw [addresses request.path isBatch.path]
            rfl
          have outcome : Server.BatchOutcome deployment.settings deployment.backend request
              site.world (deployment.settings.serve deployment.backend request site.world) :=
            Server.Settings.serve_updates isBatch.method path
          simp only [serve, if_true]
          generalize deployment.settings.serve deployment.backend request site.world = answer
            at outcome ⊢
          rw [Collector.batch_eq] at isSigned
          cases outcome with
          | refused response failed =>
              simp only [Client.outcome, failed, if_true]
              exact .lost _ _ stands
          | stored decoded decodes received reads saved response succeeded =>
              have resembles := resembles_of_decoded clear attached isBatch decodes reads
              obtain ⟨elsewhere, last, rfl, leave, addsTo, holds⟩ :=
                of_resembles (proper.gauges random) isSigned resembles
              have next := stands_of_received tracks stands leave addsTo holds
                deployment.settings.key
              rw [saved] at next
              simp only [Client.outcome, succeeded]
              exact .taken _ next
          | interrupted decoded decodes received reads failure refusal response failed =>
              have resembles := resembles_of_decoded clear attached isBatch decodes reads
              obtain ⟨elsewhere, last, rfl, leave, addsTo, holds⟩ :=
                of_resembles (proper.gauges random) isSigned resembles
              have next := stands_of_received tracks stands leave addsTo holds
                deployment.settings.key
              rw [refusal] at next
              simp only [Client.outcome, failed, if_true]
              exact .lost _ _ next

/-- A report leaves the count as it was, or moves all of it over to the server; what was sampled
meanwhile is counted next. -/
theorem stands_report (addresses : deployment.Addresses)
    (tracks : deployment.Tracks Represents) {site : Site State} {sum : Int}
    {count : Int64} (stands : site.Stands Represents sum count) {random : Binary64}
    {exchange : Exchange} (proper : exchange.IsProper)
    (clear : deployment.ReadsClear (site.collector.batch random)) :
    (deployment.report random exchange site).2.Stands Represents sum
        (count + Int64.ofNat exchange.total) ∨
      (deployment.report random exchange site).2.Stands Represents (sum + count.toInt)
        (count + Int64.ofNat exchange.total - count) := by
  obtain ⟨signed, attached, isSigned⟩ :=
    Signature.mapM_attach (stands.proper.validate_batch random) deployment.encoder.key
  have encoded : deployment.encoder.encodeAll (site.collector.batch random) =
      .ok (Gzip.compress (Metric.listToWire signed)) := by
    rw [Encoder.encodeAll, attached]
    rfl
  have total : ∀ count : Int64, count + Int64.ofNat (Occurrence.total exchange.before) +
      Int64.ofNat (Occurrence.total exchange.after) = count + Int64.ofNat exchange.total := by
    intro count
    rw [Exchange.total, Int64.ofNat_add, Int64.add_assoc]
  -- The batch is made before anything else happens, so it counts no sample taken meanwhile.
  have onTheWay := stands.meetAll tracks proper.before
  have arrived := arrived_of_sent addresses tracks onTheWay stands.proper clear attached
    isSigned exchange.isReached
  have sampled := stands.proper.sampleCount_batch random
  have counted := stands.counted
  simp only [report, Sender.report, Sender.beginReport, Sender.beginWhole, encoded, transport,
    sampled]
  generalize deployment.client.transport (deployment.serve exchange.isReached) .batch
    (Gzip.compress (Metric.listToWire signed))
    (site.meetAll deployment exchange.before) = answer at arrived ⊢
  cases arrived with
  | lost failure next nextStands =>
      left
      have after := nextStands.meetAll tracks proper.after
      rw [total] at after
      exact after
  | taken next nextStands =>
      right
      have after := nextStands.meetAll tracks proper.after
      rw [total] at after
      have acknowledged := after.acknowledge site.collector.pollCount
      generalize site.collector.pollCount = delivered at acknowledged counted ⊢
      subst counted
      exact acknowledged

theorem Run.stands (addresses : deployment.Addresses)
    (tracks : deployment.Tracks Represents) {start site : Site State}
    (starts : start.Stands Represents 0 0) {taken : Nat}
    (run : deployment.Run checked start taken site) :
    ∃ sum count, site.Stands Represents sum count ∧ Balanced checked sum count taken := by
  induction run with
  | start => exact ⟨0, 0, starts, .start⟩
  | meet run occurrence proper room induction =>
      obtain ⟨sum, count, stands, balanced⟩ := induction
      rw [Collector.HasRoom, stands.counted] at room
      exact ⟨sum, _, stands.meet tracks proper, balanced.sample room⟩
  | report run random exchange proper room clear induction =>
      obtain ⟨sum, count, stands, balanced⟩ := induction
      rw [Collector.HasRoom, stands.counted] at room
      rcases stands_report addresses tracks stands proper clear with kept | moved
      · exact ⟨sum, _, kept, balanced.sample room⟩
      · refine ⟨_, _, moved, (balanced.sample room).deliver fun counts => ?_⟩
        -- What was delivered is the count at the start, which has only grown since.
        obtain ⟨_, countNonnegative, _⟩ := balanced.exactly counts.of_add
        have grown := balanced.toInt_add_ofNat room counts
        omega

theorem pollCount_transport (exchange : Exchange) (mode : DeliveryMode) (body : Bytes)
    (site : Site State) :
    (deployment.transport exchange mode body site).2.collector.pollCount =
      site.collector.pollCount + Int64.ofNat exchange.total := by
  rw [transport, Site.pollCount_meetAll, Client.collector_transport, Site.pollCount_meetAll,
    Int64.add_assoc, ← Int64.ofNat_add, Exchange.total]

/-- Between reports, every sample is counted once, by the server or by the agent, and the agent
counts no less than zero even while a report is on its way: with checked arithmetic however many
samples there are, and else as long as there are fewer than `2 ^ 63`. Up to multiples of `2 ^ 64`
they always add up. -/
theorem Run.sum_add_pollCount {deployment : Deployment (Storage × Disk)}
    (opened : deployment.IsOpened) (addresses : deployment.Addresses)
    {start : Site (Storage × Disk)} {ledger : Ledger}
    (represents : Storage.Represents start.world ledger)
    (absent : ledger.lookup (.counter pollCountName) = none)
    (proper : start.collector.IsProper) (fresh : start.collector.pollCount = 0) {taken : Nat}
    {site : Site (Storage × Disk)} (run : deployment.Run checked start taken site) :
    (checked = true ∨ taken < 0x8000000000000000 →
        Storage.backend.sum pollCountName site.world + site.collector.pollCount.toInt = taken ∧
          0 ≤ site.collector.pollCount.toInt) ∧
      (∀ exchange : Exchange,
        checked = true ∧ site.collector.HasRoom exchange.total ∨
          taken + exchange.total < 0x8000000000000000 → ∀ mode body,
        0 ≤ (deployment.transport exchange mode body site).2.collector.pollCount.toInt) ∧
      Int64.ofInt (Storage.backend.sum pollCountName site.world) + site.collector.pollCount =
        Int64.ofNat taken := by
  have starts : start.Stands Storage.Represents 0 0 :=
    .of_absent represents absent proper fresh
  obtain ⟨sum, count, stands, balanced⟩ := run.stands addresses opened.tracks starts
  rw [← opened.backend, stands.sum_eq opened.tracks, stands.counted]
  refine ⟨fun counts => ?_, fun exchange within mode body => ?_, balanced.wrapped⟩
  · obtain ⟨_, countNonnegative, total⟩ := balanced.exactly counts
    exact ⟨total, countNonnegative⟩
  · have counts : CountsExactly checked (taken + exchange.total) := within.imp_left And.left
    have room : count.toInt + exchange.total ≤ Int64.maxValue.toInt := by
      rcases within with ⟨_, room⟩ | few
      · rwa [Collector.HasRoom, stands.counted] at room
      · obtain ⟨sumNonnegative, _, total⟩ := balanced.exactly counts.of_add
        rw [Int64.toInt_maxValue]
        omega
    rw [pollCount_transport, stands.counted]
    exact ((balanced.sample fun _ => room).exactly counts).2.1

theorem addresses_onOneMachine : (onOneMachine 1).Addresses := by
  have parses : Target.parse ((onOneMachine 1).client.url ++ Client.path .batch) =
      some "/updates/" := by
    decide +kernel
  intro path parsed
  rw [parses] at parsed
  exact (Option.some.inj parsed).symm

theorem readsClear_onOneMachine (batch : List Metric) : (onOneMachine 1).ReadsClear batch := by
  intro signed attached key holds
  cases holds

/-- A sample, a report during which there is another sample, and a report that is lost. -/
theorem sum_add_pollCount_onOneMachine :
    ∃ site, (onOneMachine 1).Run true Site.fresh 2 site ∧
      (Storage.backend.sum pollCountName site.world + site.collector.pollCount.toInt = 2 ∧
        0 ≤ site.collector.pollCount.toInt) ∧
      ∀ mode body, 0 ≤ ((onOneMachine 1).transport
        ⟨[.sampleRuntime (.error .cancelled)], true, []⟩ mode body
        site).2.collector.pollCount.toInt := by
  have proper : Exchange.IsProper ⟨[.sampleRuntime (.error .cancelled)], true, []⟩ := by
    refine ⟨?_, by simp⟩
    intro occurrence member
    rw [List.mem_singleton.mp member]
    exact Occurrence.isProper_unread
  have begins : (onOneMachine 1).Run true Site.fresh 0 Site.fresh := .start
  have sampled := begins.meet (.sampleRuntime (.error .cancelled)) Occurrence.isProper_unread
    fun _ => Collector.hasRoom_one_iff.mpr rfl
  have reported := sampled.report .zero ⟨[.sampleRuntime (.error .cancelled)], true, []⟩ proper
    (fun _ => Collector.hasRoom_one_iff.mpr rfl) (readsClear_onOneMachine _)
  have run : (onOneMachine 1).Run true Site.fresh (0 + 1 + 1 + 0) _ :=
    reported.report .zero ⟨[], false, []⟩ ⟨by simp, by simp⟩ (fun _ => Collector.hasRoom_zero _)
      (readsClear_onOneMachine _)
  refine ⟨_, run, ?_⟩
  have balanced := Run.sum_add_pollCount (isOpened_onOneMachine 1) addresses_onOneMachine
    Site.represents_fresh rfl (Collector.isProper_start _ _) rfl run
  exact ⟨balanced.1 (.inl rfl), balanced.2.1 _ (.inr (by decide))⟩

theorem Run.sampleMany (samples : Nat) :
    ∃ site, (onOneMachine 1).Run false Site.fresh samples site ∧
      site.collector.pollCount = Int64.ofNat samples := by
  induction samples with
  | zero => exact ⟨Site.fresh, .start, rfl⟩
  | succ samples induction =>
      obtain ⟨site, run, counted⟩ := induction
      refine ⟨_, run.meet (.sampleRuntime (.error .cancelled)) Occurrence.isProper_unread nofun,
        ?_⟩
      rw [Site.pollCount_meet, counted, ← Int64.ofNat_add]
      rfl

/-- Where arithmetic wraps, the count turns negative once there are `2 ^ 63` samples. -/
theorem not_forall_pollCount_nonneg :
    ¬ ∀ taken site, (onOneMachine 1).Run false Site.fresh taken site →
      0 ≤ site.collector.pollCount.toInt := by
  intro nonnegative
  obtain ⟨site, run, counted⟩ := Run.sampleMany 0x8000000000000000
  have negative : ¬ 0 ≤ (Int64.ofNat 0x8000000000000000).toInt := by decide
  rw [← counted] at negative
  exact negative (nonnegative _ site run)

end Deployment

end Telemetry
