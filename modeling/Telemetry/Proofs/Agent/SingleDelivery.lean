import Telemetry.Proofs.Agent.Balance
import Telemetry.Proofs.Agent.Report
import Telemetry.Proofs.Metric.Wire
import Telemetry.Proofs.Signature

namespace Telemetry

open Telemetry

/-! An agent that sends each metric alone, its server, and what they count together. A report that
fails keeps its samples in the agent's count, whether the server has summed them up or not. -/

structure Relay (State : Type) where
  site : Site State
  report : Option Report
  taken : Nat
  /-- The samples that were summed up by the server in reports that failed. -/
  repeated : Int

variable {State : Type}

namespace Relay

def start (site : Site State) : Relay State := ⟨site, none, 0, 0⟩

def meet (deployment : Deployment State) (relay : Relay State) (occurrence : Occurrence) :
    Relay State :=
  { relay with
    site := relay.site.meet deployment occurrence
    taken := relay.taken + occurrence.samples }

def shutDown (relay : Relay State) : Relay State :=
  { relay with site := { relay.site with isStopped := true } }

def begin (deployment : Deployment State) (relay : Relay State) (random : Binary64) :
    Relay State :=
  { relay with
    report := some (.start (relay.site.collector.batch random) deployment.rateLimit) }

/-- The server takes in what it has received from a worker, or refuses it. -/
def serve (deployment : Deployment State) (relay : Relay State) (report : Report) (worker : Nat)
    (metric received : Metric) : Relay State :=
  let (result, world) :=
    deployment.backend.save received deployment.settings.key relay.site.world
  { relay with
    site := { relay.site with world := world }
    report := some (report.serve worker metric result) }

/-- A report is over. Its samples are taken off the count if it went well. -/
def conclude (relay : Relay State) (report : Report) : Relay State :=
  match report.pool.result with
  | .ok () => { relay with site := relay.site.acknowledge report.samples, report := none }
  | .error _ =>
    { relay with
      report := none
      repeated := relay.repeated + if report.isCounted then report.samples.toInt else 0 }

/-- What can happen next. The reader, the workers, the server, samples and other clients come in
any order; a request that the server does not take in fails. Where arithmetic is checked, a sample
that has no number breaks off, and nothing comes after it. -/
inductive Step (deployment : Deployment State) (checked : Bool) (relay : Relay State) :
    Relay State → Prop where
  | meet (occurrence : Occurrence) (proper : occurrence.IsProper)
      (room : checked = true → relay.site.collector.HasRoom occurrence.samples) :
      Step deployment checked relay (relay.meet deployment occurrence)
  | shutDown : Step deployment checked relay relay.shutDown
  | begin (random : Binary64) (ended : relay.report = none) :
      Step deployment checked relay (relay.begin deployment random)
  | work (report : Report) (underway : relay.report = some report) (event : PoolEvent)
      (admits : report.Admits deployment.encoder relay.site.isStopped event) (pool : Pool)
      (step : report.pool.step? event = some pool) :
      Step deployment checked relay { relay with report := some (report.follow event pool) }
  | serve (report : Report) (underway : relay.report = some report) (worker : Nat)
      (metric signed received : Metric)
      (sending : report.pool.workers[worker]? = some (.sending metric))
      (unserved : report.served worker = none)
      (attached : Signature.attach metric deployment.encoder.key = .ok signed)
      (resembles : received.Resembles signed) :
      Step deployment checked relay (relay.serve deployment report worker metric received)
  | lose (report : Report) (underway : relay.report = some report) (worker : Nat) (metric : Metric)
      (sending : report.pool.workers[worker]? = some (.sending metric))
      (unserved : report.served worker = none) (failure : Failure) :
      Step deployment checked relay
        { relay with report := some (report.serve worker metric (.error failure)) }
  | conclude (report : Report) (underway : relay.report = some report)
      (finished : report.pool.isFinished = true) :
      Step deployment checked relay (relay.conclude report)

inductive Reachable (deployment : Deployment State) (checked : Bool) (site : Site State) :
    Relay State → Prop where
  | start : Reachable deployment checked site (.start site)
  | step {relay next : Relay State} (reachable : Reachable deployment checked site relay)
      (step : Step deployment checked relay next) : Reachable deployment checked site next

/-- The samples that the server has summed up and the agent does not know of. -/
def unknown (relay : Relay State) : Int :=
  match relay.report with
  | some report => if report.isCounted then report.samples.toInt else 0
  | none => 0

/-- The samples so far divide between those that the server has for good and the count; beyond
them the server has what was summed up in vain and what the agent does not know of yet. -/
structure Accounts (checked : Bool) (Represents : State → Ledger → Prop) (relay : Relay State)
    (settled : Int) (count : Int64) : Prop where
  stands : relay.site.Stands Represents (settled + relay.repeated + relay.unknown) count
  balanced : Balanced checked settled count relay.taken
  tracked : ∀ report, relay.report = some report → report.Tracked
  within : ∀ report, relay.report = some report → CountsExactly checked relay.taken →
    0 ≤ report.samples.toInt ∧ report.samples.toInt ≤ count.toInt
  gained : CountsExactly checked relay.taken → 0 ≤ relay.repeated

namespace Accounts

variable {deployment : Deployment State} {checked : Bool}
  {Represents : State → Ledger → Prop} {relay next : Relay State} {settled : Int} {count : Int64}

theorem meet (tracks : deployment.Tracks Represents)
    (accounts : relay.Accounts checked Represents settled count) {occurrence : Occurrence}
    (proper : occurrence.IsProper)
    (room : checked = true → relay.site.collector.HasRoom occurrence.samples) :
    (relay.meet deployment occurrence).Accounts checked Represents settled
      (count + Int64.ofNat occurrence.samples) where
  stands := accounts.stands.meet tracks proper
  balanced := accounts.balanced.sample (accounts.stands.counted ▸ room)
  tracked := accounts.tracked
  within report underway counts := by
    obtain ⟨nonnegative, bounded⟩ := accounts.within report underway counts.of_add
    have grown := accounts.balanced.toInt_add_ofNat (accounts.stands.counted ▸ room) counts
    omega
  gained counts := accounts.gained counts.of_add

theorem begin (accounts : relay.Accounts checked Represents settled count)
    (ended : relay.report = none) (random : Binary64) :
    (relay.begin deployment random).Accounts checked Represents settled count := by
  have unknown : relay.unknown = 0 := by rw [Relay.unknown, ended]
  have counted := accounts.stands.counted
  have proper := accounts.stands.proper
  have samples := proper.sampleCount_batch random
  refine ⟨?_, accounts.balanced, ?_, ?_, accounts.gained⟩
  · have stands := accounts.stands
    rw [unknown] at stands
    exact stands
  · intro report underway
    obtain rfl := Option.some.inj underway
    rw [Collector.batch_eq]
    refine Report.tracked_start (fun metric member => ?_) deployment.rateLimit
    obtain ⟨id, value, otherName, rfl⟩ := proper.gauges random metric member
    exact otherName
  · intro report underway counts
    obtain rfl := Option.some.inj underway
    have sameCount : Collector.sampleCount (relay.site.collector.batch random) = count :=
      samples.trans counted
    have nonnegative := (accounts.balanced.exactly counts).2.1
    show 0 ≤ (Collector.sampleCount (relay.site.collector.batch random)).toInt ∧
      (Collector.sampleCount (relay.site.collector.batch random)).toInt ≤ count.toInt
    rw [sameCount]
    exact ⟨nonnegative, le_refl _⟩

theorem proceed (accounts : relay.Accounts checked Represents settled count) {report after : Report}
    (underway : relay.report = some report) (tracked : after.Tracked)
    (samples : after.samples = report.samples) (counted : after.isCounted = report.isCounted) :
    Accounts checked Represents { relay with report := some after } settled count := by
  refine ⟨?_, accounts.balanced, ?_, ?_, accounts.gained⟩
  · have stands := accounts.stands
    rw [Relay.unknown, underway] at stands
    show relay.site.Stands Represents
      (settled + relay.repeated + if after.isCounted then after.samples.toInt else 0) count
    rw [samples, counted]
    exact stands
  · intro other isReport
    obtain rfl := Option.some.inj isReport
    exact tracked
  · intro other isReport counts
    obtain rfl := Option.some.inj isReport
    rw [samples]
    exact accounts.within report underway counts

theorem serve (tracks : deployment.Tracks Represents)
    (accounts : relay.Accounts checked Represents settled count) {report : Report}
    (underway : relay.report = some report) {worker : Nat} {metric signed received : Metric}
    (sending : report.pool.workers[worker]? = some (.sending metric))
    (unserved : report.served worker = none)
    (attached : Signature.attach metric deployment.encoder.key = .ok signed)
    (resembles : received.Resembles signed) :
    (relay.serve deployment report worker metric received).Accounts checked Represents settled
      count := by
  have tracked := accounts.tracked report underway
  obtain ⟨⟨ledger, represents, sum⟩, proper, counted⟩ := accounts.stands
  obtain ⟨sameResult, stillRepresents⟩ :=
    tracks.simulation.save received deployment.settings.key represents
  obtain ⟨hash, rfl⟩ := Signature.isSigned_of_attach attached
  rw [Relay.unknown, underway] at sum
  refine ⟨⟨⟨_, stillRepresents, ?_⟩, proper, counted⟩, accounts.balanced, ?_, ?_,
    accounts.gained⟩
  · show _ = settled + relay.repeated +
      if (report.isCounted || decide (metric.id = pollCountName) &&
        (deployment.backend.save received deployment.settings.key relay.site.world).1.isOk) = true
      then report.samples.toInt else 0
    rw [sameResult]
    -- Of all that is on its way only the number of samples adds to the counter, and it does once.
    by_cases isCount : metric.id = pollCountName
    · obtain ⟨rfl, _, _, answer⟩ := tracked.phase.of_sending sending isCount
      have uncounted : report.isCounted = false := by
        rw [← Bool.not_eq_true, answer, unserved]
        simp
      have addsTo : received.AddsTo pollCountName := ⟨resembles.kind, resembles.id⟩
      simp only [uncounted, Bool.false_eq_true, if_false] at sum
      simp only [uncounted, isCount, decide_true, Bool.false_or, Bool.true_and]
      cases result : (ledger.save received deployment.settings.key).1 with
      | ok saved =>
          rw [Ledger.sum_save_of_addsTo addsTo resembles.delta result, sum, Int.add_zero]
          rfl
      | error failure =>
          rw [Ledger.save_refused result, sum]
          rfl
    · have elsewhere : ¬ received.AddsTo pollCountName :=
        fun addsTo => isCount (resembles.id.symm.trans addsTo.2)
      simp only [isCount, decide_false, Bool.false_and, Bool.or_false]
      rw [Ledger.sum_save_of_not_addsTo elsewhere, sum]
  · intro other isReport
    obtain rfl := Option.some.inj isReport
    exact tracked.serve sending unserved _
  · intro other isReport counts
    obtain rfl := Option.some.inj isReport
    exact accounts.within report underway counts

theorem conclude (accounts : relay.Accounts checked Represents settled count) {report : Report}
    (underway : relay.report = some report) (finished : report.pool.isFinished = true) :
    ∃ settled count, (relay.conclude report).Accounts checked Represents settled count := by
  have stands := accounts.stands
  rw [Relay.unknown, underway] at stands
  cases result : report.pool.result with
  | ok delivered =>
      have counted := (accounts.tracked report underway).isCounted_of_ok finished result
      have concluded : relay.conclude report =
          { relay with site := relay.site.acknowledge report.samples, report := none } := by
        rw [Relay.conclude, result]
      rw [concluded]
      refine ⟨settled + report.samples.toInt, count - report.samples, ?_,
        accounts.balanced.deliver (accounts.within report underway), ?_, ?_, accounts.gained⟩
      · have acknowledged := stands.acknowledge report.samples
        have moved : settled + relay.repeated + report.samples.toInt =
            settled + report.samples.toInt + relay.repeated + 0 := by omega
        simp only [counted, if_true] at acknowledged
        rw [moved] at acknowledged
        exact acknowledged
      · intro other isReport
        cases isReport
      · intro other isReport
        cases isReport
  | error failure =>
      have concluded : relay.conclude report =
          { relay with
            report := none
            repeated :=
              relay.repeated + if report.isCounted then report.samples.toInt else 0 } := by
        rw [Relay.conclude, result]
      rw [concluded]
      refine ⟨settled, count, ?_, accounts.balanced, ?_, ?_, fun counts => ?_⟩
      · rw [Int.add_assoc, ← Int.add_zero (relay.repeated + _)] at stands
        rw [Int.add_assoc]
        exact stands
      · intro other isReport
        cases isReport
      · intro other isReport
        cases isReport
      · have soFar := accounts.gained counts
        have nonnegative := (accounts.within report underway counts).1
        show 0 ≤ relay.repeated + if report.isCounted then report.samples.toInt else 0
        split <;> omega

theorem step (tracks : deployment.Tracks Represents)
    (accounts : relay.Accounts checked Represents settled count)
    (step : Step deployment checked relay next) :
    ∃ settled count, next.Accounts checked Represents settled count := by
  cases step with
  | meet occurrence proper room => exact ⟨_, _, accounts.meet tracks proper room⟩
  | shutDown =>
      obtain ⟨stands, balanced, tracked, within, gained⟩ := accounts
      exact ⟨_, _, ⟨stands.represented, stands.proper, stands.counted⟩, balanced, tracked, within,
        gained⟩
  | begin random ended => exact ⟨_, _, accounts.begin ended random⟩
  | work report underway event admits pool step =>
      have agrees : ∀ worker result, event = .answer worker result →
          report.served worker = some result := by
        rintro worker result rfl
        exact admits
      have tracked := (accounts.tracked report underway).follow (Pool.move_of_step? step) agrees
      exact ⟨_, _, accounts.proceed underway tracked rfl rfl⟩
  | serve report underway worker metric signed received sending unserved attached resembles =>
      exact ⟨_, _, accounts.serve tracks underway sending unserved attached resembles⟩
  | lose report underway worker metric sending unserved failure =>
      have tracked := (accounts.tracked report underway).serve sending unserved (.error failure)
      refine ⟨_, _, accounts.proceed underway tracked rfl ?_⟩
      simp [Report.serve, Except.isOk, Except.toBool]
  | conclude report underway finished => exact accounts.conclude underway finished

end Accounts

theorem Reachable.accounts {deployment : Deployment State} {checked : Bool}
    {Represents : State → Ledger → Prop}
    (tracks : deployment.Tracks Represents) {site : Site State}
    (stands : site.Stands Represents 0 0) {relay : Relay State}
    (reachable : Reachable deployment checked site relay) :
    ∃ settled count, relay.Accounts checked Represents settled count := by
  induction reachable with
  | start =>
      refine ⟨0, 0, stands, .start, ?_, ?_, fun _ => le_refl _⟩
      · intro report isReport
        cases isReport
      · intro report isReport
        cases isReport
  | step reachable step induction =>
      obtain ⟨settled, count, accounts⟩ := induction
      exact accounts.step tracks step

/-- Between reports, nothing that the server has summed up is unknown to the agent but for what was
summed up in vain. -/
theorem Accounts.sum_eq_settled {deployment : Deployment State} {checked : Bool}
    {Represents : State → Ledger → Prop} (tracks : deployment.Tracks Represents)
    {relay : Relay State} {settled : Int} {count : Int64}
    (accounts : relay.Accounts checked Represents settled count) (ended : relay.report = none) :
    deployment.backend.sum pollCountName relay.site.world = settled + relay.repeated ∧
      relay.site.collector.pollCount = count := by
  have known : relay.unknown = 0 := by rw [Relay.unknown, ended]
  have sum := accounts.stands.sum_eq tracks
  rw [known, Int.add_zero] at sum
  exact ⟨sum, accounts.stands.counted⟩

/-- With one worker, a report that fails has not been summed up. -/
theorem Reachable.repeated_eq_zero {deployment : Deployment State} {checked : Bool}
    {Represents : State → Ledger → Prop}
    (tracks : deployment.Tracks Represents) {site : Site State}
    (stands : site.Stands Represents 0 0) (alone : deployment.rateLimit ≤ 1) {relay : Relay State}
    (reachable : Reachable deployment checked site relay) :
    relay.repeated = 0 ∧
      ∀ report, relay.report = some report → ∃ stage, report.Alone stage := by
  induction reachable with
  | start =>
      refine ⟨rfl, fun report isReport => ?_⟩
      cases isReport
  | step reachable step induction =>
      obtain ⟨unrepeated, aloneSoFar⟩ := induction
      obtain ⟨settled, count, accounts⟩ := reachable.accounts tracks stands
      cases step with
      | meet occurrence proper room => exact ⟨unrepeated, aloneSoFar⟩
      | shutDown => exact ⟨unrepeated, aloneSoFar⟩
      | begin random ended =>
          refine ⟨unrepeated, fun report isReport => ?_⟩
          obtain rfl := Option.some.inj isReport
          have one : max deployment.rateLimit 1 = 1 := by omega
          refine ⟨.idle, ?_, ?_, ?_⟩
          · show List.replicate (max deployment.rateLimit 1) Stage.idle = [.idle]
            rw [one]
            rfl
          · intro failed
            cases failed
          · intro counted
            cases counted
      | work report underway event admits pool step =>
          refine ⟨unrepeated, fun other isReport => ?_⟩
          obtain rfl := Option.some.inj isReport
          obtain ⟨stage, isAlone⟩ := aloneSoFar report underway
          refine isAlone.follow (accounts.tracked report underway) (Pool.move_of_step? step) ?_
          rintro worker result rfl
          exact admits
      | serve report underway worker metric signed received sending unserved attached resembles =>
          refine ⟨unrepeated, fun other isReport => ?_⟩
          obtain rfl := Option.some.inj isReport
          obtain ⟨stage, isAlone⟩ := aloneSoFar report underway
          exact ⟨stage, isAlone.serve sending _⟩
      | lose report underway worker metric sending unserved failure =>
          refine ⟨unrepeated, fun other isReport => ?_⟩
          obtain rfl := Option.some.inj isReport
          obtain ⟨stage, isAlone⟩ := aloneSoFar report underway
          exact ⟨stage, isAlone.serve sending _⟩
      | conclude report underway finished =>
          obtain ⟨stage, isAlone⟩ := aloneSoFar report underway
          unfold Relay.conclude
          cases result : report.pool.result with
          | ok delivered =>
              refine ⟨unrepeated, fun other isReport => ?_⟩
              cases isReport
          | error failure =>
              have uncounted :=
                isAlone.isCounted_of_error (accounts.tracked report underway) result
              refine ⟨?_, fun other isReport => ?_⟩
              · simp [unrepeated, uncounted]
              · cases isReport

section

variable {deployment : Deployment State} {checked : Bool} {site : Site State} {relay : Relay State}

/-- A worker takes the metric that waits and makes a body of it. -/
theorem Reachable.prepare (reachable : Reachable deployment checked site relay) (report : Report)
    (underway : relay.report = some report) (worker : Nat) (metric : Metric)
    (encodes : (.ok () : Except Failure Unit) =
      (deployment.encoder.encodeOne [] metric).map fun _ => ())
    (turned taken sent : Pool) (turns : report.pool.turn worker = some turned)
    (takes : turned.take worker = some taken)
    (encoding : taken.workers[worker]? = some (.encoding metric))
    (sends : taken.encode worker (.ok ()) = some sent) :
    Reachable deployment checked site
      { relay with report := some { report with pool := sent } } := by
  have afterTurn := reachable.step (.work report underway (.turn worker) trivial turned turns)
  have afterTake := afterTurn.step (.work { report with pool := turned } rfl (.take worker) trivial
    taken takes)
  exact afterTake.step (.work { report with pool := taken } rfl (.encode worker (.ok ()))
    ⟨metric, [], encoding, encodes⟩ sent sends)

/-- The server takes in what a worker sends, or refuses it, and the worker hears of that. -/
theorem Reachable.deliver (reachable : Reachable deployment checked site relay) (report : Report)
    (underway : relay.report = some report) (worker : Nat) (metric signed received : Metric)
    (sending : report.pool.workers[worker]? = some (.sending metric))
    (unserved : report.served worker = none)
    (attached : Signature.attach metric deployment.encoder.key = .ok signed)
    (resembles : received.Resembles signed) (result : Except Failure Unit)
    (answers : (deployment.backend.save received deployment.settings.key relay.site.world).1 =
      result)
    (pool : Pool) (hears : report.pool.answer worker result = some pool) :
    Reachable deployment checked site
      { relay.serve deployment report worker metric received with
        report :=
          some ((report.serve worker metric result).follow (.answer worker result) pool) } := by
  have served := reachable.step (.serve report underway worker metric signed received sending
    unserved attached resembles)
  have admits : (report.serve worker metric result).Admits deployment.encoder
      (relay.serve deployment report worker metric received).site.isStopped
      (.answer worker result) := Function.update_self _ _ _
  subst answers
  exact served.step (.work _ rfl (.answer worker _) admits pool hears)

end

theorem encodes_onOneMachine (rateLimit : Nat) (metric : Metric) : (.ok () : Except Failure Unit) =
    ((Deployment.onOneMachine rateLimit).encoder.encodeOne [] metric).map fun _ => () := by
  simp [Deployment.onOneMachine, Encoder.encodeOne, Signature.attach, Except.map]

/-- Two workers have a metric each on its way. The number of samples arrives and the other metric
does not, so the report fails, and the sample stays in the agent's count. -/
theorem reachable_repeated :
    ∃ relay, Reachable (.onOneMachine 2) true .fresh relay ∧ relay.report = none ∧ relay.taken = 1 ∧
      relay.repeated = 1 := by
  have encodes := encodes_onOneMachine 2
  have begins : Reachable (.onOneMachine 2) true .fresh (.start .fresh) := .start
  have sampled := begins.step (.meet (.sampleRuntime (.error .cancelled))
    Occurrence.isProper_unread fun _ => Collector.hasRoom_one_iff.mpr rfl)
  have begun := sampled.step (.begin .zero rfl)
  have queued := begun.step (.work _ rfl (.read false) (by rfl) _ rfl)
  have sent := queued.prepare _ rfl 0 _ (encodes _) _ _ _ rfl rfl rfl rfl
  have countQueued := sent.step (.work _ rfl (.read false) (by rfl) _ rfl)
  have countSent := countQueued.prepare _ rfl 1 _ (encodes _) _ _ _ rfl rfl rfl rfl
  have delivered := countSent.deliver _ rfl 1 _ _ (.counter pollCountName 1) rfl rfl rfl
    ⟨rfl, rfl, rfl, rfl⟩ _ rfl _ rfl
  have lost := delivered.step (.lose _ rfl 0 _ rfl rfl .cancelled)
  have failed := lost.step (.work _ rfl (.answer 0 (.error .cancelled)) (by rfl) _ rfl)
  have exhausted := failed.step (.work _ rfl (.read false) (by rfl) _ rfl)
  have turned := exhausted.step (.work _ rfl (.turn 1) trivial _ rfl)
  have quit := turned.step (.work _ rfl (.take 1) trivial _ rfl)
  have concluded := quit.step (.conclude _ rfl rfl)
  exact ⟨_, concluded, rfl, rfl, rfl⟩

/-- Between reports, what the server has summed up and the agent's count add up to the samples so
far, together with those that were summed up in reports that failed: up to multiples of `2 ^ 64`,
and exactly with checked arithmetic or as long as there are fewer than `2 ^ 63` samples, none of
which is lost. With one worker none is summed up in vain. -/
theorem Reachable.sum_add_pollCount_repeated {deployment : Deployment (Storage × Disk)}
    {checked : Bool}
    (opened : deployment.IsOpened) {site : Site (Storage × Disk)} {ledger : Ledger}
    (represents : Storage.Represents site.world ledger)
    (absent : ledger.lookup (.counter pollCountName) = none)
    (proper : site.collector.IsProper) (fresh : site.collector.pollCount = 0)
    {relay : Relay (Storage × Disk)} (reachable : Reachable deployment checked site relay)
    (ended : relay.report = none) :
    Int64.ofInt (Storage.backend.sum pollCountName relay.site.world - relay.repeated) +
          relay.site.collector.pollCount = Int64.ofNat relay.taken ∧
      (checked = true ∨ relay.taken < 0x8000000000000000 →
        Storage.backend.sum pollCountName relay.site.world +
            relay.site.collector.pollCount.toInt = relay.taken + relay.repeated ∧
          0 ≤ relay.repeated) ∧
      (deployment.rateLimit ≤ 1 → relay.repeated = 0) := by
  have starts : site.Stands Storage.Represents 0 0 :=
    .of_absent represents absent proper fresh
  obtain ⟨settled, count, accounts⟩ := reachable.accounts opened.tracks starts
  obtain ⟨sum, counted⟩ := accounts.sum_eq_settled opened.tracks ended
  rw [← opened.backend, sum, counted]
  refine ⟨?_, fun counts => ?_, fun alone => ?_⟩
  · rw [Int.add_sub_cancel]
    exact accounts.balanced.wrapped
  · obtain ⟨_, _, total⟩ := accounts.balanced.exactly counts
    exact ⟨by omega, accounts.gained counts⟩
  · exact (reachable.repeated_eq_zero opened.tracks starts alone).1

theorem sum_add_pollCount_repeated_onOneMachine :
    ∃ relay, Reachable (.onOneMachine 2) true .fresh relay ∧ relay.report = none ∧
      Storage.backend.sum pollCountName relay.site.world +
        relay.site.collector.pollCount.toInt = 1 + 1 := by
  obtain ⟨relay, reachable, ended, taken, repeated⟩ := reachable_repeated
  have counted := reachable.sum_add_pollCount_repeated (Deployment.isOpened_onOneMachine 2)
    Site.represents_fresh rfl (Collector.isProper_start _ _) rfl ended
  rw [taken, repeated] at counted
  exact ⟨relay, reachable, ended, (counted.2.1 (.inl rfl)).1⟩

/-- A server that writes a snapshot on each save, with one worker to send to it. -/
def synchronous : Site (Storage × Disk) :=
  ⟨.start (.ok []) .zero, false, .start, .file (.empty (some "metrics") .zero), .empty⟩

/-- A directory is in the place of the draft. -/
def blocked : Disk := Disk.empty.set "/metrics.tmp" .directory

/-- The snapshot that the number of samples is saved with fails, so the report fails, though the
server has summed it up. The next report delivers the same sample again. -/
theorem reachable_redelivered :
    ∃ relay, Reachable (.onOneMachine 1) true synchronous relay ∧ relay.report = none ∧
      relay.taken = 1 ∧ relay.site.collector.pollCount = 0 ∧
      Storage.backend.sum pollCountName relay.site.world = 2 := by
  have encodes := encodes_onOneMachine 1
  have begins : Reachable (.onOneMachine 1) true synchronous (.start synchronous) := .start
  have sampled := begins.step (.meet (.sampleRuntime (.error .cancelled))
    Occurrence.isProper_unread fun _ => Collector.hasRoom_one_iff.mpr rfl)
  have begun := sampled.step (.begin .zero rfl)
  have queued := begun.step (.work _ rfl (.read false) (by rfl) _ rfl)
  have sent := queued.prepare _ rfl 0 _ (encodes _) _ _ _ rfl rfl rfl rfl
  have countQueued := sent.step (.work _ rfl (.read false) (by rfl) _ rfl)
  have delivered := countQueued.deliver _ rfl 0 _ _ (.gauge randomName .zero) rfl rfl rfl
    ⟨rfl, rfl, rfl, rfl⟩ _ rfl _ rfl
  have blocks := delivered.step (.meet (.replaceFiles blocked) trivial
    fun _ => Collector.hasRoom_zero _)
  have countSent := blocks.prepare _ rfl 0 _ (encodes _) _ _ _ rfl rfl rfl rfl
  have refused := countSent.deliver _ rfl 0 _ _ (.counter pollCountName 1) rfl rfl rfl
    ⟨rfl, rfl, rfl, rfl⟩ (.error (.io (.system .isDirectory))) rfl _ rfl
  have exhausted := refused.step (.work _ rfl (.read false) (by rfl) _ rfl)
  have concluded := exhausted.step (.conclude _ rfl rfl)
  have clears := concluded.step (.meet (.replaceFiles .empty) trivial
    fun _ => Collector.hasRoom_zero _)
  have begunAgain := clears.step (.begin .zero rfl)
  have queuedAgain := begunAgain.step (.work _ rfl (.read false) (by rfl) _ rfl)
  have sentAgain := queuedAgain.prepare _ rfl 0 _ (encodes _) _ _ _ rfl rfl rfl rfl
  have countQueuedAgain := sentAgain.step (.work _ rfl (.read false) (by rfl) _ rfl)
  have deliveredAgain := countQueuedAgain.deliver _ rfl 0 _ _ (.gauge randomName .zero) rfl rfl rfl
    ⟨rfl, rfl, rfl, rfl⟩ _ rfl _ rfl
  have countSentAgain := deliveredAgain.prepare _ rfl 0 _ (encodes _) _ _ _ rfl rfl rfl rfl
  have counted := countSentAgain.deliver _ rfl 0 _ _ (.counter pollCountName 1) rfl rfl rfl
    ⟨rfl, rfl, rfl, rfl⟩ _ rfl _ rfl
  have exhaustedAgain := counted.step (.work _ rfl (.read false) (by rfl) _ rfl)
  have turned := exhaustedAgain.step (.work _ rfl (.turn 0) trivial _ rfl)
  have quit := turned.step (.work _ rfl (.take 0) trivial _ rfl)
  have concludedAgain := quit.step (.conclude _ rfl rfl)
  exact ⟨_, concludedAgain, rfl, rfl, rfl, rfl⟩

/-- A sample is summed up twice when of two requests under way one fails, and also when the server
refuses what it has already taken in. -/
theorem not_forall_sum_add_pollCount :
    (¬ ∀ relay, Reachable (.onOneMachine 2) true .fresh relay → relay.report = none →
      Storage.backend.sum pollCountName relay.site.world +
        relay.site.collector.pollCount.toInt = relay.taken) ∧
    ¬ ∀ relay, Reachable (.onOneMachine 1) true synchronous relay → relay.report = none →
      Storage.backend.sum pollCountName relay.site.world +
        relay.site.collector.pollCount.toInt = relay.taken := by
  refine ⟨fun once => ?_, fun once => ?_⟩
  · obtain ⟨relay, reachable, ended, taken, repeated⟩ := reachable_repeated
    have starts : Site.fresh.Stands Storage.Represents 0 0 :=
      .of_absent Site.represents_fresh rfl (Collector.isProper_start _ _) rfl
    have tracks := (Deployment.isOpened_onOneMachine 2).tracks
    obtain ⟨settled, count, accounts⟩ := reachable.accounts tracks starts
    obtain ⟨sum, counted⟩ := accounts.sum_eq_settled tracks ended
    obtain ⟨_, _, total⟩ := accounts.balanced.exactly (.inl rfl)
    have same : settled + relay.repeated + count.toInt = relay.taken := by
      rw [← sum, ← counted]
      exact once relay reachable ended
    omega
  · obtain ⟨relay, reachable, ended, taken, counted, sum⟩ := reachable_redelivered
    have same := once relay reachable ended
    rw [sum, counted, taken] at same
    exact absurd same (by decide)

end Relay

end Telemetry
