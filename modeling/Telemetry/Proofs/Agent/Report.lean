import Mathlib.Logic.Function.Basic
import Telemetry.Agent.Encoder
import Telemetry.Proofs.Agent.Pool

namespace Telemetry

open Telemetry

/-! A batch on its way metric by metric, and where the number of samples is meanwhile. It comes last
in the batch, so nothing waits behind it. -/

structure Report where
  /-- The samples that the batch counts. -/
  samples : Int64
  pool : Pool
  /-- What came of the requests whose answers have not arrived. -/
  served : Nat → Option (Except Failure Unit)
  /-- Whether the server has summed up the samples. -/
  isCounted : Bool

namespace Report

def start (batch : List Metric) (rateLimit : Nat) : Report :=
  ⟨Collector.sampleCount batch, .start batch rateLimit, fun _ => none, false⟩

def count (report : Report) : Metric := .counter pollCountName report.samples

def follow (report : Report) (event : PoolEvent) (pool : Pool) : Report :=
  { report with
    pool := pool
    served := match event with
      | .answer worker _ => Function.update report.served worker none
      | _ => report.served }

def serve (report : Report) (worker : Nat) (metric : Metric) (result : Except Failure Unit) :
    Report :=
  { report with
    served := Function.update report.served worker (some result)
    isCounted := report.isCounted || decide (metric.id = pollCountName) && result.isOk }

/-- Whether an event agrees with what is around the pool: a shutdown, the bodies that an encoder
makes, and what came of requests. -/
def Admits (report : Report) (encoder : Encoder) (isStopped : Bool) : PoolEvent → Prop
  | .read shutdown => shutdown = isStopped
  | .turn _ => True
  | .take _ => True
  | .encode worker result => ∃ metric filler,
      report.pool.workers[worker]? = some (.encoding metric) ∧
        result = (encoder.encodeOne filler metric).map fun _ => ()
  | .answer worker result => report.served worker = some result

end Report

namespace Pool

/-- The worker has not the number of samples in hand. -/
def IsFree (pool : Pool) (worker : Nat) : Prop :=
  ∀ stage, pool.workers[worker]? = some stage → ∀ metric ∈ stage.metric?, metric.id ≠ pollCountName

variable {pool : Pool} {worker other : Nat} {stage : Stage}

theorem getElem?_setStage_of_ne (otherWorker : other ≠ worker) :
    (pool.setStage worker stage).workers[other]? = pool.workers[other]? :=
  List.getElem?_set_ne (Ne.symm otherWorker)

theorem getElem?_setStage {before : Stage} (present : pool.workers[worker]? = some before) :
    (pool.setStage worker stage).workers[worker]? = some stage := by
  obtain ⟨bound, _⟩ := List.getElem?_eq_some_iff.mp present
  exact List.getElem?_set_self bound

theorem isFree_of_none (absent : pool.workers[worker]? = none) : pool.IsFree worker := by
  intro stage present
  rw [absent] at present
  cases present

theorem isFree_of_metric? (present : pool.workers[worker]? = some stage)
    (spare : ∀ metric ∈ stage.metric?, metric.id ≠ pollCountName) : pool.IsFree worker := by
  intro held isHeld
  rw [present] at isHeld
  obtain rfl := Option.some.inj isHeld
  exact spare

theorem IsFree.of_eq {next : Pool} (free : pool.IsFree worker)
    (same : next.workers[worker]? = pool.workers[worker]?) : next.IsFree worker := by
  intro stage present
  exact free stage (same ▸ present)

end Pool

namespace Report

/-- Where the number of samples is. -/
inductive Phase (report : Report) : Prop where
  | waiting (others : List Metric) (line : report.pool.waiting = others ++ [report.count])
      (leave : ∀ metric ∈ others, metric.id ≠ pollCountName)
      (free : ∀ worker, report.pool.IsFree worker) (uncounted : report.isCounted = false)
  | taken (worker : Nat) (encoding : report.pool.workers[worker]? = some (.encoding report.count))
      (empty : report.pool.waiting = [])
      (free : ∀ other, other ≠ worker → report.pool.IsFree other)
      (uncounted : report.isCounted = false)
  | sent (worker : Nat) (sending : report.pool.workers[worker]? = some (.sending report.count))
      (empty : report.pool.waiting = [])
      (free : ∀ other, other ≠ worker → report.pool.IsFree other)
      (answer : report.isCounted = true ↔ report.served worker = some (.ok ()))
  | ended (empty : report.pool.waiting = []) (free : ∀ worker, report.pool.IsFree worker)
      (known : report.isCounted = true ∨
        report.isCounted = false ∧ report.pool.failure.isSome = true)

namespace Phase

variable {report next : Report}

/-- Another worker than the one with the number of samples, or the reader, has gone on. -/
theorem frame (phase : report.Phase) (worker : Nat) (samples : next.samples = report.samples)
    (waiting : next.pool.waiting = report.pool.waiting)
    (others : ∀ other, other ≠ worker →
      next.pool.workers[other]? = report.pool.workers[other]? ∧
        next.served other = report.served other)
    (before : report.pool.IsFree worker) (after : next.pool.IsFree worker)
    (counted : next.isCounted = report.isCounted)
    (failed : report.pool.failure.isSome = true → next.pool.failure.isSome = true) :
    next.Phase := by
  have count : next.count = report.count := by rw [Report.count, Report.count, samples]
  have free : ∀ other, report.pool.IsFree other → next.pool.IsFree other := by
    intro other isFree
    by_cases same : other = worker
    · exact same ▸ after
    · exact isFree.of_eq (others other same).1
  -- The one that has the number of samples is not the one that went on.
  have notHolder : ∀ holder stage, report.pool.workers[holder]? = some stage →
      report.count ∈ stage.metric? → holder ≠ worker := by
    rintro holder stage present holds rfl
    exact before stage present _ holds rfl
  cases phase with
  | waiting unread line leave isFree uncounted =>
      exact .waiting unread (by rw [waiting, count, line]) leave
        (fun worker => free worker (isFree worker)) (counted.trans uncounted)
  | taken holder encoding empty isFree uncounted =>
      have otherWorker := notHolder holder _ encoding rfl
      refine .taken holder ?_ (waiting.trans empty)
        (fun other isOther => free other (isFree other isOther)) (counted.trans uncounted)
      rw [(others holder otherWorker).1, count, encoding]
  | sent holder sending empty isFree answer =>
      have otherWorker := notHolder holder _ sending rfl
      refine .sent holder ?_ (waiting.trans empty)
        (fun other isOther => free other (isFree other isOther)) ?_
      · rw [(others holder otherWorker).1, count, sending]
      · rw [counted, (others holder otherWorker).2, answer]
  | ended empty isFree known =>
      refine .ended (waiting.trans empty) (fun worker => free worker (isFree worker)) ?_
      rw [counted]
      exact known.imp_right fun ⟨uncounted, failure⟩ => ⟨uncounted, failed failure⟩

theorem read (phase : report.Phase) {pool : Pool} (workers : pool.workers = report.pool.workers)
    (waiting : pool.waiting = report.pool.waiting) (failure : pool.failure = report.pool.failure) :
    Phase { report with pool := pool } := by
  -- No worker went on; the number of one that does not exist stands for it.
  have noWorker : report.pool.workers[report.pool.workers.length]? = none := by simp
  have free : pool.IsFree report.pool.workers.length :=
    Pool.isFree_of_none (workers ▸ noWorker)
  exact phase.frame _ rfl waiting (fun other _ => ⟨by rw [workers], rfl⟩)
    (Pool.isFree_of_none noWorker) free rfl (fun failed => failure ▸ failed)

/-- A worker has gone on that neither had the number of samples in hand nor has it now. -/
theorem goOn (phase : report.Phase) (pool : Pool) (after : Stage) {worker : Nat} {before : Stage}
    (present : report.pool.workers[worker]? = some before)
    (workers : pool.workers = report.pool.workers.set worker after)
    (waiting : pool.waiting = report.pool.waiting)
    (spareBefore : ∀ metric ∈ before.metric?, metric.id ≠ pollCountName)
    (spareAfter : ∀ metric ∈ after.metric?, metric.id ≠ pollCountName)
    (failed : report.pool.failure.isSome = true → pool.failure.isSome = true)
    {served : Nat → Option (Except Failure Unit)}
    (others : ∀ other, other ≠ worker → served other = report.served other) :
    Phase { report with pool := pool, served := served } := by
  have free : pool.IsFree worker := by
    refine Pool.isFree_of_metric? ?_ spareAfter
    obtain ⟨bound, _⟩ := List.getElem?_eq_some_iff.mp present
    rw [workers, List.getElem?_set_self bound]
  refine phase.frame worker rfl waiting (fun other isOther => ⟨?_, others other isOther⟩)
    (Pool.isFree_of_metric? present spareBefore) free rfl failed
  show pool.workers[other]? = _
  rw [workers, List.getElem?_set_ne (Ne.symm isOther)]

theorem of_encoding (phase : report.Phase) {worker : Nat} {metric : Metric}
    (encoding : report.pool.workers[worker]? = some (.encoding metric))
    (isCount : metric.id = pollCountName) :
    metric = report.count ∧ report.pool.waiting = [] ∧
      (∀ other, other ≠ worker → report.pool.IsFree other) ∧ report.isCounted = false := by
  have notFree : ¬ report.pool.IsFree worker := fun free => free _ encoding metric rfl isCount
  cases phase with
  | waiting others line leave free uncounted => exact absurd (free worker) notFree
  | taken holder holds empty free uncounted =>
      by_cases same : worker = holder
      · subst same
        rw [encoding] at holds
        obtain rfl := Stage.encoding.inj (Option.some.inj holds)
        exact ⟨rfl, empty, free, uncounted⟩
      · exact absurd (free worker same) notFree
  | sent holder sending empty free answer =>
      by_cases same : worker = holder
      · subst same
        rw [encoding] at sending
        cases sending
      · exact absurd (free worker same) notFree
  | ended empty free known => exact absurd (free worker) notFree

theorem of_sending (phase : report.Phase) {worker : Nat} {metric : Metric}
    (sending : report.pool.workers[worker]? = some (.sending metric))
    (isCount : metric.id = pollCountName) :
    metric = report.count ∧ report.pool.waiting = [] ∧
      (∀ other, other ≠ worker → report.pool.IsFree other) ∧
      (report.isCounted = true ↔ report.served worker = some (.ok ())) := by
  have notFree : ¬ report.pool.IsFree worker := fun free => free _ sending metric rfl isCount
  cases phase with
  | waiting others line leave free uncounted => exact absurd (free worker) notFree
  | taken holder holds empty free uncounted =>
      by_cases same : worker = holder
      · subst same
        rw [sending] at holds
        cases holds
      · exact absurd (free worker same) notFree
  | sent holder holds empty free answer =>
      by_cases same : worker = holder
      · subst same
        rw [sending] at holds
        obtain rfl := Stage.sending.inj (Option.some.inj holds)
        exact ⟨rfl, empty, free, answer⟩
      · exact absurd (free worker same) notFree
  | ended empty free known => exact absurd (free worker) notFree

theorem waiting_of_counted (phase : report.Phase) (counted : report.isCounted = true) :
    report.pool.waiting = [] := by
  cases phase with
  | waiting others line leave free uncounted =>
      rw [counted] at uncounted
      cases uncounted
  | taken holder holds empty free uncounted => exact empty
  | sent holder sending empty free answer => exact empty
  | ended empty free known => exact empty

end Phase

/-- A report whose samples are where they are known to be. -/
structure Tracked (report : Report) : Prop where
  coherent : report.pool.Coherent
  phase : report.Phase
  served : ∀ worker, report.served worker ≠ none →
    ∃ metric, report.pool.workers[worker]? = some (.sending metric)

theorem tracked_start {others : List Metric} {samples : Int64}
    (leave : ∀ metric ∈ others, metric.id ≠ pollCountName) (rateLimit : Nat) :
    (start (others ++ [.counter pollCountName samples]) rateLimit).Tracked := by
  have counts : Collector.sampleCount (others ++ [.counter pollCountName samples]) = samples := by
    have passed : others.find? (fun metric => metric.id = pollCountName) = none := by
      rw [List.find?_eq_none]
      exact fun metric member same => leave metric member (of_decide_eq_true same)
    rw [Collector.sampleCount, List.find?_append, passed]
    rfl
  refine ⟨Pool.coherent_start _ rateLimit, .waiting others ?_ leave ?_ rfl, ?_⟩
  · rw [count, start, counts]
    rfl
  · intro worker stage present
    have isIdle : stage = .idle := by
      have member : stage ∈ List.replicate (max rateLimit 1) Stage.idle :=
        List.mem_of_getElem? present
      exact (List.mem_replicate.mp member).2
    rw [isIdle]
    intro metric holds
    cases holds
  · exact fun worker served => absurd rfl served

namespace Tracked

variable {report : Report} {event : PoolEvent} {next : Pool}

theorem served_eq_none (tracked : report.Tracked) {worker : Nat} {stage : Stage}
    (present : report.pool.workers[worker]? = some stage) (notSending : stage.isSending = false) :
    report.served worker = none := by
  by_cases served : report.served worker = none
  · exact served
  · obtain ⟨metric, sending⟩ := tracked.served worker served
    rw [present] at sending
    rw [Option.some.inj sending] at notSending
    cases notSending

theorem served_follow (tracked : report.Tracked) {worker : Nat} {stage : Stage} {pool : Pool}
    (workers : pool.workers = report.pool.workers.set worker stage)
    (clear : (report.follow event pool).served worker = none)
    (others : ∀ other, other ≠ worker →
      (report.follow event pool).served other = report.served other) :
    ∀ other, (report.follow event pool).served other ≠ none →
      ∃ metric, (report.follow event pool).pool.workers[other]? = some (.sending metric) := by
  intro other served
  by_cases same : other = worker
  · rw [same, clear] at served
    exact absurd rfl served
  · rw [others other same] at served
    obtain ⟨metric, sending⟩ := tracked.served other served
    refine ⟨metric, ?_⟩
    show pool.workers[other]? = _
    rw [workers, List.getElem?_set_ne (Ne.symm same), sending]

theorem phase_take (phase : report.Phase) {worker : Nat} {metric : Metric}
    (taking : report.pool.workers[worker]? = some .taking)
    (queued : report.pool.slot = some metric) :
    Phase { report with
      pool := { report.pool.setStage worker (.encoding metric) with slot := none } } := by
  have line : report.pool.waiting = metric :: report.pool.unread := by
    rw [Pool.waiting, queued]
    rfl
  have stage : (report.pool.setStage worker (.encoding metric)).workers[worker]? =
      some (.encoding metric) := Pool.getElem?_setStage taking
  have elsewhere : ∀ other, other ≠ worker → report.pool.IsFree other →
      Pool.IsFree { report.pool.setStage worker (.encoding metric) with slot := none } other :=
    fun other isOther free => free.of_eq (Pool.getElem?_setStage_of_ne isOther)
  cases phase with
  | waiting others isLine leave free uncounted =>
      rw [line] at isLine
      cases others with
      | nil =>
          obtain ⟨rfl, empty⟩ := List.cons.inj isLine
          exact .taken worker stage empty
            (fun other isOther => elsewhere other isOther (free other)) uncounted
      | cons first others =>
          obtain ⟨rfl, rest⟩ := List.cons.inj isLine
          refine .waiting others rest (fun other member => leave other (by simp [member])) ?_
            uncounted
          intro other
          by_cases same : other = worker
          · subst same
            refine Pool.isFree_of_metric? stage fun held isHeld => ?_
            obtain rfl := Option.some.inj isHeld
            exact leave metric (by simp)
          · exact elsewhere other same (free other)
  | taken holder encoding empty free uncounted =>
      rw [line] at empty
      cases empty
  | sent holder sending empty free answer =>
      rw [line] at empty
      cases empty
  | ended empty free known =>
      rw [line] at empty
      cases empty

theorem phase_over (pool : Pool) (after : Stage) {worker : Nat} {before : Stage}
    (present : report.pool.workers[worker]? = some before)
    (workers : pool.workers = report.pool.workers.set worker after)
    (spare : ∀ metric ∈ after.metric?, metric.id ≠ pollCountName)
    (waiting : pool.waiting = report.pool.waiting) (empty : report.pool.waiting = [])
    (free : ∀ other, other ≠ worker → report.pool.IsFree other)
    (known : report.isCounted = true ∨ report.isCounted = false ∧ pool.failure.isSome = true)
    (served : Nat → Option (Except Failure Unit)) :
    Phase { report with pool := pool, served := served } := by
  refine .ended (waiting.trans empty) (fun other => ?_) known
  by_cases same : other = worker
  · subst same
    refine Pool.isFree_of_metric? ?_ spare
    obtain ⟨bound, _⟩ := List.getElem?_eq_some_iff.mp present
    show pool.workers[other]? = _
    rw [workers, List.getElem?_set_self bound]
  · refine (free other same).of_eq ?_
    show pool.workers[other]? = _
    rw [workers, List.getElem?_set_ne (Ne.symm same)]

theorem phase_follow (tracked : report.Tracked) (move : report.pool.Move event next)
    (agrees : ∀ worker result, event = .answer worker result →
      report.served worker = some result) : (report.follow event next).Phase := by
  have phase := tracked.phase
  have noMetric : ∀ metric ∈ (none : Option Metric), metric.id ≠ pollCountName := by simp
  have onlyMetric : ∀ {metric : Metric}, metric.id ≠ pollCountName →
      ∀ held ∈ some metric, held.id ≠ pollCountName := by simp
  cases move with
  | exhaust shutdown reading exhausted => exact phase.read rfl rfl rfl
  | interrupt reading unread => exact phase.read rfl rfl rfl
  | halt reading fired => exact phase.read rfl rfl rfl
  | queue metric unread reading isUnread calm free =>
      exact phase.read rfl (by simp [Pool.waiting, isUnread, free]) rfl
  | turn worker idle free =>
      exact phase.goOn (report.pool.setStage worker .taking) .taking idle rfl rfl noMetric noMetric
        id fun _ _ => rfl
  | quit worker taking ended =>
      exact phase.goOn (report.pool.setStage worker .done) .done taking rfl rfl noMetric noMetric
        id fun _ _ => rfl
  | take worker metric taking calm queued => exact phase_take phase taking queued
  | encode worker metric encoding =>
      by_cases isCount : metric.id = pollCountName
      · obtain ⟨rfl, empty, free, uncounted⟩ := phase.of_encoding encoding isCount
        have unserved := tracked.served_eq_none encoding rfl
        refine .sent worker (Pool.getElem?_setStage encoding) empty
          (fun other isOther =>
            (free other isOther).of_eq (Pool.getElem?_setStage_of_ne isOther)) ?_
        show report.isCounted = true ↔ report.served worker = some (.ok ())
        simp [uncounted, unserved]
      · exact phase.goOn (report.pool.setStage worker (.sending metric)) (.sending metric) encoding
          rfl rfl (onlyMetric isCount) (onlyMetric isCount) id fun _ _ => rfl
  | skip worker metric failure encoding other =>
      exact phase.goOn (report.pool.setStage worker .idle) .idle encoding rfl rfl
        (onlyMetric other) noMetric id fun _ _ => rfl
  | spoil worker metric failure encoding isCount =>
      obtain ⟨rfl, empty, free, uncounted⟩ := phase.of_encoding encoding isCount
      exact phase_over (report.pool.fail worker failure) .done encoding rfl noMetric rfl empty free
        (.inr ⟨uncounted, by simp [Pool.fail]⟩) _
  | deliver worker metric sending =>
      have otherServed : ∀ other, other ≠ worker →
          Function.update report.served worker none other = report.served other :=
        fun other isOther => Function.update_of_ne isOther _ _
      by_cases isCount : metric.id = pollCountName
      · obtain ⟨rfl, empty, free, answer⟩ := phase.of_sending sending isCount
        exact phase_over (report.pool.setStage worker .idle) .idle sending rfl noMetric rfl empty
          free (.inl (answer.mpr (agrees worker _ rfl))) _
      · exact phase.goOn (report.pool.setStage worker .idle) .idle sending rfl rfl
          (onlyMetric isCount) noMetric id otherServed
  | fail worker metric failure sending =>
      have otherServed : ∀ other, other ≠ worker →
          Function.update report.served worker none other = report.served other :=
        fun other isOther => Function.update_of_ne isOther _ _
      have failed : (report.pool.fail worker failure).failure.isSome = true := by simp [Pool.fail]
      by_cases isCount : metric.id = pollCountName
      · obtain ⟨rfl, empty, free, answer⟩ := phase.of_sending sending isCount
        have uncounted : report.isCounted = false := by
          rw [← Bool.not_eq_true, answer, agrees worker _ rfl]
          simp
        exact phase_over (report.pool.fail worker failure) .done sending rfl noMetric rfl empty
          free (.inr ⟨uncounted, failed⟩) _
      · exact phase.goOn (report.pool.fail worker failure) .done sending rfl rfl
          (onlyMetric isCount) noMetric (fun _ => failed) otherServed

theorem follow (tracked : report.Tracked) (move : report.pool.Move event next)
    (agrees : ∀ worker result, event = .answer worker result →
      report.served worker = some result) : (report.follow event next).Tracked := by
  refine ⟨move.coherent tracked.coherent, tracked.phase_follow move agrees, ?_⟩
  cases move with
  | exhaust shutdown reading exhausted => exact tracked.served
  | interrupt reading unread => exact tracked.served
  | halt reading fired => exact tracked.served
  | queue metric unread reading isUnread calm free => exact tracked.served
  | turn worker idle free =>
      exact tracked.served_follow rfl (tracked.served_eq_none idle rfl) fun _ _ => rfl
  | quit worker taking ended =>
      exact tracked.served_follow rfl (tracked.served_eq_none taking rfl) fun _ _ => rfl
  | take worker metric taking calm queued =>
      exact tracked.served_follow rfl (tracked.served_eq_none taking rfl) fun _ _ => rfl
  | encode worker metric encoding =>
      exact tracked.served_follow rfl (tracked.served_eq_none encoding rfl) fun _ _ => rfl
  | skip worker metric failure encoding other =>
      exact tracked.served_follow rfl (tracked.served_eq_none encoding rfl) fun _ _ => rfl
  | spoil worker metric failure encoding isCount =>
      exact tracked.served_follow rfl (tracked.served_eq_none encoding rfl) fun _ _ => rfl
  | deliver worker metric sending =>
      exact tracked.served_follow rfl (Function.update_self worker _ _)
        fun other isOther => Function.update_of_ne isOther _ _
  | fail worker metric failure sending =>
      exact tracked.served_follow rfl (Function.update_self worker _ _)
        fun other isOther => Function.update_of_ne isOther _ _

theorem serve (tracked : report.Tracked) {worker : Nat} {metric : Metric}
    (sending : report.pool.workers[worker]? = some (.sending metric))
    (unserved : report.served worker = none) (result : Except Failure Unit) :
    (report.serve worker metric result).Tracked := by
  have others : ∀ other, other ≠ worker →
      (report.serve worker metric result).served other = report.served other :=
    fun other isOther => Function.update_of_ne isOther _ _
  refine ⟨tracked.coherent, ?_, ?_⟩
  · by_cases isCount : metric.id = pollCountName
    · -- The request with the number of samples: its result decides whether they are summed up.
      obtain ⟨rfl, empty, free, answer⟩ := tracked.phase.of_sending sending isCount
      refine .sent worker sending empty free ?_
      have uncounted : report.isCounted = false := by
        rw [← Bool.not_eq_true, answer, unserved]
        simp
      show (report.isCounted || decide (report.count.id = pollCountName) && result.isOk) = true ↔
        Function.update report.served worker (some result) worker = some (.ok ())
      rw [Function.update_self, uncounted, isCount]
      cases result <;> simp [Except.isOk, Except.toBool]
    · have spare : report.pool.IsFree worker := by
        refine Pool.isFree_of_metric? sending fun held isHeld => ?_
        obtain rfl := Option.some.inj isHeld
        exact isCount
      refine tracked.phase.frame worker rfl rfl (fun other isOther => ⟨rfl, others other isOther⟩)
        spare spare ?_ id
      simp [Report.serve, isCount]
  · intro other served
    by_cases same : other = worker
    · exact ⟨metric, same ▸ sending⟩
    · rw [others other same] at served
      exact tracked.served other served

theorem isCounted_of_ok (tracked : report.Tracked) (finished : report.pool.isFinished = true)
    (result : report.pool.result = .ok ()) : report.isCounted = true := by
  obtain ⟨empty, unfailed⟩ := tracked.coherent.waiting_of_ok finished result
  have allDone : ∀ {worker stage}, report.pool.workers[worker]? = some stage → stage = Stage.done :=
    fun present => Pool.eq_done_of_isFinished finished (List.mem_of_getElem? present)
  cases tracked.phase with
  | waiting others line leave free uncounted =>
      rw [empty] at line
      simp at line
  | taken worker encoding empty free uncounted => cases allDone encoding
  | sent worker sending empty free answer => cases allDone sending
  | ended empty free known =>
      rcases known with counted | ⟨uncounted, failed⟩
      · exact counted
      · simp [unfailed] at failed

end Tracked

/-- A report with one worker, which is done as soon as something has failed, and has nothing else to
do once the samples are summed up. -/
structure Alone (report : Report) (stage : Stage) : Prop where
  workers : report.pool.workers = [stage]
  failed : report.pool.failure.isSome = true → stage = .done
  counted : report.isCounted = true → report.pool.failure = none ∧
    ∀ metric ∈ stage.metric?, metric.id = pollCountName

namespace Alone

variable {report : Report} {event : PoolEvent} {next : Pool} {stage : Stage}

theorem of_getElem? (alone : report.Alone stage) {worker : Nat} {held : Stage}
    (present : report.pool.workers[worker]? = some held) : worker = 0 ∧ held = stage := by
  rw [alone.workers, List.getElem?_singleton] at present
  split at present
  · next first => exact ⟨first, (Option.some.inj present).symm⟩
  · cases present

theorem failure_eq_none (alone : report.Alone stage) (active : stage ≠ .done) :
    report.pool.failure = none := by
  cases failure : report.pool.failure with
  | none => rfl
  | some failure => exact absurd (alone.failed (by rw [failure]; rfl)) active

theorem goOn (alone : report.Alone stage) (pool : Pool) (after : Stage) {worker : Nat}
    {before : Stage} (present : report.pool.workers[worker]? = some before)
    (active : before ≠ .done)
    (workers : pool.workers = report.pool.workers.set worker after)
    (failure : pool.failure = report.pool.failure)
    (spare : report.isCounted = true → ∀ metric ∈ after.metric?, metric.id = pollCountName)
    (served : Nat → Option (Except Failure Unit)) :
    ∃ stage, Alone { report with pool := pool, served := served } stage := by
  obtain ⟨rfl, rfl⟩ := alone.of_getElem? present
  have unfailed : pool.failure = none := failure.trans (alone.failure_eq_none active)
  refine ⟨after, ?_, ?_, fun counted => ⟨unfailed, spare counted⟩⟩
  · show pool.workers = [after]
    rw [workers, alone.workers]
    rfl
  · intro failed
    simp [unfailed] at failed

theorem stop (alone : report.Alone stage) (pool : Pool) {worker : Nat} {before : Stage}
    (present : report.pool.workers[worker]? = some before)
    (workers : pool.workers = report.pool.workers.set worker .done)
    (uncounted : report.isCounted = false) (served : Nat → Option (Except Failure Unit)) :
    ∃ stage, Alone { report with pool := pool, served := served } stage := by
  obtain ⟨rfl, rfl⟩ := alone.of_getElem? present
  refine ⟨.done, ?_, fun _ => rfl, fun counted => ?_⟩
  · show pool.workers = [.done]
    rw [workers, alone.workers]
    rfl
  · rw [show report.isCounted = true from counted] at uncounted
    cases uncounted

theorem follow (alone : report.Alone stage) (tracked : report.Tracked)
    (move : report.pool.Move event next)
    (agrees : ∀ worker result, event = .answer worker result →
      report.served worker = some result) : ∃ stage, (report.follow event next).Alone stage := by
  have inHand : ∀ {worker : Nat} {held : Stage} {metric : Metric},
      report.pool.workers[worker]? = some held → metric ∈ held.metric? →
        report.isCounted = true → metric.id = pollCountName := by
    intro worker held metric present holds counted
    obtain ⟨rfl, rfl⟩ := alone.of_getElem? present
    exact (alone.counted counted).2 metric holds
  have nothing : report.isCounted = true → ∀ metric ∈ (none : Option Metric),
      metric.id = pollCountName := by simp
  cases move with
  | exhaust shutdown reading exhausted =>
      exact ⟨stage, alone.workers, alone.failed, alone.counted⟩
  | interrupt reading unread => exact ⟨stage, alone.workers, alone.failed, alone.counted⟩
  | halt reading fired => exact ⟨stage, alone.workers, alone.failed, alone.counted⟩
  | queue metric unread reading isUnread calm free =>
      exact ⟨stage, alone.workers, alone.failed, alone.counted⟩
  | turn worker idle free =>
      exact alone.goOn (report.pool.setStage worker .taking) .taking idle (by simp) rfl rfl
        nothing _
  | quit worker taking ended =>
      exact alone.goOn (report.pool.setStage worker .done) .done taking (by simp) rfl rfl nothing _
  | take worker metric taking calm queued =>
      refine alone.goOn { report.pool.setStage worker (.encoding metric) with slot := none }
        (.encoding metric) taking (by simp) rfl rfl (fun counted => ?_) _
      -- The number of samples comes last, so nothing is taken after it was summed up.
      have empty := tracked.phase.waiting_of_counted counted
      simp [Pool.waiting, queued] at empty
  | encode worker metric encoding =>
      refine alone.goOn (report.pool.setStage worker (.sending metric)) (.sending metric) encoding
        (by simp) rfl rfl (fun counted held isHeld => ?_) _
      exact inHand encoding isHeld counted
  | skip worker metric failure encoding other =>
      exact alone.goOn (report.pool.setStage worker .idle) .idle encoding (by simp) rfl rfl
        nothing _
  | spoil worker metric failure encoding isCount =>
      obtain ⟨_, _, _, uncounted⟩ := tracked.phase.of_encoding encoding isCount
      exact alone.stop (report.pool.fail worker failure) encoding rfl uncounted _
  | deliver worker metric sending =>
      exact alone.goOn (report.pool.setStage worker .idle) .idle sending (by simp) rfl rfl nothing _
  | fail worker metric failure sending =>
      have uncounted : report.isCounted = false := by
        rw [← Bool.not_eq_true]
        intro counted
        have isCount := inHand sending rfl counted
        obtain ⟨_, _, _, answer⟩ := tracked.phase.of_sending sending isCount
        have delivered := answer.mp counted
        rw [agrees worker _ rfl] at delivered
        cases delivered
      exact alone.stop (report.pool.fail worker failure) sending rfl uncounted _

theorem serve (alone : report.Alone stage) {worker : Nat} {metric : Metric}
    (sending : report.pool.workers[worker]? = some (.sending metric))
    (result : Except Failure Unit) : (report.serve worker metric result).Alone stage := by
  obtain ⟨rfl, rfl⟩ := alone.of_getElem? sending
  refine ⟨alone.workers, alone.failed, fun counted => ?_⟩
  refine ⟨alone.failure_eq_none (by simp), ?_⟩
  intro held isHeld
  obtain rfl := Option.some.inj isHeld
  simp only [Report.serve, Bool.or_eq_true, Bool.and_eq_true, decide_eq_true_eq] at counted
  rcases counted with before | ⟨isCount, _⟩
  · exact (alone.counted before).2 metric rfl
  · exact isCount

theorem isCounted_of_error (alone : report.Alone stage) (tracked : report.Tracked)
    {failure : Failure} (result : report.pool.result = .error failure) :
    report.isCounted = false := by
  rw [← Bool.not_eq_true]
  intro counted
  have unfailed := (alone.counted counted).1
  have interrupted : report.pool.isInterrupted = true := by
    by_cases interrupted : report.pool.isInterrupted = true
    · exact interrupted
    · simp [Pool.result, unfailed, interrupted] at result
  -- An interrupted reader leaves metrics behind, the number of samples among them.
  have unread := (tracked.coherent.interrupted interrupted).2
  have empty := tracked.phase.waiting_of_counted counted
  rw [Pool.waiting, List.append_eq_nil_iff] at empty
  exact unread empty.2

end Alone

end Report

end Telemetry
