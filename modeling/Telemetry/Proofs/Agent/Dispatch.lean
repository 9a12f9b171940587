import Mathlib.Data.List.Perm.Subperm
import Telemetry.Agent.Delivery
import Telemetry.Proofs.Agent.Collector
import Telemetry.Proofs.Agent.Pool

namespace Telemetry

open Telemetry

/-! What becomes of each metric of a batch that goes out metric by metric. The reader, the workers,
the outcome of each encoding and of each request, samples and a shutdown come in any order. -/

namespace Stage

/-- The metric of a worker that has not given it to the transport. -/
def unsent? : Stage → Option Metric
  | .encoding metric => some metric
  | _ => none

def sent? : Stage → Option Metric
  | .sending metric => some metric
  | _ => none

end Stage

namespace Pool

def inHand (pool : Pool) (worker : Nat) : List Metric :=
  (pool.workers[worker]?.bind Stage.metric?).toList

def unsent (pool : Pool) : List Metric := pool.workers.filterMap Stage.unsent?

def sent (pool : Pool) : List Metric := pool.workers.filterMap Stage.sent?

variable {pool : Pool} {worker : Nat} {metric : Metric}

theorem inHand_encoding (encoding : pool.workers[worker]? = some (.encoding metric)) :
    pool.inHand worker = [metric] := by
  rw [inHand, encoding]
  rfl

theorem inHand_sending (sending : pool.workers[worker]? = some (.sending metric)) :
    pool.inHand worker = [metric] := by
  rw [inHand, sending]
  rfl

/-- A worker that goes on gives back what it had and gets what it has then. -/
theorem count_filterMap_set {stages : List Stage} {before : Stage}
    (present : stages[worker]? = some before) (after : Stage) (held? : Stage → Option Metric)
    (metric : Metric) :
    ((stages.set worker after).filterMap held?).count metric + (held? before).toList.count metric =
      (stages.filterMap held?).count metric + (held? after).toList.count metric := by
  induction stages generalizing worker with
  | nil => simp at present
  | cons stage stages induction =>
      cases worker with
      | zero =>
          obtain rfl := Option.some.inj present
          rw [List.set_cons_zero, List.filterMap_cons, List.filterMap_cons]
          cases held? stage <;> cases held? after <;> simp [List.count_cons]; omega
      | succ worker =>
          have others := induction (by simpa using present)
          rw [List.set_cons_succ, List.filterMap_cons, List.filterMap_cons]
          cases held? stage with
          | none => exact others
          | some held =>
              simp only [List.count_cons]
              omega

@[simp] theorem waiting_setStage (stage : Stage) :
    (pool.setStage worker stage).waiting = pool.waiting := rfl

@[simp] theorem waiting_fail (failure : Failure) :
    (pool.fail worker failure).waiting = pool.waiting := rfl

theorem isFinished_unsent (finished : pool.isFinished = true) : pool.unsent = [] := by
  rw [unsent, List.filterMap_eq_nil_iff]
  intro stage member
  rw [eq_done_of_isFinished finished member]
  rfl

theorem isFinished_sent (finished : pool.isFinished = true) : pool.sent = [] := by
  rw [sent, List.filterMap_eq_nil_iff]
  intro stage member
  rw [eq_done_of_isFinished finished member]
  rfl

end Pool

structure Dispatch (World : Type) where
  site : Site World
  pool : Pool
  /-- What was given to the transport, in that order. -/
  handed : List Metric
  accepted : List Metric
  refused : List Metric
  /-- What could not become a body. -/
  unencoded : List Metric
  /-- The samples taken since the batch was made up. -/
  taken : Nat

variable {World : Type}

namespace Dispatch

def start (site : Site World) (batch : List Metric) (rateLimit : Nat) : Dispatch World :=
  ⟨site, .start batch rateLimit, [], [], [], [], 0⟩

/-- Writes down what an event means for the metric of its worker. -/
def note (dispatch : Dispatch World) : PoolEvent → Dispatch World
  | .encode worker (.ok ()) =>
    { dispatch with handed := dispatch.handed ++ dispatch.pool.inHand worker }
  | .encode worker (.error _) =>
    { dispatch with unencoded := dispatch.unencoded ++ dispatch.pool.inHand worker }
  | .answer worker (.ok ()) =>
    { dispatch with accepted := dispatch.accepted ++ dispatch.pool.inHand worker }
  | .answer worker (.error _) =>
    { dispatch with refused := dispatch.refused ++ dispatch.pool.inHand worker }
  | _ => dispatch

def follow (dispatch : Dispatch World) (event : PoolEvent) (pool : Pool) : Dispatch World :=
  { dispatch.note event with pool := pool }

def sampleRuntime (dispatch : Dispatch World)
    (statistics : Except Failure (List (String × Binary64))) : Dispatch World :=
  { dispatch with
    site := { dispatch.site with collector := dispatch.site.collector.sampleRuntime statistics }
    taken := dispatch.taken + 1 }

def sampleHost (dispatch : Dispatch World) (memory : Except Failure Probe.Memory)
    (cores : Except Failure (List UInt64)) (now : Duration) : Dispatch World :=
  { dispatch with
    site := { dispatch.site with
      collector := dispatch.site.collector.sampleHost memory cores now } }

def shutDown (dispatch : Dispatch World) : Dispatch World :=
  { dispatch with site := { dispatch.site with isStopped := true } }

/-- What can happen next. The reader notices no shutdown that has not come, and may notice one late;
all else about an event is left open. -/
inductive Step (dispatch : Dispatch World) : Dispatch World → Prop where
  | sampleRuntime (statistics : Except Failure (List (String × Binary64))) :
      Step dispatch (dispatch.sampleRuntime statistics)
  | sampleHost (memory : Except Failure Probe.Memory) (cores : Except Failure (List UInt64))
      (now : Duration) : Step dispatch (dispatch.sampleHost memory cores now)
  | shutDown : Step dispatch dispatch.shutDown
  | elapse (clock : Clock) (world : World) :
      Step dispatch
        { dispatch with site := { dispatch.site with clock := clock, world := world } }
  | work (event : PoolEvent)
      (notices : event = .read true → dispatch.site.isStopped = true)
      (pool : Pool) (step : dispatch.pool.step? event = some pool) :
      Step dispatch (dispatch.follow event pool)

inductive Reachable (start : Dispatch World) : Dispatch World → Prop where
  | start : Reachable start start
  | step {dispatch next : Dispatch World} (reachable : Reachable start dispatch)
      (step : Step dispatch next) : Reachable start next

/-- How the delivery ends once the pool is finished. -/
def conclude (dispatch : Dispatch World) (batch : List Metric) : Delivery × Site World :=
  Sender.conclude (Collector.sampleCount batch) dispatch.pool.result dispatch.site

/-- Each metric of the batch is in one place: unread or in the slot, with a worker, given up, or
handed over; and each that was handed over is on its way or has its answer. -/
structure Accounted (batch : List Metric) (count : Int64) (dispatch : Dispatch World) :
    Prop where
  coherent : dispatch.pool.Coherent
  placed : batch.Perm
    (dispatch.pool.waiting ++ dispatch.pool.unsent ++ dispatch.unencoded ++ dispatch.handed)
  answered : dispatch.handed.Perm (dispatch.pool.sent ++ dispatch.accepted ++ dispatch.refused)
  unread : dispatch.pool.unread <:+ batch
  unfailed : dispatch.pool.failure = none →
    dispatch.refused = [] ∧ ∀ metric ∈ dispatch.unencoded, metric.id ≠ pollCountName
  counted : dispatch.site.collector.pollCount = count + Int64.ofNat dispatch.taken

namespace Accounted

variable {batch : List Metric} {count : Int64} {dispatch : Dispatch World} {event : PoolEvent}
  {next : Pool}

theorem initial (site : Site World) (batch : List Metric) (rateLimit : Nat) :
    (start site batch rateLimit).Accounted batch site.collector.pollCount where
  coherent := Pool.coherent_start batch rateLimit
  placed := by
    have idle : ∀ count, (List.replicate count Stage.idle).filterMap Stage.unsent? = [] := by
      intro count
      simp [List.filterMap_replicate, Stage.unsent?]
    simp [start, Pool.start, Pool.waiting, Pool.unsent, idle]
  answered := by
    have idle : ∀ count, (List.replicate count Stage.idle).filterMap Stage.sent? = [] := by
      intro count
      simp [List.filterMap_replicate, Stage.sent?]
    simp [start, Pool.start, Pool.sent, idle]
  unread := List.suffix_rfl
  unfailed _ := ⟨rfl, by simp [start]⟩
  counted := (Int64.add_zero _).symm

/-- A worker has gone on: what it had and what it has now is made up for elsewhere. -/
theorem goOn (accounted : dispatch.Accounted batch count) {worker : Nat} {before after : Stage}
    (present : dispatch.pool.workers[worker]? = some before) {next : Dispatch World}
    (coherent : next.pool.Coherent)
    (workers : next.pool.workers = dispatch.pool.workers.set worker after)
    (place : ∀ metric, next.pool.waiting.count metric + after.unsent?.toList.count metric +
        next.unencoded.count metric + next.handed.count metric =
      dispatch.pool.waiting.count metric + before.unsent?.toList.count metric +
        dispatch.unencoded.count metric + dispatch.handed.count metric)
    (answer : ∀ metric, dispatch.handed.count metric + after.sent?.toList.count metric +
        next.accepted.count metric + next.refused.count metric =
      next.handed.count metric + before.sent?.toList.count metric +
        dispatch.accepted.count metric + dispatch.refused.count metric)
    (unread : next.pool.unread = dispatch.pool.unread)
    (unfailed : next.pool.failure = none → next.refused = [] ∧
      ∀ metric ∈ next.unencoded, metric.id ≠ pollCountName)
    (sameSite : next.site = dispatch.site) (taken : next.taken = dispatch.taken) :
    next.Accounted batch count where
  coherent := coherent
  placed := List.perm_iff_count.mpr fun metric => by
    have moved := Pool.count_filterMap_set present after Stage.unsent? metric
    have placed := List.perm_iff_count.mp accounted.placed metric
    have place := place metric
    simp only [Pool.unsent, List.count_append, workers] at placed ⊢
    omega
  answered := List.perm_iff_count.mpr fun metric => by
    have moved := Pool.count_filterMap_set present after Stage.sent? metric
    have answered := List.perm_iff_count.mp accounted.answered metric
    have answer := answer metric
    simp only [Pool.sent, List.count_append, workers] at answered ⊢
    omega
  unread := unread ▸ accounted.unread
  unfailed := unfailed
  counted := by rw [sameSite, taken, accounted.counted]

theorem follow (accounted : dispatch.Accounted batch count) (move : dispatch.pool.Move event next) :
    (dispatch.follow event next).Accounted batch count := by
  have coherent := move.coherent accounted.coherent
  cases move with
  | exhaust shutdown reading exhausted => exact { accounted with coherent := coherent }
  | interrupt reading isUnread => exact { accounted with coherent := coherent }
  | halt reading fired => exact { accounted with coherent := coherent }
  | queue metric rest reading isUnread calm free =>
      refine { accounted with coherent := coherent, placed := ?_, unread := ?_ }
      · have placed := accounted.placed
        simp only [Pool.waiting, isUnread, free, Option.toList_none, List.nil_append] at placed
        exact placed
      · exact (List.suffix_cons metric rest).trans (isUnread ▸ accounted.unread)
  | turn worker idle free =>
      exact accounted.goOn idle coherent rfl (fun _ => rfl) (fun _ => rfl) rfl accounted.unfailed
        rfl rfl
  | quit worker taking ended =>
      exact accounted.goOn taking coherent rfl (fun _ => rfl) (fun _ => rfl) rfl accounted.unfailed
        rfl rfl
  | take worker metric taking calm queued =>
      refine accounted.goOn taking coherent rfl (fun other => ?_) (fun _ => rfl) rfl
        accounted.unfailed rfl rfl
      simp only [Dispatch.follow, note, Pool.waiting, Pool.setStage, queued, Stage.unsent?,
        Option.toList_none, Option.toList_some, List.count_append, List.count_nil]
      omega
  | encode worker metric encoding =>
      refine accounted.goOn encoding coherent rfl (fun other => ?_) (fun other => ?_) rfl
        accounted.unfailed rfl rfl
      · simp [Dispatch.follow, note, Pool.inHand_encoding encoding, Stage.unsent?]
        omega
      · simp [Dispatch.follow, note, Pool.inHand_encoding encoding, Stage.sent?]
  | skip worker metric failure encoding other =>
      refine accounted.goOn encoding coherent rfl (fun metric => ?_) (fun _ => rfl) rfl
        (fun unfailed => ?_) rfl rfl
      · simp [Dispatch.follow, note, Pool.inHand_encoding encoding, Stage.unsent?]
        omega
      · obtain ⟨unrefused, others⟩ := accounted.unfailed unfailed
        refine ⟨unrefused, fun left member => ?_⟩
        simp only [Dispatch.follow, note, Pool.inHand_encoding encoding, List.mem_append,
          List.mem_singleton] at member
        rcases member with before | rfl
        · exact others left before
        · exact other
  | spoil worker metric failure encoding isCount =>
      refine accounted.goOn encoding coherent rfl (fun metric => ?_) (fun _ => rfl) rfl
        (fun unfailed => ?_) rfl rfl
      · simp [Dispatch.follow, note, Pool.inHand_encoding encoding, Stage.unsent?]
        omega
      · simp [Dispatch.follow, Pool.fail] at unfailed
  | deliver worker metric sending =>
      refine accounted.goOn sending coherent rfl (fun _ => rfl) (fun other => ?_) rfl
        accounted.unfailed rfl rfl
      simp [Dispatch.follow, note, Pool.inHand_sending sending, Stage.sent?]
      omega
  | fail worker metric failure sending =>
      refine accounted.goOn sending coherent rfl (fun _ => rfl) (fun other => ?_) rfl
        (fun unfailed => ?_) rfl rfl
      · simp [Dispatch.follow, note, Pool.inHand_sending sending, Stage.sent?]
        omega
      · simp [Dispatch.follow, Pool.fail] at unfailed

theorem step {next : Dispatch World} (accounted : dispatch.Accounted batch count)
    (step : Step dispatch next) : next.Accounted batch count := by
  cases step with
  | sampleRuntime statistics =>
      refine { accounted with counted := ?_ }
      have oneMore : Int64.ofNat (dispatch.taken + 1) = Int64.ofNat dispatch.taken + 1 :=
        Int64.ofNat_add dispatch.taken 1
      simp only [Dispatch.sampleRuntime, Collector.pollCount_sampleRuntime, accounted.counted,
        oneMore, Int64.add_assoc]
  | sampleHost memory cores now =>
      refine { accounted with counted := ?_ }
      rw [Dispatch.sampleHost, Collector.pollCount_sampleHost, accounted.counted]
  | shutDown => exact { accounted with }
  | elapse clock world => exact { accounted with }
  | work event notices pool step => exact accounted.follow (Pool.move_of_step? step)

/-- A delivery that the reader has broken off leaves the last metric of the batch unread. -/
theorem last_mem_unread (accounted : dispatch.Accounted batch count) {others : List Metric}
    {last : Metric} (isLast : batch = others ++ [last])
    (interrupted : dispatch.pool.isInterrupted = true) : last ∈ dispatch.pool.unread := by
  obtain ⟨read, whole⟩ := accounted.unread
  rcases List.eq_nil_or_concat dispatch.pool.unread with none | ⟨before, final, isUnread⟩
  · exact absurd none (accounted.coherent.interrupted interrupted).2
  · rw [isUnread, List.concat_eq_append, ← List.append_assoc, isLast] at whole
    obtain rfl : final = last := by simpa using (List.append_inj' whole rfl).2
    simp [isUnread]

theorem handed_subperm (accounted : dispatch.Accounted batch count) :
    dispatch.handed.Subperm batch := by
  refine List.Subperm.trans ?_ accounted.placed.symm.subperm
  exact (List.sublist_append_right _ _).subperm

end Accounted

theorem Reachable.accounted {site : Site World} {batch : List Metric} {rateLimit : Nat}
    {dispatch : Dispatch World}
    (reachable : Reachable (Dispatch.start site batch rateLimit) dispatch) :
    dispatch.Accounted batch site.collector.pollCount := by
  induction reachable with
  | start => exact Accounted.initial site batch rateLimit
  | step reachable step induction => exact induction.step step

end Dispatch

namespace Collector

theorem IsProper.countP_batch {collector : Collector} (proper : collector.IsProper)
    (random : Binary64) :
    (collector.batch random).countP (fun metric => metric.id = pollCountName) = 1 := by
  have none : (collector.gauges random).countP (fun metric => metric.id = pollCountName) = 0 := by
    rw [List.countP_eq_zero]
    intro metric member
    obtain ⟨id, value, otherName, rfl⟩ := proper.gauges random metric member
    exact fun same => otherName (of_decide_eq_true same)
  rw [batch_eq, List.countP_append, none]
  rfl

end Collector

namespace Dispatch

variable {site : Site World} {random : Binary64} {rateLimit : Nat} {dispatch : Dispatch World}

/-- What comes of a batch: no metric is given to the transport more than once, and a delivery that
a shutdown breaks off never gives it the sample count. -/
structure Exact (site : Site World) (batch : List Metric) (dispatch : Dispatch World) : Prop where
  once : dispatch.handed.Subperm batch
  interrupted : dispatch.pool.isInterrupted = true →
    ∀ metric ∈ dispatch.handed, metric.id ≠ pollCountName
  /-- All is accepted, but for gauges without a body, and the samples taken since are still to be
  delivered. -/
  delivered : dispatch.pool.isFinished = true →
    (dispatch.conclude batch).1 = .ended (.ok ()) →
      batch.Perm (dispatch.handed ++ dispatch.unencoded) ∧
        dispatch.accepted.Perm dispatch.handed ∧
        (∀ metric ∈ dispatch.unencoded, metric.id ≠ pollCountName) ∧
        (dispatch.conclude batch).2.collector.pollCount =
          dispatch.site.collector.pollCount - site.collector.pollCount ∧
        (dispatch.conclude batch).2.collector.pollCount = Int64.ofNat dispatch.taken
  failed : dispatch.pool.isFinished = true →
    ∀ failure, (dispatch.conclude batch).1 = .ended (.error failure) →
      (dispatch.conclude batch).2.collector.pollCount = dispatch.site.collector.pollCount ∧
        (dispatch.conclude batch).2.collector.pollCount =
          site.collector.pollCount + Int64.ofNat dispatch.taken

theorem conclude_fst (dispatch : Dispatch World) (batch : List Metric) :
    (dispatch.conclude batch).1 = .ended dispatch.pool.result := rfl

theorem Reachable.isExact (proper : site.collector.IsProper)
    (reachable :
      Reachable (Dispatch.start site (site.collector.batch random) rateLimit) dispatch) :
    dispatch.Exact site (site.collector.batch random) := by
  have accounted := reachable.accounted
  refine ⟨accounted.handed_subperm, ?_, ?_, ?_⟩
  · intro interrupted metric member isCount
    have unread : Metric.counter pollCountName site.collector.pollCount ∈ dispatch.pool.unread :=
      accounted.last_mem_unread (Collector.batch_eq site.collector random) interrupted
    -- The one sample count of the batch is unread, so it is not among what was handed over.
    have single := proper.countP_batch random
    rw [accounted.placed.countP_eq, List.countP_append, List.countP_append,
      List.countP_append] at single
    have waits : 0 < dispatch.pool.waiting.countP (fun metric => metric.id = pollCountName) :=
      List.countP_pos_iff.mpr
        ⟨_, List.mem_append_right _ unread, decide_eq_true rfl⟩
    have handed : 0 < dispatch.handed.countP (fun metric => metric.id = pollCountName) :=
      List.countP_pos_iff.mpr ⟨metric, member, decide_eq_true isCount⟩
    omega
  · intro finished ended
    rw [conclude_fst] at ended
    have isOk : dispatch.pool.result = .ok () := by injection ended
    obtain ⟨taken, unfailed⟩ := accounted.coherent.waiting_of_ok finished isOk
    obtain ⟨unrefused, others⟩ := accounted.unfailed unfailed
    have placed := accounted.placed
    have answered := accounted.answered
    rw [taken, Pool.isFinished_unsent finished, List.nil_append, List.nil_append] at placed
    rw [Pool.isFinished_sent finished, unrefused, List.nil_append, List.append_nil] at answered
    have lowered : (dispatch.conclude (site.collector.batch random)).2.collector.pollCount =
        dispatch.site.collector.pollCount - site.collector.pollCount := by
      rw [conclude, isOk, proper.sampleCount_batch random]
      rfl
    refine ⟨placed.trans List.perm_append_comm, answered.symm, others, lowered, ?_⟩
    rw [lowered, accounted.counted, Int64.add_comm, Int64.add_sub_cancel]
  · intro finished failure ended
    rw [conclude_fst] at ended
    have isError : dispatch.pool.result = .error failure := by injection ended
    rw [conclude, isError]
    exact ⟨rfl, accounted.counted⟩

def sampledOnce : Site Unit :=
  ⟨⟨1, [.gauge "Alloc" .zero], [], [], ⟨0⟩⟩, false, .start, ()⟩

theorem isProper_sampledOnce : sampledOnce.collector.IsProper where
  runtime metric member := by
    obtain rfl := List.mem_singleton.mp member
    exact ⟨"Alloc", .zero, by decide, rfl⟩
  host metric member := by cases member

/-- Two workers deliver the batch but for a gauge without a body, while the next sample is taken. -/
theorem reachable_delivered :
    ∃ dispatch, Reachable (start sampledOnce (sampledOnce.collector.batch .zero) 2) dispatch ∧
      dispatch.pool.isFinished = true ∧ dispatch.pool.result = .ok () ∧ dispatch.taken = 1 := by
  have begun : Reachable (start sampledOnce (sampledOnce.collector.batch .zero) 2)
    (start sampledOnce (sampledOnce.collector.batch .zero) 2) := .start
  have queued := begun.step (.work (.read false) (by simp) _ rfl)
  have turned := queued.step (.work (.turn 0) (by simp) _ rfl)
  have taken := turned.step (.work (.take 0) (by simp) _ rfl)
  have skipped := taken.step (.work (.encode 0 (.error .cancelled)) (by simp) _ rfl)
  have randomQueued := skipped.step (.work (.read false) (by simp) _ rfl)
  have randomTurned := randomQueued.step (.work (.turn 1) (by simp) _ rfl)
  have randomTaken := randomTurned.step (.work (.take 1) (by simp) _ rfl)
  have randomSent := randomTaken.step (.work (.encode 1 (.ok ())) (by simp) _ rfl)
  have countQueued := randomSent.step (.work (.read false) (by simp) _ rfl)
  have sampled := countQueued.step (.sampleRuntime (.error .cancelled))
  have countTurned := sampled.step (.work (.turn 0) (by simp) _ rfl)
  have countTaken := countTurned.step (.work (.take 0) (by simp) _ rfl)
  have countSent := countTaken.step (.work (.encode 0 (.ok ())) (by simp) _ rfl)
  have countAccepted := countSent.step (.work (.answer 0 (.ok ())) (by simp) _ rfl)
  have accepted := countAccepted.step (.work (.answer 1 (.ok ())) (by simp) _ rfl)
  have exhausted := accepted.step (.work (.read false) (by simp) _ rfl)
  have lastTurned := exhausted.step (.work (.turn 0) (by simp) _ rfl)
  have quit := lastTurned.step (.work (.take 0) (by simp) _ rfl)
  have otherTurned := quit.step (.work (.turn 1) (by simp) _ rfl)
  have otherQuit := otherTurned.step (.work (.take 1) (by simp) _ rfl)
  exact ⟨_, otherQuit, rfl, rfl, rfl⟩

theorem isExact_sampledOnce :
    ∃ dispatch, Reachable (start sampledOnce (sampledOnce.collector.batch .zero) 2) dispatch ∧
      dispatch.handed.Subperm (sampledOnce.collector.batch .zero) ∧
      (dispatch.conclude (sampledOnce.collector.batch .zero)).2.collector.pollCount = 1 := by
  obtain ⟨dispatch, reachable, finished, isOk, taken⟩ := reachable_delivered
  have isExact := Reachable.isExact isProper_sampledOnce reachable
  have delivered := isExact.delivered finished (by rw [conclude_fst, isOk])
  refine ⟨dispatch, reachable, isExact.once, ?_⟩
  rw [delivered.2.2.2.2, taken]
  rfl

end Dispatch

end Telemetry
