import Telemetry.Proofs.Agent.Liveness
import Telemetry.Proofs.Shutdown

namespace Telemetry

open Telemetry

/-! How many requests are on their way at a time, and what still goes out once the signal has fired.
A worker looks at the signal before it looks at the slot, in one step. So the signal finds each
worker without a metric, or with one that it had taken before; and that one is its last. -/

namespace Pool

variable {pool next : Pool} {event : PoolEvent} {worker : Nat} {after : Stage} {metric : Metric}

/-- What a worker needs in order to come into a stage with a move. -/
inductive Enters (pool next : Pool) (worker : Nat) : Stage → Prop where
  | idle : Enters pool next worker .idle
  | taking : Enters pool next worker .taking
  | encoding (metric : Metric) (calm : next.isFired = false) :
      Enters pool next worker (.encoding metric)
  | sending (metric : Metric) (encoding : pool.workers[worker]? = some (.encoding metric)) :
      Enters pool next worker (.sending metric)
  | done : Enters pool next worker .done

theorem stage_of_setStage {other : Nat} {stage : Stage} (enters : pool.Enters next other stage)
    (present : (pool.setStage other stage).workers[worker]? = some after) :
    pool.workers[worker]? = some after ∨ pool.Enters next worker after := by
  rw [setStage, List.getElem?_set] at present
  split at present
  · next same =>
      split at present
      · obtain rfl := Option.some.inj present
        exact .inr (same ▸ enters)
      · cases present
  · exact .inl present

theorem Move.stage (move : Move pool event next) (present : next.workers[worker]? = some after) :
    pool.workers[worker]? = some after ∨ pool.Enters next worker after := by
  cases move with
  | exhaust shutdown reading exhausted => exact .inl present
  | interrupt reading unread => exact .inl present
  | halt reading fired => exact .inl present
  | queue metric unread reading isUnread calm free => exact .inl present
  | turn other idle free => exact stage_of_setStage .taking present
  | quit other taking ended => exact stage_of_setStage .done present
  | take other metric taking calm queued => exact stage_of_setStage (.encoding metric calm) present
  | encode other metric encoding => exact stage_of_setStage (.sending metric encoding) present
  | skip other metric failure encoding notCount => exact stage_of_setStage .idle present
  | spoil other metric failure encoding isCount => exact stage_of_setStage .done present
  | deliver other metric sending => exact stage_of_setStage .idle present
  | fail other metric failure sending => exact stage_of_setStage .done present

/-- Also the move that fires the signal gives no worker a metric. -/
theorem Move.encoding_of_fired (move : Move pool event next) (fired : next.isFired = true)
    (encoding : next.workers[worker]? = some (.encoding metric)) :
    pool.workers[worker]? = some (.encoding metric) := by
  rcases move.stage encoding with before | enters
  · exact before
  · cases enters with
    | encoding metric calm =>
        rw [fired] at calm
        cases calm

theorem Move.sending (move : Move pool event next)
    (sending : next.workers[worker]? = some (.sending metric)) :
    pool.workers[worker]? = some (.sending metric) ∨
      pool.workers[worker]? = some (.encoding metric) := by
  rcases move.stage sending with before | enters
  · exact .inl before
  · cases enters with
    | sending metric encoding => exact .inr encoding

/-- The signal of a pool: its reader listens first, and then each worker. -/
def signal (pool : Pool) : Shutdown := .shared pool.isFired pool.workers.length

theorem fire_signal (pool : Pool) :
    pool.signal.fire.2 = .shared true pool.workers.length := by
  rw [signal, Shutdown.fire_shared]

/-- The reader and the workers, who act on what they hear, all hear the same. -/
theorem hears?_signal {listener : Nat} (present : listener ≤ pool.workers.length) :
    pool.signal.hears? listener = some pool.isFired :=
  Shutdown.hears?_shared present

theorem reachable_signal_start (batch : List Metric) (rateLimit : Nat) :
    Shutdown.Reachable .start (start batch rateLimit).signal := by
  rw [signal, start, List.length_replicate]
  exact Shutdown.reachable_shared (max rateLimit 1)

theorem Move.length_workers (move : Move pool event next) :
    next.workers.length = pool.workers.length := by
  cases move <;> first | rfl | exact List.length_set

theorem Move.signal (move : Move pool event next) :
    next.signal = pool.signal ∨ next.signal = pool.signal.fire.2 := by
  rw [fire_signal, Pool.signal, Pool.signal, move.length_workers]
  cases move with
  | interrupt reading unread => exact .inr rfl
  | spoil worker metric failure encoding isCount => exact .inr rfl
  | fail worker metric failure sending => exact .inr rfl
  | _ => exact .inl rfl

theorem Move.reachable_signal (move : Move pool event next) :
    Shutdown.Reachable pool.signal next.signal := by
  rcases move.signal with same | fires
  · exact same ▸ .start
  · exact fires ▸ .step .start .fire

theorem Move.interrupts (move : Move pool event next) (calm : pool.isInterrupted = false)
    (interrupted : next.isInterrupted = true) :
    event = .read true ∧ next.signal = pool.signal.fire.2 := by
  cases move with
  | interrupt reading unread => exact ⟨rfl, (fire_signal pool).symm⟩
  | _ =>
      rw [show pool.isInterrupted = true from interrupted] at calm
      cases calm

theorem Move.queue_of_fired (move : Move pool event next) (fired : next.isFired = true) :
    next.slot = pool.slot ∧ next.unread = pool.unread := by
  cases move with
  | queue metric unread reading isUnread calm free =>
      rw [show pool.isFired = true from fired] at calm
      cases calm
  | take worker metric taking calm queued =>
      rw [show pool.isFired = true from fired] at calm
      cases calm
  | _ => exact ⟨rfl, rfl⟩

theorem length_sent_le (pool : Pool) : pool.sent.length ≤ pool.workers.length :=
  List.length_filterMap_le Stage.sent? pool.workers

end Pool

/-- The signal of the agent: its report loop listens first, and then its poll loop. -/
def Site.signal {World : Type} (site : Site World) : Shutdown := .shared site.isStopped 1

namespace Dispatch

variable {World : Type} {origin dispatch next : Dispatch World} {worker : Nat}
  {metric other : Metric}

theorem site_note (dispatch : Dispatch World) (event : PoolEvent) :
    (dispatch.note event).site = dispatch.site := by
  unfold note
  split <;> rfl

section Steps

variable (step : Step dispatch next)

include step

theorem Step.length_workers : next.pool.workers.length = dispatch.pool.workers.length := by
  rcases step.pool_eq_or_move with same | ⟨event, move⟩
  · rw [same]
  · exact move.length_workers

theorem Step.reachable_signal :
    Shutdown.Reachable dispatch.pool.signal next.pool.signal := by
  rcases step.pool_eq_or_move with same | ⟨event, move⟩
  · exact same ▸ .start
  · exact move.reachable_signal

theorem Step.signal_site :
    next.site.signal = dispatch.site.signal ∨ next.site.signal = dispatch.site.signal.fire.2 := by
  cases step with
  | sampleRuntime statistics => exact .inl rfl
  | sampleHost memory cores now => exact .inl rfl
  | shutDown => exact .inr (congrArg Prod.snd (Shutdown.fire_shared _ 1)).symm
  | elapse clock world => exact .inl rfl
  | work event notices pool step => exact .inl (congrArg Site.signal (dispatch.site_note event))

/-- A delivery is interrupted once the agent's signal is heard, and fires its own signal then. -/
theorem Step.interrupts (calm : dispatch.pool.isInterrupted = false)
    (interrupted : next.pool.isInterrupted = true) :
    dispatch.site.signal.hears? 0 = some true ∧
      next.pool.signal = dispatch.pool.signal.fire.2 := by
  cases step with
  | work event notices pool step =>
      obtain ⟨reads, fires⟩ := (Pool.move_of_step? step).interrupts calm interrupted
      refine ⟨?_, fires⟩
      rw [Site.signal, Shutdown.hears?_shared (Nat.zero_le 1), notices reads]
  | _ =>
      rw [show dispatch.pool.isInterrupted = true from interrupted] at calm
      cases calm

theorem Step.queue_of_fired (fired : next.pool.isFired = true) :
    next.pool.slot = dispatch.pool.slot ∧ next.pool.unread = dispatch.pool.unread := by
  rcases step.pool_eq_or_move with same | ⟨event, move⟩
  · rw [same]
    exact ⟨rfl, rfl⟩
  · exact move.queue_of_fired fired

theorem Step.encoding_of_fired (fired : next.pool.isFired = true)
    (encoding : next.pool.workers[worker]? = some (.encoding metric)) :
    dispatch.pool.workers[worker]? = some (.encoding metric) := by
  rcases step.pool_eq_or_move with same | ⟨event, move⟩
  · rw [← same, encoding]
  · exact move.encoding_of_fired fired encoding

end Steps

theorem Reachable.length_workers {site : Site World} {batch : List Metric} {rateLimit : Nat}
    (reachable : Reachable (Dispatch.start site batch rateLimit) dispatch) :
    dispatch.pool.workers.length = max rateLimit 1 := by
  induction reachable with
  | start => exact List.length_replicate
  | step reachable step induction => rw [step.length_workers, induction]

/-- The delivery's own signal is a new one, with a copy for each worker. -/
theorem Reachable.reachable_signal {site : Site World} {batch : List Metric} {rateLimit : Nat}
    (reachable : Reachable (Dispatch.start site batch rateLimit) dispatch) :
    Shutdown.Reachable .start dispatch.pool.signal := by
  induction reachable with
  | start => exact Pool.reachable_signal_start batch rateLimit
  | step reachable step induction => exact induction.trans step.reachable_signal

theorem Reachable.length_sent_le {site : Site World} {batch : List Metric} {rateLimit : Nat}
    (reachable : Reachable (Dispatch.start site batch rateLimit) dispatch) :
    dispatch.pool.sent.length ≤ max rateLimit 1 :=
  dispatch.pool.length_sent_le.trans_eq reachable.length_workers

/-- What was handed over and has no answer is with a worker that waits for it. -/
theorem Reachable.length_handed {site : Site World} {batch : List Metric} {rateLimit : Nat}
    (reachable : Reachable (Dispatch.start site batch rateLimit) dispatch) :
    dispatch.handed.length =
      dispatch.pool.sent.length + (dispatch.accepted.length + dispatch.refused.length) := by
  rw [reachable.accounted.answered.length_eq, List.length_append, List.length_append,
    Nat.add_assoc]

namespace Run

variable {run : Run origin} {time later first second : Nat}

def Sends (run : Run origin) (worker : Nat) (metric : Metric) (time : Nat) : Prop :=
  (run.state time).pool.workers[worker]? ≠ some (.sending metric) ∧
    (run.state (time + 1)).pool.workers[worker]? = some (.sending metric)

theorem Sends.encoding (sends : run.Sends worker metric time) :
    (run.state time).pool.workers[worker]? = some (.encoding metric) := by
  obtain ⟨notBefore, sending⟩ := sends
  rcases (run.steps time).pool_eq_or_move with same | ⟨event, move⟩
  · exact absurd (same ▸ sending) notBefore
  · exact (move.sending sending).resolve_left notBefore

theorem reachable_signal (past : time ≤ later) :
    Shutdown.Reachable (run.state time).pool.signal (run.state later).pool.signal := by
  induction later, past using Nat.le_induction with
  | base => exact .start
  | succ later past induction => exact induction.trans (run.steps later).reachable_signal

/-- Whoever has heard the signal of a delivery hears it to the end. -/
theorem hears_of_le {listener : Nat} (past : time ≤ later)
    (heard : (run.state time).pool.signal.hears? listener = some true) :
    (run.state later).pool.signal.hears? listener = some true :=
  (run.reachable_signal past).hears? heard

theorem isFired_of_le (past : time ≤ later) (fired : (run.state time).pool.isFired = true) :
    (run.state later).pool.isFired = true :=
  (run.reachable_signal past).isFired fired

/-- The signal has come between a moment of a run and the next, or before. -/
structure StopsBy (run : Run origin) (time : Nat) : Prop where
  queue : ∀ later ≥ time, (run.state later).pool.slot = (run.state time).pool.slot ∧
    (run.state later).pool.unread = (run.state time).pool.unread
  /-- What a worker still sends, it had taken before. -/
  held : ∀ later ≥ time, ∀ worker metric, run.Sends worker metric later →
    (run.state time).pool.workers[worker]? = some (.encoding metric)
  once : ∀ first ≥ time, ∀ second ≥ time, ∀ worker metric other,
    run.Sends worker metric first → run.Sends worker other second → first = second

section Fired

variable (fired : (run.state (time + 1)).pool.isFired = true)

include fired

theorem queue_of_le (past : time ≤ later) :
    (run.state later).pool.slot = (run.state time).pool.slot ∧
      (run.state later).pool.unread = (run.state time).pool.unread := by
  induction later, past using Nat.le_induction with
  | base => exact ⟨rfl, rfl⟩
  | succ later past induction =>
      have stillFired := isFired_of_le (Nat.succ_le_succ past) fired
      obtain ⟨slot, unread⟩ := (run.steps later).queue_of_fired stillFired
      exact ⟨slot.trans induction.1, unread.trans induction.2⟩

theorem encoding_of_le (past : time ≤ later)
    (encoding : (run.state later).pool.workers[worker]? = some (.encoding metric)) :
    (run.state time).pool.workers[worker]? = some (.encoding metric) := by
  induction later, past using Nat.le_induction with
  | base => exact encoding
  | succ later past induction =>
      have stillFired := isFired_of_le (Nat.succ_le_succ past) fired
      exact induction ((run.steps later).encoding_of_fired stillFired encoding)

theorem not_sends_of_lt (past : time ≤ first) (sends : run.Sends worker metric first)
    (after : first < second) : ¬ run.Sends worker other second := by
  -- It would have held the second metric already while it was sending the first.
  intro sendsAgain
  have firedThen : (run.state (first + 1 + 1)).pool.isFired = true :=
    isFired_of_le (by omega) fired
  have stillEncoding := encoding_of_le firedThen after sendsAgain.encoding
  rw [sends.2] at stillEncoding
  cases stillEncoding

theorem stopsBy : run.StopsBy time where
  queue later past := queue_of_le fired past
  held later past worker metric sends := encoding_of_le fired past sends.encoding
  once first pastFirst second pastSecond worker metric other sendsFirst sendsSecond := by
    rcases Nat.lt_trichotomy first second with before | same | after
    · exact absurd sendsSecond (not_sends_of_lt fired pastFirst sendsFirst before)
    · exact same
    · exact absurd sendsFirst (not_sends_of_lt fired pastSecond sendsSecond after)

end Fired

end Run

theorem Reachable.exists_run_of_steps {after : Dispatch World}
    (reachable : Reachable origin dispatch) (step : Step dispatch next)
    (secondStep : Step next after) :
    ∃ (run : Run origin) (time : Nat), run.state time = dispatch ∧
      run.state (time + 1) = next ∧ run.state (time + 2) = after := by
  obtain ⟨early, time, rfl⟩ := reachable.exists_run
  have isNext : (early.extend time step).state (time + 1) = next :=
    if_neg (Nat.not_succ_le_self time)
  refine ⟨(early.extend time step).extend (time + 1) (isNext ▸ secondStep), time, ?_, ?_, ?_⟩
  · exact (if_pos (Nat.le_succ time)).trans (if_pos (le_refl time))
  · exact (if_pos (le_refl (time + 1))).trans isNext
  · exact if_neg (Nat.not_succ_le_self (time + 1))

/-- No more requests are on their way than there may be, and what is on its way is what was handed
over and has no answer. Once the signal fires, for a failure or for a shutdown, nothing enters or
leaves the slot any more, and each worker sends at most one metric, which it had taken before. -/
theorem start_staysWithin (site : Site World) (batch : List Metric) (rateLimit : Nat) :
    (∀ dispatch, Reachable (start site batch rateLimit) dispatch →
      dispatch.pool.sent.length ≤ max rateLimit 1 ∧
        dispatch.handed.length =
          dispatch.pool.sent.length + (dispatch.accepted.length + dispatch.refused.length) ∧
        (dispatch.pool.isFired = true ↔
          dispatch.pool.failure.isSome ∨ dispatch.pool.isInterrupted = true)) ∧
    ∀ (run : Run (start site batch rateLimit)) (time : Nat),
      (run.state (time + 1)).pool.isFired = true → run.StopsBy time :=
  ⟨fun _ reachable => ⟨reachable.length_sent_le, reachable.length_handed,
      reachable.accounted.coherent.fired⟩,
    fun _ _ fired => Run.stopsBy fired⟩

/-- The first of two workers is refused while the second has a metric in hand, which it sends. -/
theorem exists_sent_after_refusal :
    ∃ busy refused last,
      Reachable (start sampledOnce (sampledOnce.collector.batch .zero) 2) busy ∧
        Step busy refused ∧ Step refused last ∧
        busy.pool.isFired = false ∧ refused.pool.isFired = true ∧
        refused.pool.workers[1]? = some (.encoding (.gauge "RandomValue" .zero)) ∧
        last.pool.workers[1]? = some (.sending (.gauge "RandomValue" .zero)) := by
  have begun : Reachable (start sampledOnce (sampledOnce.collector.batch .zero) 2)
    (start sampledOnce (sampledOnce.collector.batch .zero) 2) := .start
  have queued := begun.step (.work (.read false) (by simp) _ rfl)
  have turned := queued.step (.work (.turn 0) (by simp) _ rfl)
  have taken := turned.step (.work (.take 0) (by simp) _ rfl)
  have sent := taken.step (.work (.encode 0 (.ok ())) (by simp) _ rfl)
  have randomQueued := sent.step (.work (.read false) (by simp) _ rfl)
  have randomTurned := randomQueued.step (.work (.turn 1) (by simp) _ rfl)
  have randomTaken := randomTurned.step (.work (.take 1) (by simp) _ rfl)
  exact ⟨_, _, _, randomTaken, .work (.answer 0 (.error .cancelled)) (by simp) _ rfl,
    .work (.encode 1 (.ok ())) (by simp) _ rfl, rfl, rfl, rfl, rfl⟩

theorem start_staysWithin_refused :
    ∃ (run : Run (start sampledOnce (sampledOnce.collector.batch .zero) 2)) (time : Nat),
      (run.state time).pool.isFired = false ∧ (run.state (time + 1)).pool.isFired = true ∧
        run.Sends 1 (.gauge "RandomValue" .zero) (time + 1) ∧ run.StopsBy time := by
  obtain ⟨busy, refused, last, reachable, refusal, sending, calm, fired, encoding, sent⟩ :=
    exists_sent_after_refusal
  obtain ⟨run, time, now, next, afterNext⟩ := reachable.exists_run_of_steps refusal sending
  have firedThen : (run.state (time + 1)).pool.isFired = true := by rw [next, fired]
  refine ⟨run, time, by rw [now, calm], firedThen, ⟨?_, by rw [afterNext, sent]⟩,
    (start_staysWithin sampledOnce (sampledOnce.collector.batch .zero) 2).2 run time firedThen⟩
  rw [next, encoding]
  simp

end Dispatch

end Telemetry
