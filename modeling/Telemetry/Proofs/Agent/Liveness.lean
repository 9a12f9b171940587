import Mathlib.Data.Nat.Count
import Telemetry.Proofs.Agent.Dispatch

namespace Telemetry

open Telemetry

/-! A batch that goes out metric by metric comes to an end. The reader waits for the slot to be free
and the workers for their turn or for a metric, but never all of them for each other; and each of
their steps takes something off a weight that is known from the start. -/

/-- A step of the reader or of a worker; the answer to a request comes from outside. -/
def PoolEvent.isOwn : PoolEvent → Bool
  | .answer _ _ => false
  | _ => true

namespace Pool

variable {pool next : Pool} {event : PoolEvent} {worker : Nat}

/-- The reader or a worker can go on, if the reader sees a shutdown just when there is one. -/
def IsReady (pool : Pool) (shutdown : Bool) : Prop :=
  ∃ event next, event.isOwn = true ∧ (∀ noticed, event = .read noticed → noticed = shutdown) ∧
    pool.step? event = some next

def IsAwaiting (pool : Pool) : Prop :=
  ∃ (worker : Nat) (metric : Metric), pool.workers[worker]? = some (.sending metric)

section Weight

theorem weight_set {stages : List Stage} {before : Stage}
    (present : stages[worker]? = some before) (after : Stage) :
    (stages.set worker after).foldr (fun stage rest => stage.weight + rest) 0 + before.weight =
      stages.foldr (fun stage rest => stage.weight + rest) 0 + after.weight := by
  induction stages generalizing worker with
  | nil => simp at present
  | cons stage stages induction =>
      cases worker with
      | zero =>
          obtain rfl := Option.some.inj present
          rw [List.set_cons_zero, List.foldr_cons, List.foldr_cons]
          omega
      | succ worker =>
          have others := induction (by simpa using present)
          rw [List.set_cons_succ, List.foldr_cons, List.foldr_cons]
          omega

theorem weight_start (batch : List Metric) (rateLimit : Nat) :
    (start batch rateLimit).weight = 6 * batch.length + 2 * max rateLimit 1 + 1 := by
  have idle : ∀ count, (List.replicate count Stage.idle).foldr
      (fun stage rest => stage.weight + rest) 0 = 2 * count := by
    intro count
    induction count with
    | zero => rfl
    | succ count induction =>
        rw [List.replicate_succ, List.foldr_cons, induction, Stage.weight]
        omega
  simp [start, weight, idle]

theorem weight_setStage {before : Stage} (present : pool.workers[worker]? = some before)
    (after : Stage) :
    (pool.setStage worker after).weight + before.weight = pool.weight + after.weight := by
  have moved := weight_set present after
  have others : ∀ workers : List Stage, weight { pool with workers := workers } =
      workers.foldr (fun stage rest => stage.weight + rest) 0 +
        (6 * pool.unread.length + (if pool.slot.isSome then 5 else 0) +
          (if pool.isReading then 1 else 0)) := fun workers => by
    simp only [weight]
    omega
  rw [setStage, others, others pool.workers]
  omega

theorem weight_fail (pool : Pool) (worker : Nat) (failure : Failure) :
    (pool.fail worker failure).weight = (pool.setStage worker .done).weight := rfl

theorem weight_emptySlot {metric : Metric} (full : pool.slot = some metric) :
    weight { pool with slot := none } + 5 = pool.weight := by
  simp only [weight, full, Option.isSome_none, Option.isSome_some, Bool.false_eq_true, if_false,
    if_true]
  omega

theorem Move.weight_lt (move : Move pool event next) : next.weight < pool.weight := by
  cases move with
  | exhaust shutdown reading exhausted => simp [weight, reading]
  | interrupt reading unread => simp [weight, reading]
  | halt reading fired => simp [weight, reading]
  | queue metric unread reading isUnread calm free =>
      simp only [weight, isUnread, free, reading, List.length_cons, Option.isSome_none,
        Option.isSome_some, Bool.false_eq_true, if_false, if_true]
      omega
  | turn worker idle free =>
      have moved := weight_setStage idle .taking
      simp only [Stage.weight] at moved
      omega
  | quit worker taking ended =>
      have moved := weight_setStage taking .done
      simp only [Stage.weight] at moved
      omega
  | take worker metric taking calm queued =>
      have moved := weight_setStage taking (.encoding metric)
      have emptied : weight { pool.setStage worker (.encoding metric) with slot := none } + 5 =
          (pool.setStage worker (.encoding metric)).weight := weight_emptySlot queued
      simp only [Stage.weight] at moved
      show weight { pool.setStage worker (.encoding metric) with slot := none } < pool.weight
      omega
  | encode worker metric encoding =>
      have moved := weight_setStage encoding (.sending metric)
      simp only [Stage.weight] at moved
      omega
  | skip worker metric failure encoding other =>
      have moved := weight_setStage encoding .idle
      simp only [Stage.weight] at moved
      omega
  | spoil worker metric failure encoding isCount =>
      have moved := weight_setStage encoding .done
      simp only [Stage.weight] at moved
      rw [weight_fail]
      omega
  | deliver worker metric sending =>
      have moved := weight_setStage sending .idle
      simp only [Stage.weight] at moved
      omega
  | fail worker metric failure sending =>
      have moved := weight_setStage sending .done
      simp only [Stage.weight] at moved
      rw [weight_fail]
      omega

end Weight

section Progress

variable {shutdown : Bool}

theorem isReady_of_read (step : pool.read shutdown = some next) : pool.IsReady shutdown :=
  ⟨.read shutdown, next, rfl, fun _ same => (PoolEvent.read.inj same).symm, step⟩

theorem isReady_of_turn (step : pool.turn worker = some next) : pool.IsReady shutdown :=
  ⟨.turn worker, next, rfl, by simp, step⟩

theorem isReady_of_take (step : pool.take worker = some next) : pool.IsReady shutdown :=
  ⟨.take worker, next, rfl, by simp, step⟩

theorem isReady_of_encoding {metric : Metric}
    (encoding : pool.workers[worker]? = some (.encoding metric)) : pool.IsReady shutdown :=
  ⟨.encode worker (.ok ()), pool.setStage worker (.sending metric), rfl,
    by simp, by
      show pool.encode worker (.ok ()) = _
      rw [Pool.encode, encoding]⟩

/-- Nobody but a full slot keeps a reader waiting, and no slot does so after the signal. -/
theorem isReady_of_reading (reading : pool.isReading = true)
    (free : pool.unread = [] ∨ pool.isFired = true ∨ pool.slot = none) :
    pool.IsReady shutdown := by
  suffices step : ∃ next, pool.read shutdown = some next by
    obtain ⟨next, step⟩ := step
    exact isReady_of_read step
  unfold read
  rw [reading]
  cases unread : pool.unread with
  | nil => exact ⟨_, rfl⟩
  | cons metric rest =>
      cases shutdown with
      | true => exact ⟨_, rfl⟩
      | false =>
          rcases free with none | fired | free
          · rw [none] at unread
            cases unread
          · rw [fired]
            exact ⟨_, rfl⟩
          · rw [free]
            cases pool.isFired <;> exact ⟨_, rfl⟩

theorem isReady_of_taking (taking : pool.workers[worker]? = some .taking)
    (settled : pool.isFired = true ∨ pool.slot ≠ none ∨ pool.isReading = false) :
    pool.IsReady shutdown := by
  suffices step : ∃ next, pool.take worker = some next by
    obtain ⟨next, step⟩ := step
    exact isReady_of_take step
  unfold take
  rw [taking]
  cases fired : pool.isFired with
  | true => exact ⟨_, rfl⟩
  | false =>
      cases slot : pool.slot with
      | some metric => exact ⟨_, rfl⟩
      | none =>
          rcases settled with signal | full | stopped
          · rw [fired] at signal
            cases signal
          · exact absurd slot full
          · rw [stopped]
            exact ⟨_, rfl⟩

theorem isReady_of_idle (idle : pool.workers[worker]? = some .idle)
    (free : pool.workers.any Stage.isTaking = false) : pool.IsReady shutdown :=
  have step : pool.turn worker = some (pool.setStage worker .taking) := by
    rw [turn, idle, free]
    rfl
  isReady_of_turn step

/-- All workers are gone: unless the reader is too, it was the signal that sent them away. So the
reader never puts a metric into a slot from which nobody takes. -/
theorem Coherent.fired_of_deserted (coherent : pool.Coherent)
    (deserted : ∀ stage ∈ pool.workers, stage = .done) (reading : pool.isReading = true) :
    pool.isFired = true := by
  obtain ⟨stage, member⟩ := List.exists_mem_of_ne_nil _ coherent.staffed
  by_contra calm
  have stopped := (coherent.taken (by simpa using calm) (deserted stage member ▸ member)).1
  rw [reading] at stopped
  cases stopped

theorem Coherent.isReady_or_isAwaiting (coherent : pool.Coherent)
    (unfinished : pool.isFinished = false) (shutdown : Bool) :
    pool.IsReady shutdown ∨ pool.IsAwaiting := by
  by_cases turned : ∃ worker : Nat, pool.workers[worker]? = some .taking
  · obtain ⟨worker, taking⟩ := turned
    left
    -- Either the one who has its turn goes on, or the slot is empty and the reader does.
    by_cases settled : pool.isFired = true ∨ pool.slot ≠ none ∨ pool.isReading = false
    · exact isReady_of_taking taking settled
    · simp only [not_or, not_not, Bool.not_eq_false] at settled
      exact isReady_of_reading settled.2.2 (.inr (.inr settled.2.1))
  · have free : pool.workers.any Stage.isTaking = false := by
      rw [List.any_eq_false]
      intro stage member isTaking
      obtain ⟨worker, present⟩ := List.mem_iff_getElem?.mp member
      cases stage <;> first | exact turned ⟨worker, present⟩ | cases isTaking
    by_cases deserted : ∀ stage ∈ pool.workers, stage = .done
    · have reading : pool.isReading = true := by
        by_contra stopped
        have allDone : pool.workers.all Stage.isDone = true := by
          rw [List.all_eq_true]
          intro stage member
          rw [deserted stage member]
          rfl
        simp [isFinished, stopped, allDone] at unfinished
      exact .inl (isReady_of_reading reading
        (.inr (.inl (coherent.fired_of_deserted deserted reading))))
    · push Not at deserted
      obtain ⟨stage, member, notDone⟩ := deserted
      obtain ⟨worker, present⟩ := List.mem_iff_getElem?.mp member
      cases stage with
      | idle => exact .inl (isReady_of_idle present free)
      | taking => exact absurd ⟨worker, present⟩ turned
      | encoding metric => exact .inl (isReady_of_encoding present)
      | sending metric => exact .inr ⟨worker, metric, present⟩
      | done => exact absurd rfl notDone

theorem not_move_of_isFinished (finished : pool.isFinished = true) : ¬ Move pool event next := by
  have stopped : pool.isReading = false := by
    simp only [isFinished, Bool.and_eq_true, Bool.not_eq_true'] at finished
    exact finished.1
  have gone : ∀ {worker : Nat} {stage : Stage}, pool.workers[worker]? = some stage →
      stage = .done := fun present =>
    eq_done_of_isFinished finished (List.mem_of_getElem? present)
  intro move
  cases move with
  | exhaust shutdown reading exhausted => simp [stopped] at reading
  | interrupt reading unread => simp [stopped] at reading
  | halt reading fired => simp [stopped] at reading
  | queue metric unread reading isUnread calm free => simp [stopped] at reading
  | turn worker idle free => cases gone idle
  | quit worker taking ended => cases gone taking
  | take worker metric taking calm queued => cases gone taking
  | encode worker metric encoding => cases gone encoding
  | skip worker metric failure encoding other => cases gone encoding
  | spoil worker metric failure encoding isCount => cases gone encoding
  | deliver worker metric sending => cases gone sending
  | fail worker metric failure sending => cases gone sending

theorem not_isReady_of_isFinished (finished : pool.isFinished = true) :
    ¬ pool.IsReady shutdown := by
  rintro ⟨event, next, _, _, step⟩
  exact not_move_of_isFinished finished (move_of_step? step)

end Progress

end Pool

namespace Dispatch

variable {World : Type} {origin dispatch next : Dispatch World}

theorem Step.pool_eq_or_move (step : Step dispatch next) :
    next.pool = dispatch.pool ∨ ∃ event, dispatch.pool.Move event next.pool := by
  cases step with
  | sampleRuntime statistics => exact .inl rfl
  | sampleHost memory cores now => exact .inl rfl
  | shutDown => exact .inl rfl
  | elapse clock world => exact .inl rfl
  | work event notices pool step => exact .inr ⟨event, Pool.move_of_step? step⟩

theorem Step.isFinished (step : Step dispatch next) (finished : dispatch.pool.isFinished = true) :
    next.pool.isFinished = true := by
  rcases step.pool_eq_or_move with same | ⟨event, move⟩
  · rw [same, finished]
  · exact absurd move (Pool.not_move_of_isFinished finished)

/-- A course of events without an end. Between two moments the pool may stay as it is, so one that
comes to an end is a run as well. -/
structure Run (origin : Dispatch World) where
  state : Nat → Dispatch World
  starts : state 0 = origin
  steps : ∀ time, Step (state time) (state (time + 1))

namespace Run

variable {run : Run origin} {time later : Nat}

/-- The reader or a worker makes a step, or a request has its answer. -/
def Moves (run : Run origin) (time : Nat) : Prop :=
  (run.state (time + 1)).pool ≠ (run.state time).pool

instance (run : Run origin) : DecidablePred run.Moves :=
  fun time => inferInstanceAs (Decidable ((run.state (time + 1)).pool ≠ (run.state time).pool))

/-- Whoever can go on is not held up for ever, and each request has its answer at some time. -/
structure IsFair (run : Run origin) : Prop where
  scheduled : ∀ time, (run.state time).pool.IsReady (run.state time).site.isStopped →
    ∃ later ≥ time, run.Moves later
  answered : ∀ (time worker : Nat) (metric : Metric),
    (run.state time).pool.workers[worker]? = some (.sending metric) →
      ∃ later ≥ time, (run.state later).pool.workers[worker]? ≠ some (.sending metric)

theorem reachable (run : Run origin) (time : Nat) : Reachable origin (run.state time) := by
  induction time with
  | zero =>
      rw [run.starts]
      exact .start
  | succ time induction => exact induction.step (run.steps time)

theorem weight_lt_of_moves (moves : run.Moves time) :
    (run.state (time + 1)).pool.weight < (run.state time).pool.weight := by
  rcases (run.steps time).pool_eq_or_move with same | ⟨event, move⟩
  · exact absurd same moves
  · exact move.weight_lt

theorem weight_add_count_le (run : Run origin) (time : Nat) :
    (run.state time).pool.weight + Nat.count run.Moves time ≤ origin.pool.weight := by
  induction time with
  | zero => simp [run.starts]
  | succ time induction =>
      rw [Nat.count_succ]
      by_cases moves : run.Moves time
      · have lost := weight_lt_of_moves moves
        rw [if_pos moves]
        omega
      · have same : (run.state (time + 1)).pool = (run.state time).pool := not_not.mp moves
        rw [if_neg moves, same]
        omega

theorem weight_le (run : Run origin) (past : time ≤ later) :
    (run.state later).pool.weight ≤ (run.state time).pool.weight := by
  induction later, past using Nat.le_induction with
  | base => exact le_refl _
  | succ later past induction =>
      rcases (run.steps later).pool_eq_or_move with same | ⟨event, move⟩
      · rw [same]
        exact induction
      · exact move.weight_lt.le.trans induction

theorem isFinished_of_le (past : time ≤ later)
    (finished : (run.state time).pool.isFinished = true) :
    (run.state later).pool.isFinished = true := by
  induction later, past using Nat.le_induction with
  | base => exact finished
  | succ later past induction => exact (run.steps later).isFinished induction

theorem exists_moves_of_ne (past : time ≤ later)
    (changed : (run.state later).pool ≠ (run.state time).pool) :
    ∃ between ≥ time, run.Moves between := by
  induction later, past using Nat.le_induction with
  | base => exact absurd rfl changed
  | succ later past induction =>
      by_cases moves : run.Moves later
      · exact ⟨later, past, moves⟩
      · have same : (run.state (later + 1)).pool = (run.state later).pool := not_not.mp moves
        exact induction (same ▸ changed)

theorem isFair_of_isFinished (finished : (run.state time).pool.isFinished = true) :
    run.IsFair where
  scheduled moment ready := by
    rcases Nat.le_total time moment with after | before
    · exact absurd ready (Pool.not_isReady_of_isFinished (isFinished_of_le after finished))
    · refine exists_moves_of_ne before fun same => ?_
      rw [same] at finished
      exact Pool.not_isReady_of_isFinished finished ready
  answered moment worker metric sending := by
    refine ⟨max time moment, le_max_right _ _, fun stillSending => ?_⟩
    have finishedThen := isFinished_of_le (le_max_left time moment) finished
    cases Pool.eq_done_of_isFinished finishedThen (List.mem_of_getElem? stillSending)

/-- Goes on from the last of the states that matter. -/
def extend (run : Run origin) (time : Nat) (step : Step (run.state time) next) : Run origin where
  state moment := if moment ≤ time then run.state moment else next
  starts := by rw [if_pos (Nat.zero_le time), run.starts]
  steps moment := by
    rcases Nat.lt_trichotomy moment time with before | now | after
    · rw [if_pos before.le, if_pos (Nat.succ_le_of_lt before)]
      exact run.steps moment
    · subst now
      rw [if_pos (le_refl moment), if_neg (Nat.not_succ_le_self moment)]
      exact step
    · rw [if_neg (by omega), if_neg (by omega)]
      exact .elapse next.site.clock next.site.world

end Run

theorem Reachable.exists_run (reachable : Reachable origin dispatch) :
    ∃ (run : Run origin) (time : Nat), run.state time = dispatch := by
  induction reachable with
  | start => exact ⟨⟨fun _ => origin, rfl, fun _ => .elapse origin.site.clock origin.site.world⟩,
      0, rfl⟩
  | step reachable step induction =>
      obtain ⟨run, time, rfl⟩ := induction
      exact ⟨run.extend time step, time + 1, if_neg (Nat.not_succ_le_self time)⟩

theorem Reachable.isReady_or_isAwaiting {site : Site World} {batch : List Metric}
    {rateLimit : Nat} (reachable : Reachable (Dispatch.start site batch rateLimit) dispatch)
    (unfinished : dispatch.pool.isFinished = false) :
    dispatch.pool.IsReady dispatch.site.isStopped ∨ dispatch.pool.IsAwaiting :=
  reachable.accounted.coherent.isReady_or_isAwaiting unfinished dispatch.site.isStopped

namespace Run

variable {site : Site World} {batch : List Metric} {rateLimit : Nat}
  {run : Run (Dispatch.start site batch rateLimit)}

theorem exists_moves (fair : run.IsFair) {time : Nat}
    (unfinished : (run.state time).pool.isFinished = false) :
    ∃ later ≥ time, run.Moves later := by
  rcases (run.reachable time).isReady_or_isAwaiting unfinished with ready | awaiting
  · exact fair.scheduled time ready
  · obtain ⟨worker, metric, sending⟩ := awaiting
    obtain ⟨later, past, answered⟩ := fair.answered time worker metric sending
    exact exists_moves_of_ne past fun same => answered (same ▸ sending)

theorem exists_isFinished (fair : run.IsFair) (time : Nat) :
    ∃ later ≥ time, (run.state later).pool.isFinished = true := by
  -- What is not over moves again, and is lighter then.
  induction weight : (run.state time).pool.weight using Nat.strong_induction_on
    generalizing time with
  | _ weight induction =>
      subst weight
      by_cases finished : (run.state time).pool.isFinished = true
      · exact ⟨time, le_refl _, finished⟩
      · obtain ⟨later, past, moves⟩ := exists_moves fair (by simpa using finished)
        have lighter : (run.state (later + 1)).pool.weight < (run.state time).pool.weight :=
          (weight_lt_of_moves moves).trans_le (run.weight_le past)
        obtain ⟨last, isLater, finished⟩ := induction _ lighter (later + 1) rfl
        exact ⟨last, by omega, finished⟩

end Run

/-- A batch that goes out metric by metric is never stuck: until it is over, the reader or a worker
can go on or a request is on its way. Whatever is encoded, answered and stopped, there is only a
bounded number of steps, and if every request has its answer, all is over at some time. -/
theorem start_comesToEnd (site : Site World) (batch : List Metric) (rateLimit : Nat) :
    (∀ dispatch, Reachable (start site batch rateLimit) dispatch →
      dispatch.pool.isFinished = false →
        dispatch.pool.IsReady dispatch.site.isStopped ∨ dispatch.pool.IsAwaiting) ∧
    ∀ run : Run (start site batch rateLimit),
      (∀ time, Nat.count run.Moves time ≤ 6 * batch.length + 2 * max rateLimit 1 + 1) ∧
      (run.IsFair → ∃ time, ∀ later ≥ time, (run.state later).pool.isFinished = true) := by
  refine ⟨fun dispatch reachable unfinished => reachable.isReady_or_isAwaiting unfinished,
    fun run => ⟨fun time => ?_, fun fair => ?_⟩⟩
  · have bounded := run.weight_add_count_le time
    rw [show (Dispatch.start site batch rateLimit).pool = Pool.start batch rateLimit from rfl,
      Pool.weight_start] at bounded
    omega
  · obtain ⟨time, _, finished⟩ := run.exists_isFinished fair 0
    exact ⟨time, fun later past => Run.isFinished_of_le past finished⟩

theorem start_comesToEnd_sampledOnce :
    ∃ run : Run (start sampledOnce (sampledOnce.collector.batch .zero) 2),
      (∀ time, Nat.count run.Moves time ≤ 23) ∧
        ∃ time, ∀ later ≥ time, (run.state later).pool.isFinished = true := by
  obtain ⟨dispatch, reachable, finished, _⟩ := reachable_delivered
  obtain ⟨run, time, rfl⟩ := reachable.exists_run
  obtain ⟨bounded, ended⟩ :=
    (start_comesToEnd sampledOnce (sampledOnce.collector.batch .zero) 2).2 run
  exact ⟨run, bounded, ended (Run.isFair_of_isFinished finished)⟩

end Dispatch

end Telemetry
