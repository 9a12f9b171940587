import Telemetry.Agent.Pool

namespace Telemetry

open Telemetry

/-! What the reader and the workers of a pool can do, and what always holds of them. -/

namespace Stage

def metric? : Stage → Option Metric
  | .encoding metric => some metric
  | .sending metric => some metric
  | _ => none

end Stage

namespace Pool

/-- Every way for an event to happen, with the pool after it. -/
inductive Move (pool : Pool) : PoolEvent → Pool → Prop where
  | exhaust (shutdown : Bool) (reading : pool.isReading = true) (exhausted : pool.unread = []) :
      Move pool (.read shutdown) { pool with isReading := false }
  | interrupt (reading : pool.isReading = true) (unread : pool.unread ≠ []) :
      Move pool (.read true)
        { pool with isReading := false, isFired := true, isInterrupted := true }
  | halt (reading : pool.isReading = true) (fired : pool.isFired = true) :
      Move pool (.read false) { pool with isReading := false }
  | queue (metric : Metric) (unread : List Metric) (reading : pool.isReading = true)
      (isUnread : pool.unread = metric :: unread) (calm : pool.isFired = false)
      (free : pool.slot = none) :
      Move pool (.read false) { pool with unread := unread, slot := some metric }
  | turn (worker : Nat) (idle : pool.workers[worker]? = some .idle)
      (free : pool.workers.any Stage.isTaking = false) :
      Move pool (.turn worker) (pool.setStage worker .taking)
  | quit (worker : Nat) (taking : pool.workers[worker]? = some .taking)
      (ended : pool.isFired = true ∨ pool.slot = none ∧ pool.isReading = false) :
      Move pool (.take worker) (pool.setStage worker .done)
  | take (worker : Nat) (metric : Metric) (taking : pool.workers[worker]? = some .taking)
      (calm : pool.isFired = false) (queued : pool.slot = some metric) :
      Move pool (.take worker) { pool.setStage worker (.encoding metric) with slot := none }
  | encode (worker : Nat) (metric : Metric)
      (encoding : pool.workers[worker]? = some (.encoding metric)) :
      Move pool (.encode worker (.ok ())) (pool.setStage worker (.sending metric))
  | skip (worker : Nat) (metric : Metric) (failure : Failure)
      (encoding : pool.workers[worker]? = some (.encoding metric))
      (other : metric.id ≠ pollCountName) :
      Move pool (.encode worker (.error failure)) (pool.setStage worker .idle)
  | spoil (worker : Nat) (metric : Metric) (failure : Failure)
      (encoding : pool.workers[worker]? = some (.encoding metric))
      (isCount : metric.id = pollCountName) :
      Move pool (.encode worker (.error failure)) (pool.fail worker failure)
  | deliver (worker : Nat) (metric : Metric)
      (sending : pool.workers[worker]? = some (.sending metric)) :
      Move pool (.answer worker (.ok ())) (pool.setStage worker .idle)
  | fail (worker : Nat) (metric : Metric) (failure : Failure)
      (sending : pool.workers[worker]? = some (.sending metric)) :
      Move pool (.answer worker (.error failure)) (pool.fail worker failure)

variable {pool next : Pool} {event : PoolEvent}

theorem move_of_read {shutdown : Bool} (step : pool.read shutdown = some next) :
    Move pool (.read shutdown) next := by
  unfold read at step
  split at step
  · cases step
  · next notStopped =>
      have reading : pool.isReading = true := by simpa using notStopped
      split at step
      · next exhausted =>
          obtain rfl := Option.some.inj step
          exact .exhaust shutdown reading exhausted
      · next metric unread isUnread =>
          split at step
          · next isShutdown =>
              obtain rfl := Option.some.inj step
              subst isShutdown
              exact .interrupt reading (by simp [isUnread])
          · next noShutdown =>
              obtain rfl : shutdown = false := by simpa using noShutdown
              split at step
              · next fired =>
                  obtain rfl := Option.some.inj step
                  exact .halt reading fired
              · next calm =>
                  split at step
                  · cases step
                  · next free =>
                      obtain rfl := Option.some.inj step
                      exact .queue metric unread reading isUnread (by simpa using calm) free

theorem move_of_turn {worker : Nat} (step : pool.turn worker = some next) :
    Move pool (.turn worker) next := by
  unfold turn at step
  split at step
  · next idle =>
      split at step
      · cases step
      · next free =>
          obtain rfl := Option.some.inj step
          exact .turn worker idle (by simpa using free)
  · cases step

theorem move_of_take {worker : Nat} (step : pool.take worker = some next) :
    Move pool (.take worker) next := by
  unfold take at step
  split at step
  · next taking =>
      split at step
      · next fired =>
          obtain rfl := Option.some.inj step
          exact .quit worker taking (.inl fired)
      · next calm =>
          split at step
          · next metric queued =>
              obtain rfl := Option.some.inj step
              exact .take worker metric taking (by simpa using calm) queued
          · next free =>
              split at step
              · cases step
              · next ended =>
                  obtain rfl := Option.some.inj step
                  exact .quit worker taking (.inr ⟨free, by simpa using ended⟩)
  · cases step

theorem move_of_encode {worker : Nat} {result : Except Failure Unit}
    (step : pool.encode worker result = some next) : Move pool (.encode worker result) next := by
  unfold encode at step
  split at step
  · next metric encoding =>
      cases result with
      | ok encoded =>
          obtain rfl := Option.some.inj step
          exact .encode worker metric encoding
      | error failure =>
          simp only at step
          split at step
          · next isCount =>
              obtain rfl := Option.some.inj step
              exact .spoil worker metric failure encoding isCount
          · next other =>
              obtain rfl := Option.some.inj step
              exact .skip worker metric failure encoding other
  · cases step

theorem move_of_answer {worker : Nat} {result : Except Failure Unit}
    (step : pool.answer worker result = some next) : Move pool (.answer worker result) next := by
  unfold answer at step
  split at step
  · next metric sending =>
      cases result with
      | ok delivered =>
          obtain rfl := Option.some.inj step
          exact .deliver worker metric sending
      | error failure =>
          obtain rfl := Option.some.inj step
          exact .fail worker metric failure sending
  · cases step

theorem move_of_step? (step : pool.step? event = some next) : Move pool event next := by
  cases event with
  | read shutdown => exact move_of_read step
  | turn worker => exact move_of_turn step
  | take worker => exact move_of_take step
  | encode worker result => exact move_of_encode step
  | answer worker result => exact move_of_answer step

/-- What no worker has taken yet, in the order of the batch. -/
def waiting (pool : Pool) : List Metric := pool.slot.toList ++ pool.unread

/-- What the signal, the reader and the slot say of each other. -/
structure Coherent (pool : Pool) : Prop where
  staffed : pool.workers ≠ []
  fired : pool.isFired = true ↔ pool.failure.isSome ∨ pool.isInterrupted = true
  /-- Without the signal the reader stops only when it is through, and workers when all is taken. -/
  read : pool.isFired = false → pool.isReading = false → pool.unread = []
  taken : pool.isFired = false → .done ∈ pool.workers → pool.isReading = false ∧ pool.slot = none
  interrupted : pool.isInterrupted = true → pool.isReading = false ∧ pool.unread ≠ []

theorem coherent_start (batch : List Metric) (rateLimit : Nat) :
    (start batch rateLimit).Coherent where
  staffed := by
    have someWorker : max rateLimit 1 ≠ 0 := by omega
    exact fun none => someWorker ((List.replicate_eq_nil_iff _).mp none)
  fired := by simp [start]
  read _ stopped := by cases stopped
  taken _ done := by simp [start] at done
  interrupted interrupted := by cases interrupted

theorem Coherent.setStage (coherent : pool.Coherent) {worker : Nat} {stage : Stage}
    (goesOn : stage ≠ .done) : (pool.setStage worker stage).Coherent where
  staffed := by simpa [Pool.setStage] using coherent.staffed
  fired := coherent.fired
  read := coherent.read
  taken calm done := by
    rcases List.mem_or_eq_of_mem_set done with old | same
    · exact coherent.taken calm old
    · exact absurd same.symm goesOn
  interrupted := coherent.interrupted

theorem Coherent.fail (coherent : pool.Coherent) (worker : Nat) (failure : Failure) :
    (pool.fail worker failure).Coherent where
  staffed := by simpa [Pool.fail, Pool.setStage] using coherent.staffed
  fired := by simp [Pool.fail]
  read calm := by cases calm
  taken calm := by cases calm
  interrupted := coherent.interrupted

theorem Move.coherent (move : Move pool event next) (coherent : pool.Coherent) :
    next.Coherent := by
  cases move with
  | exhaust shutdown reading exhausted =>
      refine ⟨coherent.staffed, coherent.fired, fun _ _ => exhausted, ?_, ?_⟩
      · exact fun calm done => ⟨rfl, (coherent.taken calm done).2⟩
      · exact fun interrupted => ⟨rfl, (coherent.interrupted interrupted).2⟩
  | interrupt reading unread =>
      refine ⟨coherent.staffed, by simp, ?_, ?_, fun _ => ⟨rfl, unread⟩⟩
      · intro calm
        cases calm
      · intro calm
        cases calm
  | halt reading fired =>
      refine ⟨coherent.staffed, coherent.fired, ?_, ?_, ?_⟩
      · intro calm
        rw [fired] at calm
        cases calm
      · intro calm
        rw [fired] at calm
        cases calm
      · exact fun interrupted => ⟨rfl, (coherent.interrupted interrupted).2⟩
  | queue metric unread reading isUnread calm free =>
      refine ⟨coherent.staffed, coherent.fired, ?_, ?_, ?_⟩
      · intro _ stopped
        rw [reading] at stopped
        cases stopped
      · intro calm done
        have stopped := (coherent.taken calm done).1
        rw [reading] at stopped
        cases stopped
      · intro interrupted
        have stopped := (coherent.interrupted interrupted).1
        rw [reading] at stopped
        cases stopped
  | turn worker idle free => exact coherent.setStage (by simp)
  | quit worker taking ended =>
      refine ⟨by simpa [setStage] using coherent.staffed, coherent.fired, coherent.read, ?_,
        coherent.interrupted⟩
      intro calm done
      rcases ended with fired | ⟨free, stopped⟩
      · rw [show pool.isFired = false from calm] at fired
        cases fired
      · exact ⟨stopped, free⟩
  | take worker metric taking calm queued =>
      have moved : (pool.setStage worker (.encoding metric)).Coherent :=
        coherent.setStage (by simp)
      refine ⟨moved.staffed, moved.fired, moved.read, ?_, moved.interrupted⟩
      exact fun calm done => ⟨(moved.taken calm done).1, rfl⟩
  | encode worker metric encoding => exact coherent.setStage (by simp)
  | skip worker metric failure encoding other => exact coherent.setStage (by simp)
  | spoil worker metric failure encoding isCount => exact coherent.fail worker failure
  | deliver worker metric sending => exact coherent.setStage (by simp)
  | fail worker metric failure sending => exact coherent.fail worker failure

theorem eq_done_of_isFinished (finished : pool.isFinished = true) {stage : Stage}
    (member : stage ∈ pool.workers) : stage = .done := by
  obtain ⟨_, done⟩ : pool.isReading = false ∧ ∀ stage ∈ pool.workers, stage.isDone = true := by
    simpa [isFinished] using finished
  have isDone := done stage member
  cases stage <;> first | rfl | cases isDone

theorem Coherent.waiting_of_ok (coherent : pool.Coherent) (finished : pool.isFinished = true)
    (result : pool.result = .ok ()) : pool.waiting = [] ∧ pool.failure = none := by
  have unfailed : pool.failure = none := by
    cases failure : pool.failure with
    | none => rfl
    | some failure => simp [Pool.result, failure] at result
  have calm : pool.isFired = false := by
    rw [← Bool.not_eq_true, coherent.fired]
    rintro (failed | interrupted)
    · simp [unfailed] at failed
    · simp [Pool.result, unfailed, interrupted] at result
  have stopped : pool.isReading = false := by
    simp only [isFinished, Bool.and_eq_true, Bool.not_eq_true'] at finished
    exact finished.1
  -- There is a worker, and without the signal it only stops when all is taken.
  obtain ⟨stage, member⟩ := List.exists_mem_of_ne_nil _ coherent.staffed
  have isDone := eq_done_of_isFinished finished member
  have free := (coherent.taken calm (isDone ▸ member)).2
  exact ⟨by simp [waiting, free, coherent.read calm stopped], unfailed⟩

end Pool

end Telemetry
