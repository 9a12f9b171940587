import Telemetry.Agent.Collector

namespace Telemetry

open Telemetry

/-! A batch on its way, one request for each metric. A reader puts the metrics one at a time into a
slot; workers take turns at the slot and send what they take. The first failure fires a signal that
stops the reader, and each worker at its next turn; a shutdown stops the reader, which fires it too.

Each event is one step of the reader or of one worker. Which of them comes next is not said here. -/

inductive Stage where
  /-- Waits for its turn at the slot. -/
  | idle
  /-- Has its turn, which no other worker has at the same time. -/
  | taking
  | encoding (metric : Metric)
  | sending (metric : Metric)
  | done
  deriving DecidableEq, Repr

namespace Stage

def isTaking : Stage → Bool
  | .taking => true
  | _ => false

def isSending : Stage → Bool
  | .sending _ => true
  | _ => false

def isDone : Stage → Bool
  | .done => true
  | _ => false

/-- The steps that are left to a worker before it needs another metric. -/
def weight : Stage → Nat
  | .encoding _ => 4
  | .sending _ => 3
  | .idle => 2
  | .taking => 1
  | .done => 0

end Stage

structure Pool where
  /-- The metrics that the reader still has to put into the slot. -/
  unread : List Metric
  isReading : Bool
  slot : Option Metric
  workers : List Stage
  isFired : Bool
  isInterrupted : Bool
  /-- The failure of the first worker that failed. -/
  failure : Option Failure
  deriving DecidableEq, Repr

inductive PoolEvent where
  | read (shutdown : Bool)
  | turn (worker : Nat)
  /-- A worker that has its turn looks at the signal and then at the slot. -/
  | take (worker : Nat)
  | encode (worker : Nat) (result : Except Failure Unit)
  | answer (worker : Nat) (result : Except Failure Unit)

namespace Pool

/-- At least one worker, however few are asked for. -/
def start (batch : List Metric) (rateLimit : Nat) : Pool :=
  ⟨batch, true, none, List.replicate (max rateLimit 1) .idle, false, false, none⟩

def setStage (pool : Pool) (worker : Nat) (stage : Stage) : Pool :=
  { pool with workers := pool.workers.set worker stage }

/-- A worker gives up with a failure and stops the others. -/
def fail (pool : Pool) (worker : Nat) (failure : Failure) : Pool :=
  { pool.setStage worker .done with
    isFired := true
    failure := pool.failure.or (some failure) }

/-- The reader's step; it has none while the slot is full. -/
def read (pool : Pool) (shutdown : Bool) : Option Pool :=
  if !pool.isReading then none
  else match pool.unread with
    | [] => some { pool with isReading := false }
    | metric :: unread =>
      if shutdown then
        some { pool with isReading := false, isFired := true, isInterrupted := true }
      else if pool.isFired then some { pool with isReading := false }
      else match pool.slot with
        | some _ => none
        | none => some { pool with unread := unread, slot := some metric }

def turn (pool : Pool) (worker : Nat) : Option Pool :=
  match pool.workers[worker]? with
  | some .idle =>
    if pool.workers.any Stage.isTaking then none else some (pool.setStage worker .taking)
  | _ => none

/-- The step of a worker that has its turn; it has none while there may come a metric. -/
def take (pool : Pool) (worker : Nat) : Option Pool :=
  match pool.workers[worker]? with
  | some .taking =>
    if pool.isFired then some (pool.setStage worker .done)
    else match pool.slot with
      | some metric => some { pool.setStage worker (.encoding metric) with slot := none }
      | none =>
        if pool.isReading then none else some (pool.setStage worker .done)
  | _ => none

/-- A metric that cannot become a body is left out, but for the sample count: that must not be taken
for delivered. -/
def encode (pool : Pool) (worker : Nat) (result : Except Failure Unit) : Option Pool :=
  match pool.workers[worker]? with
  | some (.encoding metric) =>
    match result with
    | .ok () => some (pool.setStage worker (.sending metric))
    | .error failure =>
      if metric.id = pollCountName then some (pool.fail worker failure)
      else some (pool.setStage worker .idle)
  | _ => none

def answer (pool : Pool) (worker : Nat) (result : Except Failure Unit) : Option Pool :=
  match pool.workers[worker]? with
  | some (.sending _) =>
    match result with
    | .ok () => some (pool.setStage worker .idle)
    | .error failure => some (pool.fail worker failure)
  | _ => none

def step? (pool : Pool) : PoolEvent → Option Pool
  | .read shutdown => pool.read shutdown
  | .turn worker => pool.turn worker
  | .take worker => pool.take worker
  | .encode worker result => pool.encode worker result
  | .answer worker result => pool.answer worker result

/-- Whether the reader and all workers have come to an end. -/
def isFinished (pool : Pool) : Bool := !pool.isReading && pool.workers.all Stage.isDone

/-- How a finished delivery went; a failure counts before an interruption. -/
def result (pool : Pool) : Except Failure Unit :=
  match pool.failure with
  | some failure => .error failure
  | none => if pool.isInterrupted then .error .cancelled else .ok ()

/-- A bound on the events that are still to come. -/
def weight (pool : Pool) : Nat :=
  6 * pool.unread.length + (if pool.slot.isSome then 5 else 0) +
    pool.workers.foldr (fun stage rest => stage.weight + rest) 0 + (if pool.isReading then 1 else 0)

end Pool

end Telemetry
