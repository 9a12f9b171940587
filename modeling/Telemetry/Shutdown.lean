namespace Telemetry

/-! The signal to shut down. It is fired once and for all, and everyone who listens to it notices;
a signal whose trigger is gone before it was fired never comes. -/

inductive Listener where
  | attached
  | detached
  deriving DecidableEq, Repr

structure Shutdown where
  isFired : Bool
  hasTrigger : Bool
  listeners : List Listener
  deriving DecidableEq, Repr

namespace Shutdown

/-- A signal with one listener. -/
def start : Shutdown := ⟨false, true, [.attached]⟩

/-- Fires the signal; the answer tells whether there was a trigger left. -/
def fire (shutdown : Shutdown) : Bool × Shutdown :=
  (shutdown.hasTrigger, { shutdown with isFired := shutdown.isFired || shutdown.hasTrigger })

def dropTrigger (shutdown : Shutdown) : Shutdown := { shutdown with hasTrigger := false }

/-- Adds a listener; the answer is its number. -/
def add (shutdown : Shutdown) (listener : Listener) : Nat × Shutdown :=
  (shutdown.listeners.length, { shutdown with listeners := shutdown.listeners ++ [listener] })

/-- A listener made by the trigger, as long as there is one. -/
def subscribe (shutdown : Shutdown) : Option (Nat × Shutdown) :=
  if shutdown.hasTrigger then some (shutdown.add .attached) else none

/-- Another listener like one that there is. -/
def duplicate (shutdown : Shutdown) (index : Nat) : Option (Nat × Shutdown) :=
  (shutdown.listeners[index]?).map shutdown.add

def hears? (shutdown : Shutdown) (index : Nat) : Option Bool :=
  (shutdown.listeners[index]?).map fun listener => listener = .attached && shutdown.isFired

end Shutdown

end Telemetry
