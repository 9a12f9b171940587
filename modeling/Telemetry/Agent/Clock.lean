namespace Telemetry

/-! Time in milliseconds, and alarms set for a time. Of two alarms for the same time the one that
was set first rings first. -/

structure Alarm where
  due : Nat
  /-- The number of alarms that had been set before. -/
  rank : Nat
  deriving DecidableEq, Repr

namespace Alarm

def rings (first second : Alarm) : Bool :=
  decide (first.due < second.due) || first.due == second.due && decide (first.rank < second.rank)

end Alarm

structure Clock where
  now : Nat
  alarms : Nat
  deriving DecidableEq, Repr

namespace Clock

def start : Clock := ⟨0, 0⟩

/-- Sets an alarm; one for a time that is over rings at once. -/
def setAlarm (clock : Clock) (due : Nat) : Alarm × Clock :=
  (⟨due, clock.alarms⟩, { clock with alarms := clock.alarms + 1 })

def reach (clock : Clock) (alarm : Alarm) : Clock := { clock with now := max clock.now alarm.due }

end Clock

end Telemetry
