import Telemetry.Agent.Delivery

namespace Telemetry

open Telemetry

/-! The agent at work: it samples at the start and each time an interval has passed, and reports
each time another interval has passed, until it is stopped. A report that is under way then still
comes to its end. -/

/-- How much later than it was due a tick may be taken and not be late. -/
def leeway : Nat := 5

/-- When the next tick is due. After a tick that was taken late, a whole interval passes. -/
def nextDue (interval due now : Nat) : Nat :=
  if due + leeway < now then now + interval else due + interval

structure Schedule (World : Type) where
  sender : Sender World
  mode : DeliveryMode
  /-- Milliseconds. -/
  pollInterval : Nat
  /-- Milliseconds. -/
  reportInterval : Nat
  sample : Site World → Site World
  random : Binary64

inductive Reporting where
  | waiting (tick : Alarm)
  | delivering (due : Nat) (delivery : Delivery)

structure Shift (World : Type) where
  site : Site World
  poll : Alarm
  stop : Alarm
  reporting : Reporting
  /-- The samples that were not delivered when it was stopped. -/
  countAtStop : Int64

inductive Occasion where
  | poll
  | report
  | stop
  | arrival (flight : Flight)

variable {World : Type}

namespace Shift

/-- What is still to come, and when. -/
def upcoming (shift : Shift World) : List (Alarm × Occasion) :=
  let regular :=
    if shift.site.isStopped then [] else [(shift.stop, .stop), (shift.poll, .poll)]
  match shift.reporting with
  | .waiting tick => if shift.site.isStopped then [] else (tick, .report) :: regular
  | .delivering _ delivery => match delivery.next? with
    | some flight => (flight.arrival, .arrival flight) :: regular
    | none => regular

def next? (shift : Shift World) : Option (Alarm × Occasion) :=
  shift.upcoming.foldl
    (fun earliest other => match earliest with
      | none => some other
      | some first => if other.1.rings first.1 then some other else some first)
    none

end Shift

namespace Schedule

/-- The agent starts: it samples, and both intervals begin. -/
def start (schedule : Schedule World) (stopAt : Nat) (site : Site World) : Shift World :=
  let (stop, site) := site.setAlarm stopAt
  let site := schedule.sample site
  let (poll, site) := site.setAlarm schedule.pollInterval
  let (tick, site) := site.setAlarm schedule.reportInterval
  ⟨site, poll, stop, .waiting tick, 0⟩

/-- Takes up the rest of a report, or waits for the next one if it is over. -/
def resume (shift : Shift World) (due : Nat) : Delivery × Site World → Shift World
  | (.ended _, site) =>
    let (tick, clock) := site.clock.setAlarm due
    { shift with site := { site with clock := clock }, reporting := .waiting tick }
  | (delivery, site) => { shift with site := site, reporting := .delivering due delivery }

def meet (schedule : Schedule World) (shift : Shift World) (alarm : Alarm) :
    Occasion → Shift World
  | .poll =>
    let site := schedule.sample (shift.site.reach alarm)
    let due := nextDue schedule.pollInterval alarm.due site.clock.now
    let (poll, clock) := site.clock.setAlarm due
    { shift with site := { site with clock := clock }, poll := poll }
  | .report =>
    let site := shift.site.reach alarm
    resume shift (nextDue schedule.reportInterval alarm.due site.clock.now)
      (schedule.sender.beginReport schedule.mode schedule.random site)
  | .stop =>
    let site := { shift.site.reach alarm with isStopped := true }
    let stopped := { shift with site := site, countAtStop := site.collector.pollCount }
    match shift.reporting with
    | .waiting _ => stopped
    | .delivering due delivery => resume stopped due (schedule.sender.interrupt delivery site)
  | .arrival flight => match shift.reporting with
    | .waiting _ => shift
    | .delivering due delivery =>
      resume shift due (schedule.sender.arrive delivery flight shift.site)

/-- The answers that a report under way still waits for, at most. -/
def pending (shift : Shift World) : Nat :=
  match shift.reporting with
  | .waiting _ => 0
  | .delivering _ delivery => delivery.weight

/-- Lets time pass, for so many ticks at most and for so many answers before the next of them. -/
def run (schedule : Schedule World) (ticks answers : Nat) (shift : Shift World) : Shift World :=
  match shift.next? with
  | none => shift
  | some (alarm, .arrival flight) =>
    match answers with
    | 0 => shift
    | answers + 1 => schedule.run ticks answers (schedule.meet shift alarm (.arrival flight))
  | some (alarm, occasion) =>
    match ticks with
    | 0 => shift
    | ticks + 1 =>
      let shift := schedule.meet shift alarm occasion
      schedule.run ticks (pending shift) shift
  termination_by (ticks, answers)

/-- A bound on the ticks until the agent is stopped, and the stop. -/
def ticksUntil (schedule : Schedule World) (stopAt : Nat) : Nat :=
  stopAt / schedule.pollInterval + stopAt / schedule.reportInterval + 3

def runUntil (schedule : Schedule World) (stopAt : Nat) (site : Site World) : Shift World :=
  schedule.run (schedule.ticksUntil stopAt) 0 (schedule.start stopAt site)

end Schedule

end Telemetry
