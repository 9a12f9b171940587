import Telemetry.Agent.Clock
import Telemetry.Agent.Encoder
import Telemetry.Agent.Pool
import Telemetry.Config.Basic

namespace Telemetry

open Telemetry

/-! Deliveries: the batch of a collector goes out, whole or each metric alone, and the samples that
it counts are taken off the count once all of it has arrived. -/

/-- An agent among its surroundings: what it has sampled, whether it is to stop, the time, and the
rest. -/
structure Site (World : Type) where
  collector : Collector
  isStopped : Bool
  clock : Clock
  world : World

/-- What comes of a request, and after how many milliseconds. -/
structure Passage where
  lasting : Nat
  result : Except Failure Unit

/-- The way of a body to the server. Samples may be taken and a shutdown may come meanwhile. -/
abbrev Transport (World : Type) := DeliveryMode → Bytes → Site World → Passage × Site World

/-- A request on its way, and when its answer arrives. -/
structure Flight where
  worker : Nat
  arrival : Alarm
  result : Except Failure Unit

/-- A delivery: over, or on its way with the samples that its batch counts. -/
inductive Delivery where
  | ended (result : Except Failure Unit)
  | whole (samples : Int64) (flight : Flight)
  | each (samples : Int64) (pool : Pool) (flights : List Flight)

namespace Delivery

def result? : Delivery → Option (Except Failure Unit)
  | .ended result => some result
  | _ => none

def flights : Delivery → List Flight
  | .ended _ => []
  | .whole _ flight => [flight]
  | .each _ _ flights => flights

def weight : Delivery → Nat
  | .ended _ => 0
  | .whole _ _ => 1
  | .each _ pool _ => pool.weight

def next? (delivery : Delivery) : Option Flight :=
  delivery.flights.foldl
    (fun earliest flight => match earliest with
      | none => some flight
      | some other => if flight.arrival.rings other.arrival then some flight else some other)
    none

end Delivery

structure Sender (World : Type) where
  encoder : Encoder
  rateLimit : Nat
  transport : Transport World

structure Round (World : Type) where
  pool : Pool
  flights : List Flight
  site : Site World

variable {World : Type}

namespace Site

def acknowledge (site : Site World) (delivered : Int64) : Site World :=
  { site with collector := site.collector.acknowledge delivered }

def setAlarm (site : Site World) (lasting : Nat) : Alarm × Site World :=
  let (alarm, clock) := site.clock.setAlarm (site.clock.now + lasting)
  (alarm, { site with clock := clock })

def reach (site : Site World) (alarm : Alarm) : Site World :=
  { site with clock := site.clock.reach alarm }

end Site

namespace Sender

/-- Sends the metric that a worker holds. An answer that takes no time is there at once. -/
def launch (sender : Sender World) (round : Round World) (worker : Nat) (body : Bytes) :
    Option (Round World) := do
  let pool ← round.pool.encode worker (.ok ())
  let (passage, site) := sender.transport .single body round.site
  if passage.lasting = 0 then
    let answered ← pool.answer worker passage.result
    return ⟨answered, round.flights, site⟩
  else
    let (arrival, site) := site.setAlarm passage.lasting
    return ⟨pool, round.flights ++ [⟨worker, arrival, passage.result⟩], site⟩

/-- The next event of a worker that needs not wait for an answer. -/
def workerStep (sender : Sender World) (round : Round World) (worker : Nat) :
    Option (Round World) :=
  match round.pool.workers[worker]? with
  | some .idle => (round.pool.turn worker).map fun pool => { round with pool := pool }
  | some .taking => (round.pool.take worker).map fun pool => { round with pool := pool }
  | some (.encoding metric) =>
    match sender.encoder.encodeOne [] metric with
    | .ok body => sender.launch round worker body
    | .error failure =>
      (round.pool.encode worker (.error failure)).map fun pool => { round with pool := pool }
  | _ => none

def readerStep (round : Round World) : Option (Round World) :=
  (round.pool.read round.site.isStopped).map fun pool => { round with pool := pool }

/-- The next event of the first worker that has one, or else of the reader. -/
def roundStep (sender : Sender World) (round : Round World) : Option (Round World) :=
  ((List.range round.pool.workers.length).findSome? (sender.workerStep round)).or
    (readerStep round)

def runRound (sender : Sender World) : Nat → Round World → Round World
  | 0, round => round
  | fuel + 1, round =>
    match sender.roundStep round with
    | some round => sender.runRound fuel round
    | none => round

/-- Ends a delivery. Its samples are off the count if all of it has arrived, and only then. -/
def conclude (samples : Int64) (result : Except Failure Unit) (site : Site World) :
    Delivery × Site World :=
  (.ended result, match result with
    | .ok () => site.acknowledge samples
    | .error _ => site)

/-- A delivery of metrics alone until it waits for an answer. -/
def settle (sender : Sender World) (samples : Int64) (round : Round World) :
    Delivery × Site World :=
  let round := sender.runRound round.pool.weight round
  if round.pool.isFinished then conclude samples round.pool.result round.site
  else (.each samples round.pool round.flights, round.site)

def beginWhole (sender : Sender World) (batch : List Metric) (site : Site World) :
    Delivery × Site World :=
  let samples := Collector.sampleCount batch
  match sender.encoder.encodeAll batch with
  | .error failure => (.ended (.error failure), site)
  | .ok body =>
    let (passage, site) := sender.transport .batch body site
    if passage.lasting = 0 then conclude samples passage.result site
    else
      let (arrival, site) := site.setAlarm passage.lasting
      (.whole samples ⟨0, arrival, passage.result⟩, site)

def beginEach (sender : Sender World) (batch : List Metric) (site : Site World) :
    Delivery × Site World :=
  sender.settle (Collector.sampleCount batch) ⟨Pool.start batch sender.rateLimit, [], site⟩

def beginReport (sender : Sender World) (mode : DeliveryMode) (random : Binary64)
    (site : Site World) : Delivery × Site World :=
  let batch := site.collector.batch random
  match mode with
  | .single => sender.beginEach batch site
  | .batch => sender.beginWhole batch site

def arrive (sender : Sender World) (delivery : Delivery) (flight : Flight) (site : Site World) :
    Delivery × Site World :=
  let site := site.reach flight.arrival
  match delivery with
  | .ended _ => (delivery, site)
  | .whole samples _ => conclude samples flight.result site
  | .each samples pool flights =>
    let others := flights.filter fun other => other.arrival ≠ flight.arrival
    sender.settle samples ⟨(pool.answer flight.worker flight.result).getD pool, others, site⟩

/-- Goes on with a delivery when there is a shutdown; only its reader takes notice. -/
def interrupt (sender : Sender World) (delivery : Delivery) (site : Site World) :
    Delivery × Site World :=
  match delivery with
  | .each samples pool flights => sender.settle samples ⟨pool, flights, site⟩
  | _ => (delivery, site)

def complete (sender : Sender World) : Nat → Delivery → Site World → Delivery × Site World
  | 0, delivery, site => (delivery, site)
  | fuel + 1, delivery, site =>
    match delivery.next? with
    | none => (delivery, site)
    | some flight =>
      let (delivery, site) := sender.arrive delivery flight site
      sender.complete fuel delivery site

def report (sender : Sender World) (mode : DeliveryMode) (random : Binary64) (site : Site World) :
    Except Failure Unit × Site World :=
  let (delivery, site) := sender.beginReport mode random site
  let (delivery, site) := sender.complete delivery.weight delivery site
  (delivery.result?.getD (.error .cancelled), site)

end Sender

end Telemetry
