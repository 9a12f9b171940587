import Telemetry.Agent.Client
import Telemetry.Agent.Host
import Telemetry.Agent.Schedule
import Telemetry.Disk

namespace Telemetry

open Telemetry

/-! The agent that a configuration asks for. -/

structure Agent where
  config : AgentConfig
  host : Address
  encryptor : Option Rsa.PublicKey

namespace Agent

def ofConfig (network : Network) (disk : Disk) (config : AgentConfig) : Except Failure Agent := do
  config.validate
  let encryptor := config.cryptoKey.bind fun path =>
    (Rsa.PublicKey.ofFile path (disk.readText path)).toOption
  return ⟨config, config.resolveHost network, encryptor⟩

def encoder (agent : Agent) : Encoder := ⟨agent.config.hashKey, agent.encryptor⟩

def client (agent : Agent) : Client := ⟨agent.config.serverUrl, agent.host⟩

/-- The milliseconds of an interval; a part of one counts as a whole. -/
def milliseconds (interval : Duration) : Nat :=
  (interval.nanoseconds + 999999) / Duration.nanosecondsPerMillisecond

def schedule {World : Type} (agent : Agent) (transport : Transport World)
    (sample : Site World → Site World) (random : Binary64) : Schedule World where
  sender := ⟨agent.encoder, agent.config.rateLimit, transport⟩
  mode := agent.config.deliveryMode
  pollInterval := milliseconds agent.config.pollInterval
  reportInterval := milliseconds agent.config.reportInterval
  sample := sample
  random := random

end Agent

end Telemetry
