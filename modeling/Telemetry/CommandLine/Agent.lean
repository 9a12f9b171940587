import Telemetry.CommandLine.ConfigFile
import Telemetry.CommandLine.Options
import Telemetry.Config.File

namespace Telemetry.CommandLine

open Telemetry

/-! The command line of the agent. -/

structure AgentArguments where
  address : Option String
  pollInterval : Option Duration
  reportInterval : Option Duration
  rateLimit : Option Nat
  key : Option String
  cryptoKey : Option String
  hostAddress : Option Address
  deliveryMode : Option DeliveryMode
  config : Option String
  debug : Bool
  checkConfig : Bool
  deriving DecidableEq, Repr

namespace AgentArguments

def parameters : List Parameter := [
  ⟨"address", some 'a', some "ADDRESS", .text⟩,
  ⟨"poll-interval", some 'p', some "POLL_INTERVAL", .duration⟩,
  ⟨"report-interval", some 'r', some "REPORT_INTERVAL", .duration⟩,
  ⟨"rate-limit", some 'l', some "RATE_LIMIT", .count⟩,
  ⟨"key", some 'k', some "KEY", .text⟩,
  ⟨"crypto-key", none, some "CRYPTO_KEY", .path⟩,
  ⟨"host-address", none, some "HOST_ADDRESS", .address⟩,
  ⟨"delivery-mode", none, some "DELIVERY_MODE", .choice ["single", "batch"]⟩,
  ⟨"config", some 'c', some "CONFIG", .path⟩,
  ⟨"debug", none, some "RUNMETRICS_DEBUG", .flag⟩,
  ⟨"check-config", none, none, .flag⟩]

def ofValues (values : Values) : AgentArguments where
  address := values.text? "address"
  pollInterval := values.duration? "poll-interval"
  reportInterval := values.duration? "report-interval"
  rateLimit := values.count? "rate-limit"
  key := values.text? "key"
  cryptoKey := values.text? "crypto-key"
  hostAddress := values.address? "host-address"
  deliveryMode := (values.text? "delivery-mode").bind DeliveryMode.ofName?
  config := values.text? "config"
  debug := values.flag "debug"
  checkConfig := values.flag "check-config"

def read (arguments : List String) (environment : String → Option String) :
    Except Refusal AgentArguments :=
  (CommandLine.read parameters arguments environment).map ofValues

def changes (arguments : AgentArguments) : List (AgentConfig → AgentConfig) :=
  [arguments.address.map fun address config => { config with address },
    arguments.pollInterval.map fun pollInterval config => { config with pollInterval },
    arguments.reportInterval.map fun reportInterval config => { config with reportInterval },
    arguments.rateLimit.map fun rateLimit config => { config with rateLimit },
    arguments.key.map fun hashKey config => { config with hashKey },
    arguments.cryptoKey.map fun path config => { config with cryptoKey := some path },
    arguments.hostAddress.map fun address config => { config with hostAddress := some address },
    arguments.deliveryMode.map fun deliveryMode config => { config with deliveryMode },
    if arguments.debug then some fun config => { config with debug := true } else none].filterMap id

def override (arguments : AgentArguments) (config : AgentConfig) : AgentConfig :=
  arguments.changes.foldl (fun config change => change config) config

/-- The configuration of a file, if there is one, with the changes of the arguments. -/
def configure (arguments : AgentArguments) (content : Option String) :
    Except Failure AgentConfig := do
  let config ← match content with
    | some text => AgentConfig.ofText text
    | none => .ok AgentConfig.standard
  let config := arguments.override config
  config.validate
  return config

def load (arguments : AgentArguments) (disk : Disk) (environment : String → Option String) :
    Except Failure AgentConfig := do
  arguments.configure (← readConfigFile disk environment "agent" arguments.config)

end AgentArguments

def agentReport (config : AgentConfig) : String :=
  "Configuration is valid!\n" ++
  "  Server: " ++ config.address ++ "\n" ++
  "  Poll interval: " ++ config.pollInterval.compact ++ "\n" ++
  "  Report interval: " ++ config.reportInterval.compact ++ "\n" ++
  "  Rate limit: " ++ Decimal.natText config.rateLimit ++ "\n" ++
  "  Delivery mode: " ++ config.deliveryMode.title ++ "\n"

end Telemetry.CommandLine
