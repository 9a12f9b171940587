import Telemetry.CommandLine.Agent
import Telemetry.CommandLine.Server

/-! The command line: `agent` or `server`, then the options of that side. With `--check-config` the
configuration is told and the program ends. -/

namespace Telemetry.CommandLine

open Telemetry

def readEnvironment (parameters : List Parameter) : IO (String → Option String) := do
  let names := parameters.filterMap (·.environmentName) ++ ["XDG_CONFIG_HOME", "HOME"]
  let given ← names.filterMapM fun name => do return (← IO.getEnv name).map (name, ·)
  return fun name => given.lookup name

/-- A disk with the one file that matters, if it can be read. -/
def readDisk (path : Option String) : IO Disk := do
  match path with
  | none => return .empty
  | some path =>
    try return .ofFiles [(path, (← IO.FS.readBinFile path).toList)]
    catch _ => return .empty

/-- Tells about a configuration; without a check there is nothing more that can be done with it. -/
def tell (checkConfig : Bool) (report : Except Failure String) : IO UInt32 := do
  match report with
  | .error failure =>
    IO.eprintln failure.message
    return 1
  | .ok text =>
    if checkConfig then
      IO.print text
      return 0
    else
      IO.eprintln "the configuration is valid; no network is at hand to work on"
      return 1

def refuse (refusal : Refusal) : IO UInt32 := do
  IO.eprintln refusal.message
  return 2

def runAgent (arguments : List String) : IO UInt32 := do
  let environment ← readEnvironment AgentArguments.parameters
  match AgentArguments.read arguments environment with
  | .error refusal => refuse refusal
  | .ok read =>
    let disk ← readDisk (wantedPath environment "agent" read.config)
    tell read.checkConfig ((read.load disk environment).map agentReport)

def runServer (arguments : List String) : IO UInt32 := do
  let environment ← readEnvironment ServerArguments.parameters
  match ServerArguments.read arguments environment with
  | .error refusal => refuse refusal
  | .ok read =>
    let disk ← readDisk (wantedPath environment "server" read.config)
    tell read.checkConfig ((read.load disk environment).map serverReport)

end Telemetry.CommandLine

def main (arguments : List String) : IO UInt32 := do
  match arguments with
  | "agent" :: rest => Telemetry.CommandLine.runAgent rest
  | "server" :: rest => Telemetry.CommandLine.runServer rest
  | _ =>
    IO.eprintln "usage: telemetry (agent | server) [options]"
    return 2
