import Telemetry.Disk

namespace Telemetry.CommandLine

open Telemetry

/-! Finding the configuration file. -/

def configDirectory (environment : String → Option String) : Option String :=
  match (environment "XDG_CONFIG_HOME").filter (·.startsWith "/") with
  | some directory => some directory
  | none => ((environment "HOME").filter (· ≠ "")).map (· ++ "/.config")

def defaultPath (environment : String → Option String) (name : String) : Option String :=
  (configDirectory environment).map (· ++ "/runmetrics/" ++ name ++ ".yaml")

def wantedPath (environment : String → Option String) (name : String) (asked : Option String) :
    Option String :=
  asked.or (defaultPath environment name)

/-- The text of the file that is asked for, else of the default file. Only a file that is asked for
must be readable. -/
def readConfigFile (disk : Disk) (environment : String → Option String) (name : String)
    (asked : Option String) : Except Failure (Option String) :=
  match asked with
  | some path =>
    match disk.readText path with
    | .ok text => .ok (some text)
    | .error cause => .error (.config (.unreadableFile path cause))
  | none =>
    .ok ((defaultPath environment name).bind fun path => (disk.readText path).toOption)

end Telemetry.CommandLine
