import Telemetry.Failure
import Telemetry.Text.Blank
import Telemetry.Text.Percent

namespace Telemetry

open Telemetry

/-! Names of databases. A name has the scheme `sqlite`, or none, in front of a path or `:memory:`,
and parameters behind a question mark. -/

structure DataSource where
  /-- The path of the database file; none for a database in memory. -/
  path : Option String
  isReadOnly : Bool
  /-- A file that nobody writes to. -/
  isImmutable : Bool
  /-- The name of the layer through which files are reached, if one is asked for. -/
  layer : Option Bytes
  deriving DecidableEq, Repr

namespace DataSource

def scheme : String := "sqlite"

/-- Refuses the name of a database of another kind. -/
def admitScheme (name : String) : Except Failure Unit :=
  match Text.before? "://".toList name.toList with
  | none => .ok ()
  | some given =>
    if given = scheme.toList then .ok ()
    else .error (.config (.databaseScheme (String.ofList given)))

def malformed : Failure := .config .malformedDsn

def setParameter (source : DataSource) (parameter : Bytes × Bytes) : Except Failure DataSource :=
  match Bytes.toText? parameter.1, Bytes.toText? parameter.2 with
  | some "mode", some "ro" => .ok { source with isReadOnly := true }
  | some "mode", some "rw" => .ok source
  | some "mode", some "rwc" => .ok source
  | some "mode", some "memory" => .ok { source with path := none }
  | some "cache", some "private" => .ok source
  | some "cache", some "shared" => .ok source
  | some "immutable", some "true" => .ok { source with isImmutable := true }
  | some "immutable", some "1" => .ok { source with isImmutable := true }
  | some "immutable", some "false" => .ok { source with isImmutable := false }
  | some "immutable", some "0" => .ok { source with isImmutable := false }
  | some "vfs", _ => .ok { source with layer := some parameter.2 }
  | _, _ => .error malformed

/-- Reads the name of a database. An empty path stands for a database that is gone when it is
closed, as one in memory is. -/
def ofName (name : String) : Except Failure DataSource := do
  admitScheme name
  let bare := Text.trimStartsOf "sqlite:".toList (Text.trimStartsOf "sqlite://".toList name.toList)
  let written := bare.takeWhile (· ≠ '?')
  let path ← if written = ":memory:".toList then pure none
    else match Text.Percent.decodeText? (String.ofList written) with
      | none => .error malformed
      | some path => pure (if path = "" then none else some path)
  let query := String.ofList ((bare.dropWhile (· ≠ '?')).drop 1)
  (Text.Percent.pairs query).foldlM setParameter ⟨path, false, false, none⟩

def layers : List Bytes :=
  ["unix", "unix-none", "unix-dotfile", "unix-excl"].map Bytes.ofText

def hasLayer (source : DataSource) : Bool :=
  match source.layer with
  | none => true
  | some layer => layer ∈ layers

end DataSource

end Telemetry
