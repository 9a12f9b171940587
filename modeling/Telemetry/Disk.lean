import Std.Data.ExtTreeMap
import Telemetry.Failure
import Telemetry.Text.Blank

namespace Telemetry

open Telemetry

/-! A tree of files, with the answers of the operating system to what is asked of it. Paths that do
not begin at the root are taken from it. -/

inductive Entry where
  | directory
  | file (content : Bytes)
  deriving DecidableEq, Repr

/-- The entries below the root by their full names, parts led by slashes. -/
structure Disk where
  entries : Std.ExtTreeMap String Entry

namespace Disk

def empty : Disk := ⟨∅⟩

/-- The entry with a full name; the root is a directory. -/
def entry? (disk : Disk) (name : String) : Option Entry :=
  if name = "" then some .directory else disk.entries[name]?

def set (disk : Disk) (name : String) (entry : Entry) : Disk :=
  ⟨disk.entries.insert name entry⟩

def erase (disk : Disk) (name : String) : Disk := ⟨disk.entries.erase name⟩

def parts (path : String) : List String := (Text.pieces '/' path).filter fun part =>
  part ≠ "" && part ≠ "."

def nameLimit : Nat := 255

/-- Walks from a directory down to the last part but one; the answer is the full name of the last,
of which nothing is known yet. -/
def walk (disk : Disk) : List String → List String → Except SystemError (List String)
  | done, [] => .ok done
  | done, part :: parts =>
    if part = ".." then disk.walk done.tail parts
    else if nameLimit < part.utf8ByteSize then .error .nameTooLong
    else
      let done := part :: done
      if parts.isEmpty then .ok done
      else match disk.entry? (done.foldl (fun name part => "/" ++ part ++ name) "") with
        | none => .error .noSuchFile
        | some (.file _) => .error .notDirectory
        | some .directory => disk.walk done parts

/-- The full name that a path stands for. All directories on the way must be there. -/
def locate (disk : Disk) (path : String) : Except SystemError String := do
  if path = "" then .error .noSuchFile
  else if path.toList.any (· = '\x00') then .error .zeroByte
  else
    let done ← disk.walk [] (parts path)
    return done.foldl (fun name part => "/" ++ part ++ name) ""

def read (disk : Disk) (path : String) : Except SystemError Bytes := do
  match disk.entry? (← disk.locate path) with
  | none => .error .noSuchFile
  | some .directory => .error .isDirectory
  | some (.file content) => .ok content

def readText (disk : Disk) (path : String) : Except SystemError String := do
  match Bytes.toText? (← disk.read path) with
  | some text => .ok text
  | none => .error .invalidUtf8

def exists? (disk : Disk) (path : String) : Bool :=
  match disk.locate path with
  | .ok name => (disk.entry? name).isSome
  | .error _ => false

def write (disk : Disk) (path : String) (content : Bytes) : Except SystemError Disk := do
  let name ← disk.locate path
  match disk.entry? name with
  | some .directory => .error .isDirectory
  | _ => .ok (disk.set name (.file content))

/-- Moves a file over another place in one step. -/
def rename (disk : Disk) (source target : String) : Except SystemError Disk := do
  let source ← disk.locate source
  let target ← disk.locate target
  match disk.entry? source, disk.entry? target with
  | none, _ => .error .noSuchFile
  | some (.file _), some .directory => .error .isDirectory
  | some .directory, some (.file _) => .error .notDirectory
  | some entry, _ => .ok ((disk.erase source).set target entry)

def removeFile (disk : Disk) (path : String) : Except SystemError Disk := do
  let name ← disk.locate path
  match disk.entry? name with
  | none => .error .noSuchFile
  | some .directory => .error .isDirectory
  | some (.file _) => .ok (disk.erase name)

/-- Makes a directory and those above it that are missing. -/
def makeDirectories (disk : Disk) (path : String) : Disk :=
  ((parts path).foldl (fun (disk, name) part =>
    let name := name ++ "/" ++ part
    (if (disk.entry? name).isSome then disk else disk.set name .directory, name)) (disk, "")).1

/-- Takes away a directory with all that is in it. -/
def removeTree (disk : Disk) (path : String) : Disk :=
  match disk.locate path with
  | .ok name => ⟨disk.entries.filter fun each _ => each ≠ name && !each.startsWith (name ++ "/")⟩
  | .error _ => disk

def ofFiles (files : List (String × Bytes)) : Disk :=
  files.foldl (fun disk (path, content) =>
    let directory := "/".intercalate (Text.pieces '/' path).dropLast
    let disk := disk.makeDirectories directory
    (disk.write path content).toOption.getD disk) empty

end Disk

end Telemetry
