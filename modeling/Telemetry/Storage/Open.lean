import Telemetry.Config.Basic
import Telemetry.Storage.DataSource
import Telemetry.Storage.FileStore
import Telemetry.Storage.KeyValue
import Telemetry.Storage.Table

namespace Telemetry

open Telemetry

/-! The storage that a configuration asks for, opened on a machine. -/

/-- What lasts when the storage is closed: files, and the tables in those that are databases. -/
structure Machine where
  disk : Disk
  tables : Std.ExtTreeMap String Table

namespace Machine

def empty : Machine := ⟨.empty, ∅⟩

/-- Opens the table of a database file, which is made if it is missing and may be. -/
def openTable (machine : Machine) (source : DataSource) (path : String) :
    Except DatabaseFault Table × Machine :=
  match machine.disk.locate path with
  | .error _ => (.error .cannotOpen, machine)
  | .ok name =>
    let fresh (machine : Machine) : Except DatabaseFault Table × Machine :=
      if source.isReadOnly || source.isImmutable then (.error .readOnly, machine)
      else (.ok .empty, machine)
    match machine.disk.entry? name with
    | some .directory => (.error .cannotOpen, machine)
    | some (.file content) =>
      match machine.tables[name]? with
      | some table => (.ok { table with isReadOnly := source.isReadOnly }, machine)
      | none => if content.isEmpty then fresh machine else (.error .notDatabase, machine)
    | none =>
      if source.isReadOnly then (.error .cannotOpen, machine)
      else fresh { machine with disk := machine.disk.set name (.file []) }

end Machine

inductive Storage where
  | file (store : FileStore)
  /-- A database, with the path of its file if it has one. -/
  | database (path : Option String) (table : Table)
  | keyValue (store : RecordStore)

namespace Storage

def openDatabase (name : String) (machine : Machine) : Except Failure Storage × Machine :=
  match DataSource.ofName name with
  | .error failure => (.error failure, machine)
  | .ok source =>
    if !source.hasLayer then (.error (.database .cannotOpen), machine)
    else match source.path with
      | none =>
        if source.isReadOnly then (.error (.database .readOnly), machine)
        else (.ok (.database none .empty), machine)
      | some path =>
        match machine.openTable source path with
        | (.error fault, machine) => (.error (.database fault), machine)
        | (.ok table, machine) => (.ok (.database (some path) table), machine)

def openFile (config : StorageConfig) (disk : Disk) : FileStore :=
  let store := FileStore.empty (some config.storeFile) config.storeInterval
  if config.restore then (store.restore disk).2 else store

def ofConfig (config : StorageConfig) (machine : Machine) : Except Failure Storage × Machine :=
  match config.effective with
  | .file => (.ok (.file (openFile config machine.disk)), machine)
  | .database =>
    match config.databaseDsn with
    | none => (.error (.config .missingDsn), machine)
    | some name => openDatabase name machine
  | .keyValue =>
    match config.keyValuePath with
    | some path => (.error (.config (.keyValuePath path)), machine)
    | none => (.ok (.keyValue .empty), machine)

/-- Closes the storage; a database file keeps its table. -/
def close (storage : Storage) (machine : Machine) : Machine :=
  match storage with
  | .database (some path) table =>
    match machine.disk.locate path with
    | .ok name => { machine with tables := machine.tables.insert name table }
    | .error _ => machine
  | _ => machine

/-- Only a store with a file is written to it from time to time. -/
def needsSnapshots : Storage → Bool
  | .file _ => true
  | _ => false

def save (metric : Metric) (key : String) : Storage × Disk →
    Except Failure Unit × Storage × Disk
  | (.file store, disk) =>
    let (result, store, disk) := FileStore.save metric key (store, disk)
    (result, .file store, disk)
  | (.database path table, disk) =>
    let (result, table) := table.save metric key
    (result, .database path table, disk)
  | (.keyValue store, disk) =>
    let (result, store) := KeyValue.save metric key store
    (result, .keyValue store, disk)

def backend : Backend (Storage × Disk) where
  name
    | (.file store, disk) => FileStore.backend.name (store, disk)
    | (.database _ table, _) => Table.backend.name table
    | (.keyValue store, _) => KeyValue.backend.name store
  save := save
  find query key
    | (.file store, _) => store.find query key
    | (.database _ table, _) => table.find query key
    | (.keyValue store, _) => KeyValue.find store query key
  all
    | (.file store, disk) => FileStore.backend.all (store, disk)
    | (.database _ table, _) => table.all
    | (.keyValue store, _) => KeyValue.backend.all store
  check
    | (.file store, disk) => FileStore.backend.check (store, disk)
    | (.database _ table, _) => Table.backend.check table
    | (.keyValue store, _) => store.ping

def snapshot (storage : Storage) (disk : Disk) : Except Failure Nat × Disk :=
  match storage with
  | .file store => store.snapshot disk
  | _ => (.ok 0, disk)

def restore (storage : Storage) (disk : Disk) : Except Failure Nat × Storage :=
  match storage with
  | .file store =>
    let (result, store) := store.restore disk
    (result, .file store)
  | _ => (.ok 0, storage)

def storeFile : Storage → Option String
  | .file store => store.storeFile
  | _ => none

end Storage

end Telemetry
