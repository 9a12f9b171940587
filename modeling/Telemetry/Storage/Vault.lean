import Telemetry.Storage.Open

namespace Telemetry

open Telemetry

/-! Storage in use: opened on a machine, with a clock and the task that writes a snapshot each time
an interval has passed and a last one when it is told to stop. -/

structure Vault where
  machine : Machine
  storage : Storage
  clock : Nat
  /-- When the snapshot task began, if there is one. -/
  task : Option Nat

namespace Vault

/-- Opens storage; the answer is what of it could be opened and the machine as it is then. -/
def opened (result : Except Failure Storage × Machine) : Except Failure Vault × Machine :=
  match result with
  | (.ok storage, machine) => (.ok ⟨machine, storage, 0, none⟩, machine)
  | (.error failure, machine) => (.error failure, machine)

def startTask (vault : Vault) : Vault := { vault with task := some vault.clock }

def state (vault : Vault) : Storage × Disk := (vault.storage, vault.machine.disk)

def withState (vault : Vault) (state : Storage × Disk) : Vault :=
  { vault with storage := state.1, machine := { vault.machine with disk := state.2 } }

def setDisk (vault : Vault) (disk : Disk) : Vault :=
  { vault with machine := { vault.machine with disk := disk } }

def snapshot (vault : Vault) : Except Failure Nat × Vault :=
  let (result, disk) := vault.storage.snapshot vault.machine.disk
  (result, vault.setDisk disk)

def restore (vault : Vault) : Except Failure Nat × Vault :=
  let (result, storage) := vault.storage.restore vault.machine.disk
  (result, { vault with storage := storage })

/-- The number of times that an interval has passed since the task began. -/
def ticks (store : FileStore) (elapsed : Nat) : Nat :=
  (Duration.ofMilliseconds elapsed).nanoseconds / store.interval.nanoseconds

/-- Lets time pass. Snapshots that come due one after the other, with nothing between them, write
the same as one; an interval of nothing never comes due. -/
def sleep (vault : Vault) (milliseconds : Nat) : Vault :=
  let later := { vault with clock := vault.clock + milliseconds }
  match vault.task, vault.storage with
  | some start, .file store =>
    if ticks store (vault.clock - start) < ticks store (later.clock - start) then later.snapshot.2
    else later
  | _, _ => later

/-- Stops the snapshot task, which writes a last snapshot. The answer tells whether there was a
task. -/
def stop (vault : Vault) : Bool × Vault :=
  match vault.task with
  | some _ => (true, { vault.snapshot.2 with task := none })
  | none => (false, vault)

def close (vault : Vault) : Machine := vault.storage.close vault.machine

end Vault

end Telemetry
