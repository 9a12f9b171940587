import Mathlib.Data.List.Perm.Basic
import Telemetry.Proofs.Disk
import Telemetry.Proofs.Shutdown
import Telemetry.Proofs.Storage.Dump

namespace Telemetry.Server

open Telemetry

/-! A server that keeps its metrics in a file, up to its end. Updates, the snapshot task and the
signal to stop come in any order. The task writes its last snapshot on the signal, whatever updates
are still open then, so the file may lack what these take in later. -/

structure Update where
  pending : List Metric
  saved : List Metric

/-- What the snapshot task is about. -/
inductive SnapshotStage where
  | waiting
  | dumping (isFinal : Bool) (owed : Finset Series) (listed : List Metric)
  /-- The dump is written beside the file. -/
  | drafted (isFinal : Bool) (listed : List Metric)
  | ended

namespace SnapshotStage

def after (isFinal : Bool) : SnapshotStage := if isFinal then .ended else .waiting

def isFinal : SnapshotStage → Bool
  | .waiting => false
  | .dumping isFinal _ _ => isFinal
  | .drafted isFinal _ => isFinal
  | .ended => true

theorem isFinal_after (isFinal : Bool) : (after isFinal).isFinal = isFinal := by
  cases isFinal <;> rfl

end SnapshotStage

structure Operation where
  store : FileStore
  disk : Disk
  isSignalled : Bool
  isAccepting : Bool
  updates : List Update
  snapshot : SnapshotStage
  hasFailed : Bool
  /-- All metrics that were taken in, in their order. -/
  applied : List Metric
  /-- Those of updates that were answered with success. -/
  acknowledged : List Metric
  /-- Those of updates that were refused later on or that nobody waited for. -/
  stray : List Metric
  /-- Those that had been taken in when the last dump began. -/
  known : List Metric
  /-- Those that had been taken in when the signal came. -/
  heard : List Metric

namespace Operation

def start (store : FileStore) (disk : Disk) : Operation :=
  ⟨store, disk, false, true, [], .waiting, false, [], [], [], [], []⟩

/-- The server is over: no update is open, and it has waited for the snapshot task. -/
structure IsOver (operation : Operation) : Prop where
  closed : operation.isAccepting = false
  finished : operation.updates = []
  written : operation.snapshot = .ended

def save (operation : Operation) (key : String) (metric : Metric) :
    Except Failure Unit × FileStore × Disk :=
  FileStore.save metric key (operation.store, operation.disk)

/-- What can happen next. -/
inductive Step (key path : String) (operation : Operation) : Operation → Prop where
  | signal (quiet : operation.isSignalled = false) :
      Step key path operation { operation with isSignalled := true, heard := operation.applied }
  | notice (signalled : operation.isSignalled = true) :
      Step key path operation { operation with isAccepting := false }
  | arrive (accepting : operation.isAccepting = true) (metrics : List Metric) :
      Step key path operation { operation with updates := ⟨metrics, []⟩ :: operation.updates }
  | save (before after : List Update) (metric : Metric) (pending saved : List Metric)
      (isOpen : operation.updates = before ++ ⟨metric :: pending, saved⟩ :: after)
      (taken : (operation.save key metric).1 = .ok ()) :
      Step key path operation
        { operation with
          store := (operation.save key metric).2.1
          disk := (operation.save key metric).2.2
          updates := before ++ ⟨pending, saved ++ [metric]⟩ :: after
          applied := operation.applied ++ [metric] }
  | refuse (before after : List Update) (metric : Metric) (pending saved : List Metric)
      (isOpen : operation.updates = before ++ ⟨metric :: pending, saved⟩ :: after)
      (failure : Failure) (refused : (operation.save key metric).1 = .error failure) :
      Step key path operation
        { operation with
          store := (operation.save key metric).2.1
          disk := (operation.save key metric).2.2
          updates := before ++ after
          stray := operation.stray ++ saved }
  | answer (before after : List Update) (saved : List Metric)
      (isOpen : operation.updates = before ++ ⟨[], saved⟩ :: after) :
      Step key path operation
        { operation with
          updates := before ++ after
          acknowledged := operation.acknowledged ++ saved }
  | leave (before after : List Update) (update : Update)
      (isOpen : operation.updates = before ++ update :: after) :
      Step key path operation
        { operation with
          updates := before ++ after
          stray := operation.stray ++ update.saved }
  | tick (waiting : operation.snapshot = .waiting) :
      Step key path operation
        { operation with
          snapshot := .dumping false operation.store.series []
          known := operation.applied }
  | finish (waiting : operation.snapshot = .waiting) (signalled : operation.isSignalled = true) :
      Step key path operation
        { operation with
          snapshot := .dumping true operation.store.series []
          known := operation.applied }
  | visit (isFinal : Bool) (owed : Finset Series) (listed : List Metric)
      (dumping : operation.snapshot = .dumping isFinal owed listed) (series : Series)
      (metric : Metric) (found : operation.store.lookup series.kind series.id = some metric)
      (unlisted : listed.filter series.names = []) :
      Step key path operation
        { operation with
          snapshot := .dumping isFinal (owed.erase series) (listed ++ [metric]) }
  | draft (isFinal : Bool) (listed : List Metric)
      (dumping : operation.snapshot = .dumping isFinal ∅ listed) (disk : Disk)
      (written : operation.disk.write (FileStore.draftPath path)
        (FileStore.snapshotText listed) = .ok disk) :
      Step key path operation
        { operation with
          disk := disk
          snapshot := .drafted isFinal listed }
  | replace (isFinal : Bool) (listed : List Metric)
      (drafted : operation.snapshot = .drafted isFinal listed) (disk : Disk)
      (renamed : operation.disk.rename (FileStore.draftPath path) path = .ok disk) :
      Step key path operation
        { operation with
          disk := disk
          snapshot := .after isFinal }
  | fail (isFinal : Bool) (listed : List Metric)
      (underway : operation.snapshot = .dumping isFinal ∅ listed ∨
        operation.snapshot = .drafted isFinal listed) (disk : Disk) :
      Step key path operation
        { operation with
          disk := disk
          snapshot := .after isFinal
          hasFailed := true }

inductive Reachable (key path : String) (start : Operation) : Operation → Prop where
  | start : Reachable key path start start
  | step {operation next : Operation} (reachable : Reachable key path start operation)
      (step : Step key path operation next) : Reachable key path start next

/-- The signal of a server: it listens first, and then its snapshot task. -/
def signal (operation : Operation) : Shutdown := .shared operation.isSignalled 1

theorem hears?_signal (operation : Operation) {listener : Nat} (present : listener ≤ 1) :
    operation.signal.hears? listener = some operation.isSignalled :=
  Shutdown.hears?_shared present

theorem Step.signal_eq {key path : String} {operation next : Operation}
    (step : Step key path operation next) :
    next.signal = operation.signal ∨ next.signal = operation.signal.fire.2 := by
  cases step with
  | signal quiet => exact .inr (congrArg Prod.snd (Shutdown.fire_shared _ 1)).symm
  | _ => exact .inl rfl

/-- The server accepts nothing more, or its task is at the last snapshot. -/
def IsStopping (operation : Operation) : Prop :=
  operation.isAccepting = false ∨ operation.snapshot.isFinal = true

theorem Step.isSignalled_of_isStopping {key path : String} {operation next : Operation}
    (step : Step key path operation next)
    (signalled : operation.IsStopping → operation.isSignalled = true)
    (stopping : next.IsStopping) : next.isSignalled = true := by
  cases step with
  | signal quiet => rfl
  | notice isSignalled => exact isSignalled
  | finish waiting isSignalled => exact isSignalled
  | tick waiting => exact signalled (stopping.imp_right (nomatch ·))
  | visit isFinal owed listed dumping series metric found unlisted =>
      exact signalled (stopping.imp_right fun final => by rw [dumping]; exact final)
  | draft isFinal listed dumping disk written =>
      exact signalled (stopping.imp_right fun final => by rw [dumping]; exact final)
  | replace isFinal listed drafted disk renamed =>
      refine signalled (stopping.imp_right fun final => ?_)
      rw [drafted]
      exact (SnapshotStage.isFinal_after isFinal).symm.trans final
  | fail isFinal listed underway disk =>
      refine signalled (stopping.imp_right fun final => ?_)
      have isFinal := (SnapshotStage.isFinal_after isFinal).symm.trans final
      rcases underway with dumping | drafted
      · rw [dumping]
        exact isFinal
      · rw [drafted]
        exact isFinal
  | _ => exact signalled stopping

section Signal

variable {key path : String} {operation : Operation} {store : FileStore} {disk : Disk}
  (reachable : Reachable key path (.start store disk) operation)

include reachable

theorem Reachable.reachable_signal : Shutdown.Reachable .start operation.signal := by
  induction reachable with
  | start => exact Shutdown.reachable_shared 1
  | step reachable step induction =>
      rcases step.signal_eq with same | fires
      · exact same ▸ induction
      · exact fires ▸ induction.step .fire

theorem Reachable.isSignalled (stopping : operation.IsStopping) :
    operation.isSignalled = true := by
  induction reachable with
  | start => rcases stopping with closed | final <;> contradiction
  | step reachable step induction => exact step.isSignalled_of_isStopping induction stopping

/-- Whatever stops has heard the signal. -/
theorem Reachable.hears_of_isStopping (stopping : operation.IsStopping) {listener : Nat}
    (present : listener ≤ 1) : operation.signal.hears? listener = some true := by
  rw [operation.hears?_signal present, reachable.isSignalled stopping]

end Signal

/-- What had been taken in when the signal came was known to the dump after it. -/
structure IsAware (operation : Operation) : Prop where
  signalled : operation.isSignalled = true
  known : operation.heard <+: operation.known

/-- What the snapshot task has done so far. -/
inductive Written (start : Ledger) (key path : String) (operation : Operation) : Prop where
  | waiting (isWaiting : operation.snapshot = .waiting)
  | dumping (isFinal : Bool) (owed : Finset Series) (listed : List Metric)
      (isDumping : operation.snapshot = .dumping isFinal owed listed)
      (aware : isFinal = true → operation.IsAware)
      (dumped : Dumped start key operation.known operation.applied owed listed)
  | drafted (isFinal : Bool) (listed : List Metric)
      (isDrafted : operation.snapshot = .drafted isFinal listed)
      (aware : isFinal = true → operation.IsAware)
      (dumped : Dumped start key operation.known operation.applied ∅ listed)
      (draft : operation.disk.read (FileStore.draftPath path) =
        .ok (FileStore.snapshotText listed))
  | ended (isOver : operation.snapshot = .ended) (aware : operation.IsAware)
      (content : operation.hasFailed = false → ∃ listed,
        operation.disk.read path = .ok (FileStore.snapshotText listed) ∧
          Dumped start key operation.known operation.applied ∅ listed)

/-- Something else has happened than a step of the snapshot task. -/
theorem Written.frame {start : Ledger} {key path : String} {operation next : Operation}
    (written : Written start key path operation) (snapshot : next.snapshot = operation.snapshot)
    (disk : next.disk = operation.disk) (hasFailed : next.hasFailed = operation.hasFailed)
    (known : next.known = operation.known) (applied : operation.applied <+: next.applied)
    (aware : operation.IsAware → next.IsAware) : Written start key path next := by
  have grow : ∀ {owed listed}, Dumped start key operation.known operation.applied owed listed →
      Dumped start key next.known next.applied owed listed := by
    intro owed listed dumped
    rw [known]
    exact dumped.grow applied
  cases written with
  | waiting isWaiting => exact .waiting (snapshot.trans isWaiting)
  | dumping isFinal owed listed isDumping isAware dumped =>
      exact .dumping isFinal owed listed (snapshot.trans isDumping)
        (fun final => aware (isAware final)) (grow dumped)
  | drafted isFinal listed isDrafted isAware dumped draft =>
      exact .drafted isFinal listed (snapshot.trans isDrafted)
        (fun final => aware (isAware final)) (grow dumped) (disk ▸ draft)
  | ended isOver isAware content =>
      refine .ended (snapshot.trans isOver) (aware isAware) fun unfailed => ?_
      obtain ⟨listed, holds, dumped⟩ := content (hasFailed ▸ unfailed)
      exact ⟨listed, disk ▸ holds, grow dumped⟩

theorem Written.of_dumping {start : Ledger} {key path : String} {operation : Operation}
    (written : Written start key path operation) {isFinal : Bool} {owed : Finset Series}
    {listed : List Metric} (dumping : operation.snapshot = .dumping isFinal owed listed) :
    (isFinal = true → operation.IsAware) ∧
      Dumped start key operation.known operation.applied owed listed := by
  cases written with
  | waiting isWaiting => cases dumping.symm.trans isWaiting
  | dumping wasFinal wasOwed wasListed isDumping aware dumped =>
      obtain ⟨rfl, rfl, rfl⟩ := SnapshotStage.dumping.inj (dumping.symm.trans isDumping)
      exact ⟨aware, dumped⟩
  | drafted wasFinal wasListed isDrafted aware dumped draft =>
      cases dumping.symm.trans isDrafted
  | ended isOver aware content => cases dumping.symm.trans isOver

theorem Written.of_drafted {start : Ledger} {key path : String} {operation : Operation}
    (written : Written start key path operation) {isFinal : Bool} {listed : List Metric}
    (drafted : operation.snapshot = .drafted isFinal listed) :
    (isFinal = true → operation.IsAware) ∧
      Dumped start key operation.known operation.applied ∅ listed ∧
      operation.disk.read (FileStore.draftPath path) = .ok (FileStore.snapshotText listed) := by
  cases written with
  | waiting isWaiting => cases drafted.symm.trans isWaiting
  | dumping wasFinal wasOwed wasListed isDumping aware dumped =>
      cases drafted.symm.trans isDumping
  | drafted wasFinal wasListed isDrafted aware dumped draft =>
      obtain ⟨rfl, rfl⟩ := SnapshotStage.drafted.inj (drafted.symm.trans isDrafted)
      exact ⟨aware, dumped, draft⟩
  | ended isOver aware content => cases drafted.symm.trans isOver

/-- Everything that was taken in belongs to an update that was answered, one that was not, or one
that is still open; the store is what it makes of the store at the start. -/
structure Accounts (start : Ledger) (key path : String) (operation : Operation) : Prop where
  quiet : operation.store.snapshotsOnWrite = false
  taken : ∃ ledger, start.saveMany key operation.applied = (.ok (), ledger) ∧
    operation.store.Represents ledger
  shared : operation.applied.Perm
    (operation.acknowledged ++ operation.stray ++ operation.updates.flatMap Update.saved)
  known : operation.known <+: operation.applied
  heard : operation.heard <+: operation.applied
  written : Written start key path operation

namespace Accounts

variable {start : Ledger} {key path : String} {operation next : Operation}

theorem start_eq {store : FileStore} (represents : store.Represents start)
    (quiet : store.snapshotsOnWrite = false) (disk : Disk) :
    Accounts start key path (.start store disk) where
  quiet := quiet
  taken := ⟨start, rfl, represents⟩
  shared := .nil
  known := List.prefix_rfl
  heard := List.prefix_rfl
  written := .waiting rfl

theorem save_eq (accounts : Accounts start key path operation) (metric : Metric) :
    (operation.save key metric).2.1.snapshotsOnWrite = false ∧
      (operation.save key metric).2.2 = operation.disk ∧
      ∃ ledger, start.saveMany key operation.applied = (.ok (), ledger) ∧
        (operation.save key metric).1 = (ledger.save metric key).1 ∧
        (operation.save key metric).2.1.Represents (ledger.save metric key).2 := by
  obtain ⟨ledger, taken, represents⟩ := accounts.taken
  have keeps : FileStore.Keeps (operation.store, operation.disk) ledger :=
    ⟨represents, accounts.quiet⟩
  obtain ⟨sameResult, stillRepresents, stillQuiet⟩ := FileStore.simulation.save metric key keeps
  refine ⟨stillQuiet, ?_, ledger, taken, sameResult, stillRepresents⟩
  rw [Operation.save, FileStore.save_of_quiet accounts.quiet]

theorem save (accounts : Accounts start key path operation) {before after : List Update}
    {metric : Metric} {pending saved : List Metric}
    (isOpen : operation.updates = before ++ ⟨metric :: pending, saved⟩ :: after)
    (taken : (operation.save key metric).1 = .ok ()) :
    Accounts start key path
      { operation with
        store := (operation.save key metric).2.1
        disk := (operation.save key metric).2.2
        updates := before ++ ⟨pending, saved ++ [metric]⟩ :: after
        applied := operation.applied ++ [metric] } := by
  obtain ⟨stillQuiet, sameDisk, ledger, takenBefore, sameResult, represents⟩ :=
    accounts.save_eq metric
  have grown : operation.applied <+: operation.applied ++ [metric] := List.prefix_append _ _
  refine ⟨stillQuiet, ⟨_, ?_, represents⟩, ?_, accounts.known.trans grown,
    accounts.heard.trans grown, ?_⟩
  · rw [Ledger.saveMany_concat takenBefore]
    exact Prod.ext (sameResult.symm.trans taken) rfl
  · -- The metric joins both what was taken in and what its update has saved.
    refine List.perm_iff_count.mpr fun other => ?_
    have before := List.perm_iff_count.mp accounts.shared other
    simp only [isOpen, List.count_append, List.flatMap_append, List.flatMap_cons] at before ⊢
    omega
  · exact accounts.written.frame rfl sameDisk rfl rfl grown fun aware => ⟨aware.1, aware.2⟩

theorem refuse (accounts : Accounts start key path operation) {before after : List Update}
    {metric : Metric} {pending saved : List Metric}
    (isOpen : operation.updates = before ++ ⟨metric :: pending, saved⟩ :: after)
    {failure : Failure} (refused : (operation.save key metric).1 = .error failure) :
    Accounts start key path
      { operation with
        store := (operation.save key metric).2.1
        disk := (operation.save key metric).2.2
        updates := before ++ after
        stray := operation.stray ++ saved } := by
  obtain ⟨stillQuiet, sameDisk, ledger, taken, sameResult, represents⟩ := accounts.save_eq metric
  rw [Ledger.save_refused (sameResult.symm.trans refused)] at represents
  refine ⟨stillQuiet, ⟨ledger, taken, represents⟩, ?_, accounts.known, accounts.heard, ?_⟩
  · refine List.perm_iff_count.mpr fun other => ?_
    have before := List.perm_iff_count.mp accounts.shared other
    simp only [isOpen, List.count_append, List.flatMap_append, List.flatMap_cons] at before ⊢
    omega
  · exact accounts.written.frame rfl sameDisk rfl rfl List.prefix_rfl
      fun aware => ⟨aware.1, aware.2⟩

theorem close (accounts : Accounts start key path operation) {before after : List Update}
    {update : Update} (isOpen : operation.updates = before ++ update :: after)
    {acknowledged stray : List Metric}
    (shared : (acknowledged ++ stray).Perm
      (operation.acknowledged ++ operation.stray ++ update.saved)) :
    Accounts start key path
      { operation with
        updates := before ++ after
        acknowledged := acknowledged
        stray := stray } := by
  refine ⟨accounts.quiet, accounts.taken, ?_, accounts.known, accounts.heard, ?_⟩
  · refine List.perm_iff_count.mpr fun other => ?_
    have before := List.perm_iff_count.mp accounts.shared other
    have moved := List.perm_iff_count.mp shared other
    simp only [isOpen, List.count_append, List.flatMap_append, List.flatMap_cons]
      at before moved ⊢
    omega
  · exact accounts.written.frame rfl rfl rfl rfl List.prefix_rfl fun aware => ⟨aware.1, aware.2⟩

theorem proceed (accounts : Accounts start key path operation) {snapshot : SnapshotStage}
    {disk : Disk} {hasFailed : Bool} {known : List Metric}
    (isKnown : known <+: operation.applied)
    (written : Written start key path
      { operation with
        snapshot := snapshot, disk := disk, hasFailed := hasFailed, known := known }) :
    Accounts start key path
      { operation with
        snapshot := snapshot, disk := disk, hasFailed := hasFailed, known := known } :=
  ⟨accounts.quiet, accounts.taken, accounts.shared, isKnown, accounts.heard, written⟩

theorem dump (accounts : Accounts start key path operation) (isFinal : Bool)
    (signalled : isFinal = true → operation.isSignalled = true) :
    Accounts start key path
      { operation with
        snapshot := .dumping isFinal operation.store.series []
        known := operation.applied } := by
  obtain ⟨ledger, taken, represents⟩ := accounts.taken
  exact accounts.proceed List.prefix_rfl
    (.dumping isFinal _ [] rfl (fun final => ⟨signalled final, accounts.heard⟩)
      (Dumped.begin taken represents))

theorem step (accounts : Accounts start key path operation)
    (step : Step key path operation next) : Accounts start key path next := by
  cases step with
  | signal quiet =>
      -- A last dump cannot be under way yet, so there is none that would have to know of more.
      refine ⟨accounts.quiet, accounts.taken, accounts.shared, accounts.known,
        List.prefix_rfl, ?_⟩
      refine accounts.written.frame rfl rfl rfl rfl List.prefix_rfl fun aware => ?_
      have signalled := aware.signalled
      rw [quiet] at signalled
      cases signalled
  | notice signalled =>
      obtain ⟨quiet, taken, shared, known, heard, written⟩ := accounts
      exact ⟨quiet, taken, shared, known, heard,
        written.frame rfl rfl rfl rfl List.prefix_rfl fun aware => ⟨aware.1, aware.2⟩⟩
  | arrive accepting metrics =>
      obtain ⟨quiet, taken, shared, known, heard, written⟩ := accounts
      refine ⟨quiet, taken, ?_, known, heard,
        written.frame rfl rfl rfl rfl List.prefix_rfl fun aware => ⟨aware.1, aware.2⟩⟩
      rw [List.flatMap_cons, List.nil_append]
      exact shared
  | save before after metric pending saved isOpen taken => exact accounts.save isOpen taken
  | refuse before after metric pending saved isOpen failure refused =>
      exact accounts.refuse isOpen refused
  | answer before after saved isOpen =>
      refine accounts.close isOpen (List.perm_iff_count.mpr fun other => ?_)
      simp only [List.count_append]
      omega
  | leave before after update isOpen =>
      refine accounts.close isOpen ?_
      rw [List.append_assoc]
  | tick waiting => exact accounts.dump false (by simp)
  | finish waiting signalled => exact accounts.dump true fun _ => signalled
  | visit isFinal owed listed dumping series metric found unlisted =>
      obtain ⟨ledger, taken, represents⟩ := accounts.taken
      obtain ⟨aware, dumped⟩ := accounts.written.of_dumping dumping
      exact accounts.proceed accounts.known (.dumping isFinal _ _ rfl
        (fun final => ⟨(aware final).1, (aware final).2⟩)
        (dumped.visit taken accounts.known represents found unlisted))
  | draft isFinal listed dumping disk written =>
      obtain ⟨aware, dumped⟩ := accounts.written.of_dumping dumping
      exact accounts.proceed accounts.known (.drafted isFinal listed rfl
        (fun final => ⟨(aware final).1, (aware final).2⟩) dumped (Disk.read_write written))
  | replace isFinal listed drafted disk renamed =>
      obtain ⟨aware, dumped, draft⟩ := accounts.written.of_drafted drafted
      refine accounts.proceed accounts.known ?_
      cases isFinal with
      | false => exact .waiting rfl
      | true =>
          exact .ended rfl ⟨(aware rfl).1, (aware rfl).2⟩ fun _ =>
            ⟨listed, Disk.read_rename draft renamed, dumped⟩
  | fail isFinal listed underway disk =>
      have aware : isFinal = true → operation.IsAware := by
        rcases underway with dumping | drafted
        · exact (accounts.written.of_dumping dumping).1
        · exact (accounts.written.of_drafted drafted).1
      refine accounts.proceed accounts.known ?_
      cases isFinal with
      | false => exact .waiting rfl
      | true => exact .ended rfl ⟨(aware rfl).1, (aware rfl).2⟩ fun unfailed => nomatch unfailed

end Accounts

theorem Reachable.accounts {start : Ledger} {key path : String} {operation first : Operation}
    (accounts : Accounts start key path first) (reachable : Reachable key path first operation) :
    Accounts start key path operation := by
  induction reachable with
  | start => exact accounts
  | step reachable step induction => exact induction.step step

def lateConfig : StorageConfig :=
  { StorageConfig.standard with storeFile := "metrics", restore := false }

def lateStart : Operation := .start (Storage.openFile lateConfig .empty) .empty

/-- An update is open when the signal comes. It is taken in when the last snapshot has been written,
and answered with success. -/
theorem reachable_late :
    ∃ operation, Reachable "" lateConfig.storeFile lateStart operation ∧ operation.IsOver ∧
      operation.hasFailed = false ∧ operation.disk.read lateConfig.storeFile = .ok [] ∧
      operation.acknowledged = [.counter "c" 5] := by
  have begins : Reachable "" lateConfig.storeFile lateStart lateStart := .start
  have arrived := begins.step (.arrive rfl [.counter "c" 5])
  have signalled := arrived.step (.signal rfl)
  have dumped := signalled.step (.finish rfl rfl)
  have drafted := dumped.step (.draft true [] rfl _ rfl)
  have written := drafted.step (.replace true [] rfl _ rfl)
  have saved := written.step (.save [] [] _ _ _ rfl rfl)
  have answered := saved.step (.answer [] [] _ rfl)
  have noticed := answered.step (.notice rfl)
  exact ⟨_, noticed, ⟨rfl, rfl, rfl⟩, rfl, rfl, rfl⟩

/-- If the file system never failed, the file of a server that is over lists each series once, as it
was at some time since the last dump began, which was after the signal: it lacks what was taken in
for it after that, and holds all that was taken in for it before, be it of updates that were
answered with success or of others. -/
theorem Reachable.snapshot_of_isOver (config : StorageConfig) (disk : Disk)
    (periodic : config.storeInterval.isZero = false) {key : String} {operation : Operation}
    (reachable : Reachable key config.storeFile (.start (Storage.openFile config disk) disk)
      operation)
    (ended : operation.IsOver) (unfailed : operation.hasFailed = false) :
    operation.applied.Perm (operation.acknowledged ++ operation.stray) ∧
      operation.heard <+: operation.known ∧
      ∃ listed, operation.disk.read config.storeFile = .ok (FileStore.snapshotText listed) ∧
        (∀ metric ∈ listed, metric.kind = .gauge ∨ metric.kind = .counter) ∧
        (∀ id, ∃ early late, operation.applied = early ++ late ∧ operation.known <+: early ∧
          (listed.filter (Series.counter id).names).length ≤ 1 ∧
          Metric.gains id listed =
            ((Storage.openFile config disk).counters.getD id 0).toInt + Metric.gains id early ∧
          Metric.gains id listed + Metric.gains id late =
            ((Storage.openFile config disk).counters.getD id 0).toInt +
              Metric.gains id operation.acknowledged + Metric.gains id operation.stray) ∧
        ∀ id, ∃ early late, operation.applied = early ++ late ∧ operation.known <+: early ∧
          listed.filter (Series.gauge id).names =
            ((Metric.setting id (Storage.openFile config disk).gauges[id]? early).map
              (Metric.gauge id)).toList := by
  obtain ⟨⟨start, represents⟩, isFile, interval⟩ := FileStore.opened config disk
  have quiet : (Storage.openFile config disk).snapshotsOnWrite = false := by
    rw [FileStore.snapshotsOnWrite, interval, periodic, Bool.and_false]
  have accounts := reachable.accounts (Accounts.start_eq represents quiet disk)
  have shared : operation.applied.Perm (operation.acknowledged ++ operation.stray) := by
    have whole := accounts.shared
    rw [ended.finished, List.flatMap_nil, List.append_nil] at whole
    exact whole
  cases accounts.written with
  | waiting isWaiting => cases ended.written.symm.trans isWaiting
  | dumping _ _ _ isDumping _ _ => cases ended.written.symm.trans isDumping
  | drafted _ _ isDrafted _ _ _ => cases ended.written.symm.trans isDrafted
  | ended isOver aware content =>
      obtain ⟨listed, holds, dumped⟩ := content unfailed
      refine ⟨shared, aware.known, listed, holds, fun metric member => ?_, fun id => ?_,
        fun id => ?_⟩
      · obtain ⟨series, named⟩ := dumped.named metric member
        have kind := (of_decide_eq_true named).1
        cases series with
        | gauge id => exact .inl kind
        | counter id => exact .inr kind
      · obtain ⟨early, late, whole, since, once, sum⟩ :=
          dumped.counter (Finset.notMem_empty (Series.counter id))
        have restored :
            ((Storage.openFile config disk).counters.getD id 0).toInt = start.sum id := by
          rw [represents.getD_counters]
          exact Counter.Total.toInt_toInt64 _
        have all := Metric.gains_of_perm shared id
        rw [whole, Metric.gains_append, Metric.gains_append] at all
        exact ⟨early, late, whole, since, once, by omega, by omega⟩
      · obtain ⟨early, late, whole, since, value⟩ :=
          dumped.gauge (Finset.notMem_empty (Series.gauge id))
        refine ⟨early, late, whole, since, ?_⟩
        rw [represents.gauges]
        exact value

theorem snapshot_of_isOver_late :
    ∃ operation, (lateConfig.storeInterval.isZero = false ∧
      Reachable "" lateConfig.storeFile lateStart operation ∧ operation.IsOver ∧
      operation.hasFailed = false) ∧
      operation.applied.Perm (operation.acknowledged ++ operation.stray) ∧
      operation.heard <+: operation.known := by
  obtain ⟨operation, reachable, ended, unfailed, _⟩ := reachable_late
  have written := reachable.snapshot_of_isOver lateConfig .empty rfl ended unfailed
  exact ⟨operation, ⟨rfl, reachable, ended, unfailed⟩, written.1, written.2.1⟩

theorem not_forall_acknowledged_listed :
    ¬ ∀ operation, Reachable "" lateConfig.storeFile lateStart operation → operation.IsOver →
      operation.hasFailed = false → ∀ listed,
      operation.disk.read lateConfig.storeFile = .ok (FileStore.snapshotText listed) →
      Metric.gains "c" listed = Metric.gains "c" operation.acknowledged := by
  intro complete
  obtain ⟨operation, reachable, ended, unfailed, content, acknowledged⟩ := reachable_late
  have equal := complete operation reachable ended unfailed [] content
  rw [acknowledged] at equal
  exact absurd equal (by decide)

end Operation

end Telemetry.Server
