import Telemetry.Proofs.Storage.Dump
import Telemetry.Proofs.Storage.Restart

namespace Telemetry.FileStore

open Telemetry

/-! A store that is written to its file and read from it again, once or any number of times. All
gauges being finite numbers, nothing is lost: counters stay as they are, and a gauge becomes the
number that its text is read as. -/

variable {store : FileStore}

def IsFinite (store : FileStore) : Prop :=
  ∀ (id : String) (value : Binary64), store.gauges[id]? = some value → value.isFinite = true

/-- Each gauge is the number that its text is read as. -/
def reread (store : FileStore) : FileStore :=
  { store with gauges := store.gauges.map fun _ => Json.reread }

def size (store : FileStore) : Nat := store.gauges.size + store.counters.size

theorem getElem?_gauges_reread (store : FileStore) (id : String) :
    store.reread.gauges[id]? = store.gauges[id]?.map Json.reread :=
  Std.ExtTreeMap.getElem?_map

theorem IsFinite.reread (finite : store.IsFinite) : store.reread.IsFinite := by
  intro id value found
  rw [getElem?_gauges_reread] at found
  obtain ⟨sent, held, rfl⟩ := Option.map_eq_some_iff.mp found
  exact Json.isFinite_reread (finite id sent held)

theorem length_dump (store : FileStore) : store.dump.length = store.size := by
  rw [dump, List.length_append, List.length_map, List.length_map, Std.ExtTreeMap.length_toList,
    Std.ExtTreeMap.length_toList, size]

theorem IsFinite.dump (finite : store.IsFinite) :
    ∀ metric ∈ store.dump, metric.isFinite = true := by
  intro metric member
  rcases mem_dump.mp member with ⟨id, value, found, rfl⟩ | ⟨id, sum, -, rfl⟩
  · exact finite id value found
  · rfl

theorem lookup_eq_some_iff {kind : Kind} {id : String} {metric : Metric} :
    store.lookup kind id = some metric ↔
      metric ∈ store.dump ∧ metric.kind = kind ∧ metric.id = id := by
  constructor
  · intro found
    cases kind with
    | gauge =>
        obtain ⟨value, held, rfl⟩ := Option.map_eq_some_iff.mp found
        exact ⟨mem_dump.mpr (.inl ⟨id, value, held, rfl⟩), rfl, rfl⟩
    | counter =>
        obtain ⟨sum, held, rfl⟩ := Option.map_eq_some_iff.mp found
        exact ⟨mem_dump.mpr (.inr ⟨id, sum, held, rfl⟩), rfl, rfl⟩
    | unknown name => cases found
  · rintro ⟨member, rfl, rfl⟩
    exact lookup_of_mem_dump member

section Restored

variable {listed : List Metric} {path : String} {disk : Disk}

theorem lookup_of_restored (perm : listed.Perm store.dump) (finite : store.IsFinite)
    {interval : Duration} {outcome : Except Failure Nat × FileStore}
    (replayed : Replayed (empty (some path) interval) listed 0 outcome) (kind : Kind)
    (id : String) : outcome.2.lookup kind id = (store.lookup kind id).map Metric.received := by
  have whole : restorable listed = listed :=
    restorable_eq_self fun metric member => finite.dump metric (perm.mem_iff.mp member)
  ext found
  rw [replayed.lookup, whole, lookup_empty, Option.map_eq_some_iff]
  simp only [lookup_eq_some_iff, perm.mem_iff, reduceCtorEq, or_false, and_assoc]

theorem gauges_of_restored (perm : listed.Perm store.dump) (finite : store.IsFinite)
    {interval : Duration} {outcome : Except Failure Nat × FileStore}
    (replayed : Replayed (empty (some path) interval) listed 0 outcome) :
    outcome.2.gauges = store.reread.gauges := by
  refine Std.ExtTreeMap.ext_getElem? fun id => ?_
  have found : outcome.2.gauges[id]?.map (Metric.gauge id) =
      (store.gauges[id]?.map (Metric.gauge id)).map Metric.received :=
    lookup_of_restored perm finite replayed .gauge id
  rw [getElem?_gauges_reread]
  cases held : store.gauges[id]? with
  | none =>
      rw [held] at found
      exact Option.map_eq_none_iff.mp found
  | some value =>
      rw [held, Option.map_some, Option.map_some,
        Metric.received_gauge id (finite id value held)] at found
      obtain ⟨read, isRead, same⟩ := Option.map_eq_some_iff.mp found
      rw [isRead, Option.map_some]
      simpa [Metric.gauge] using same

theorem counters_of_restored (perm : listed.Perm store.dump) (finite : store.IsFinite)
    {interval : Duration} {outcome : Except Failure Nat × FileStore}
    (replayed : Replayed (empty (some path) interval) listed 0 outcome) :
    outcome.2.counters = store.counters := by
  refine Std.ExtTreeMap.ext_getElem? fun id => ?_
  have found : outcome.2.counters[id]?.map (Metric.counter id) =
      (store.counters[id]?.map (Metric.counter id)).map Metric.received :=
    lookup_of_restored perm finite replayed .counter id
  cases held : store.counters[id]? with
  | none =>
      rw [held] at found
      exact Option.map_eq_none_iff.mp found
  | some sum =>
      rw [held, Option.map_some, Option.map_some, Metric.received_counter] at found
      obtain ⟨read, isRead, same⟩ := Option.map_eq_some_iff.mp found
      rw [isRead]
      simpa [Metric.counter] using same

/-- What a fresh store reads of a snapshot. -/
theorem restore_eq (perm : listed.Perm store.dump) (finite : store.IsFinite)
    (isFile : store.storeFile = some path) (holds : disk.read path = .ok (snapshotText listed))
    (interval : Duration) :
    (empty (some path) interval).restore disk =
      (.ok store.size, { store.reread with interval := interval }) := by
  have replayed := restored perm holds interval
  have complete := replayed.complete.mpr
    fun metric member => finite.dump metric (perm.mem_iff.mp member)
  rw [Nat.zero_add, perm.length_eq, length_dump] at complete
  have gauges := gauges_of_restored perm finite replayed
  have counters := counters_of_restored perm finite replayed
  obtain ⟨sameFile, sameInterval⟩ := restore_frame (empty (some path) interval) disk
  generalize (empty (some path) interval).restore disk = outcome at *
  obtain ⟨answer, gaugesRead, countersRead, file, period⟩ := outcome
  obtain rfl : answer = .ok store.size := complete
  obtain rfl : gaugesRead = store.reread.gauges := gauges
  obtain rfl : countersRead = store.counters := counters
  obtain rfl : file = some path := sameFile
  obtain rfl : period = interval := sameInterval
  rw [reread, isFile]

theorem exists_replaceFile (accepts : disk.Accepts path) (drafts : disk.Accepts (draftPath path))
    (listed : List Metric) :
    ∃ written, replaceFile path listed disk = (.ok listed.length, written) ∧
      ∀ {other}, disk.Accepts other → written.Accepts other := by
  obtain ⟨drafted, isDrafted⟩ := drafts.write (snapshotText listed)
  obtain ⟨written, isRenamed, keeps⟩ :=
    (accepts.of_write isDrafted).rename (Disk.read_write isDrafted)
  refine ⟨written, ?_, fun accepted => keeps (accepted.of_write isDrafted)⟩
  simp only [replaceFile, isDrafted, isRenamed]

end Restored

/-- A store with a file that can be written, and with finite numbers only. -/
structure Ready (path : String) (store : FileStore) (disk : Disk) : Prop where
  isFile : store.storeFile = some path
  finite : store.IsFinite
  accepts : disk.Accepts path
  drafts : disk.Accepts (draftPath path)

/-- The metrics of each store in some order. -/
structure Listing where
  metrics : FileStore → List Metric
  perm : ∀ store, (metrics store).Perm store.dump

/-- A snapshot and a restart, which may set another time between snapshots. -/
def restart (path : String) (state : FileStore × Disk) (round : Listing × Duration) :
    Except Failure (FileStore × Disk) :=
  match state.1.snapshotAs (round.1.metrics state.1) state.2 with
  | (.error failure, _) => .error failure
  | (.ok _, written) =>
    match (empty (some path) round.2).restore written with
    | (.error failure, _) => .error failure
    | (.ok _, restored) => .ok (restored, written)

namespace Ready

variable {path : String} {disk : Disk}

theorem snapshotAs (ready : Ready path store disk) {listed : List Metric}
    (perm : listed.Perm store.dump) :
    ∃ written, store.snapshotAs listed disk = (.ok store.size, written) ∧
      ∀ interval, (empty (some path) interval).restore written =
          (.ok store.size, { store.reread with interval := interval }) ∧
        Ready path { store.reread with interval := interval } written := by
  obtain ⟨written, replaced, keeps⟩ := exists_replaceFile ready.accepts ready.drafts listed
  refine ⟨written, ?_, fun interval => ⟨?_, ?_⟩⟩
  · rw [← length_dump, ← perm.length_eq, FileStore.snapshotAs, ready.isFile]
    exact replaced
  · exact restore_eq perm ready.finite ready.isFile (read_of_replaceFile replaced) interval
  · exact ⟨ready.isFile, ready.finite.reread, keeps ready.accepts, keeps ready.drafts⟩

theorem restart (ready : Ready path store disk) (round : Listing × Duration) :
    ∃ written, FileStore.restart path (store, disk) round =
        .ok ({ store.reread with interval := round.2 }, written) ∧
      Ready path { store.reread with interval := round.2 } written := by
  obtain ⟨written, isWritten, restores⟩ := ready.snapshotAs (round.1.perm store)
  obtain ⟨isRestored, stillReady⟩ := restores round.2
  refine ⟨written, ?_, stillReady⟩
  simp only [FileStore.restart, isWritten, isRestored]

theorem restarts (ready : Ready path store disk) (rounds : List (Listing × Duration)) :
    ∃ restarted, rounds.foldlM (FileStore.restart path) (store, disk) = .ok restarted ∧
      restarted.1.counters = store.counters ∧
      ∀ id : String, restarted.1.gauges[id]? =
        store.gauges[id]?.map Json.reread^[rounds.length] := by
  induction rounds generalizing store disk with
  | nil => exact ⟨(store, disk), rfl, rfl, fun id => Option.map_id.symm ▸ rfl⟩
  | cons round rounds induction =>
      obtain ⟨written, isRestarted, stillReady⟩ := ready.restart round
      obtain ⟨restarted, goesOn, counters, gauges⟩ := induction stillReady
      refine ⟨restarted, ?_, counters, fun id => ?_⟩
      · rw [List.foldlM_cons, isRestarted]
        exact goesOn
      · rw [gauges id, getElem?_gauges_reread, Option.map_map, List.length_cons,
          Function.iterate_succ]

end Ready

/-- Every snapshot of such a store, in whatever order it lists the metrics, is read back as a whole;
and so it goes on, however often a snapshot is followed by a restart. -/
theorem snapshot_restore {store : FileStore} {path : String} {disk : Disk}
    (ready : Ready path store disk) :
    (∀ (id : String) (value : Binary64), store.gauges[id]? = some value →
      Json.decode Json.readBinary64 (Json.writeBinary64 value) = .ok (Json.reread value)) ∧
    (∀ listed : List Metric, listed.Perm store.dump → ∃ written,
      store.snapshotAs listed disk = (.ok (store.gauges.size + store.counters.size), written) ∧
      ∀ interval, ∃ restored, (empty (some path) interval).restore written =
          (.ok (store.gauges.size + store.counters.size), restored) ∧
        restored.counters = store.counters ∧
        restored.gauges = store.gauges.map fun _ => Json.reread) ∧
    ∀ rounds : List (Listing × Duration), ∃ restarted,
      rounds.foldlM (restart path) (store, disk) = .ok restarted ∧
      restarted.1.counters = store.counters ∧
      ∀ id : String, restarted.1.gauges[id]? =
        store.gauges[id]?.map Json.reread^[rounds.length] := by
  refine ⟨fun id value found => Json.decode_writeBinary64 (ready.finite id value found),
    fun listed perm => ?_, ready.restarts⟩
  obtain ⟨written, isWritten, restores⟩ := ready.snapshotAs perm
  exact ⟨written, isWritten, fun interval => ⟨_, (restores interval).1, rfl, rfl⟩⟩

/-- A gauge and a counter of one name, which takes two lines. -/
def namesakes : FileStore :=
  ⟨Std.ExtTreeMap.empty.insert "two\nlines" .zero, Std.ExtTreeMap.empty.insert "two\nlines" 5,
    some "metrics", .zero⟩

theorem ready_namesakes : Ready "metrics" namesakes .empty where
  isFile := rfl
  finite id value found := by
    have held : (Std.ExtTreeMap.empty.insert "two\nlines" Binary64.zero :
        Std.ExtTreeMap String Binary64)[id]? = some value := found
    rw [Std.ExtTreeMap.getElem?_insert] at held
    split at held
    · rw [← Option.some.inj held]
      decide
    · cases held
  accepts := ⟨"/metrics", rfl, by simp [Disk.entry?, Disk.empty]⟩
  drafts := ⟨"/metrics.tmp", rfl, by simp [Disk.entry?, Disk.empty]⟩

theorem snapshot_restore_namesakes :
    Ready "metrics" namesakes .empty ∧ ∃ written,
      namesakes.snapshotAs [.counter "two\nlines" 5, .gauge "two\nlines" .zero] .empty =
        (.ok 2, written) ∧
      ∃ restored, (empty (some "metrics") .zero).restore written = (.ok 2, restored) ∧
        restored.counters = namesakes.counters := by
  have order : [Metric.counter "two\nlines" 5, .gauge "two\nlines" .zero].Perm namesakes.dump := by
    have dumped : namesakes.dump = [.gauge "two\nlines" .zero, .counter "two\nlines" 5] := rfl
    rw [dumped]
    exact .swap _ _ _
  have sized : namesakes.gauges.size + namesakes.counters.size = 2 := rfl
  obtain ⟨-, single, -⟩ := snapshot_restore ready_namesakes
  obtain ⟨written, isWritten, restores⟩ := single _ order
  obtain ⟨restored, isRestored, counters, -⟩ := restores .zero
  rw [sized] at isWritten isRestored
  exact ⟨ready_namesakes, written, isWritten, restored, isRestored, counters⟩

end Telemetry.FileStore
