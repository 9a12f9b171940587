import Telemetry.Proofs.Disk
import Telemetry.Proofs.Metric.Line
import Telemetry.Proofs.Server.Requests
import Telemetry.Proofs.Storage.FileStore
import Telemetry.Proofs.Text.Blank

namespace Telemetry

open Telemetry

/-! A store that is written to its file and restored from it. A gauge that is not a finite number
has no value in JSON; its line is refused, and no line behind it is looked at. -/

/-- Whether the JSON form of a metric holds its value. -/
def Metric.isFinite (metric : Metric) : Bool := metric.value.all Binary64.isFinite

namespace FileStore

variable {store : FileStore} {line : Metric → List Char}

/-- What a store lists. -/
inductive IsEntry : Metric → Prop where
  | gauge (id : String) (value : Binary64) : IsEntry (.gauge id value)
  | counter (id : String) (sum : Int64) : IsEntry (.counter id sum)

theorem isEntry_of_mem_dump {metric : Metric} (member : metric ∈ store.dump) : IsEntry metric := by
  rcases mem_dump.mp member with ⟨id, value, -, rfl⟩ | ⟨id, sum, -, rfl⟩
  · exact .gauge id value
  · exact .counter id sum

theorem replayLine_eq {metric : Metric} {chars : List Char}
    (written : metric.toWire = Bytes.ofChars chars) :
    store.replayLine chars = (do
      metric.received.admit ""
      store.apply metric.received) := by
  rw [replayLine, Bytes.ofText_ofList, ← written, Metric.ofWire_toWire]
  rfl

/-- The next store has one metric more, as it is read of its line. -/
def Takes (store next : FileStore) (metric : Metric) : Prop :=
  ∀ kind id, next.lookup kind id =
    if metric.kind = kind ∧ metric.id = id then some metric.received else store.lookup kind id

theorem takes_counter (store : FileStore) (name : String) (sum : Int64) :
    store.Takes { store with counters := store.counters.insert name sum } (.counter name sum) := by
  intro kind id
  cases kind with
  | gauge => rfl
  | counter =>
      rw [lookup, Std.ExtTreeMap.getElem?_insert]
      by_cases same : name = id
      · subst same
        rw [if_pos Std.ReflCmp.compare_self, if_pos ⟨rfl, rfl⟩]
        rfl
      · rw [if_neg (by simpa using same), if_neg fun both => same both.2]
        rfl
  | unknown kind => rfl

theorem takes_gauge (store : FileStore) (name : String) {value : Binary64}
    (finite : value.isFinite = true) :
    store.Takes { store with gauges := store.gauges.insert name (Json.reread value) }
      (.gauge name value) := by
  intro kind id
  cases kind with
  | gauge =>
      rw [lookup, Std.ExtTreeMap.getElem?_insert]
      by_cases same : name = id
      · subst same
        rw [if_pos Std.ReflCmp.compare_self, if_pos ⟨rfl, rfl⟩,
          Metric.received_gauge name finite]
        rfl
      · rw [if_neg (by simpa using same), if_neg fun both => same both.2]
        rfl
  | counter => rfl
  | unknown kind => rfl

theorem exists_replayLine {metric : Metric} {chars : List Char} (entry : IsEntry metric)
    (written : metric.toWire = Bytes.ofChars chars) (finite : metric.isFinite = true)
    (fresh : store.lookup metric.kind metric.id = none) :
    ∃ next, store.replayLine chars = .ok next ∧ store.Takes next metric := by
  cases entry with
  | gauge id value =>
      refine ⟨_, ?_, store.takes_gauge id finite⟩
      rw [replayLine_eq written, Metric.received_gauge id finite]
      rfl
  | counter id sum =>
      have absent : store.counters[id]? = none := Option.map_eq_none_iff.mp fresh
      have none : store.counters.getD id 0 = 0 := by
        rw [Std.ExtTreeMap.getD_eq_getD_getElem?, absent]
        rfl
      have alone : Counter.add? 0 sum = some sum := by
        rw [Counter.add?, Int64.toInt_zero, Int.zero_add, if_pos (Counter.fits_toInt sum),
          Int64.ofInt_toInt]
      refine ⟨_, ?_, store.takes_counter id sum⟩
      rw [replayLine_eq written, Metric.received_counter]
      simp only [bind, Except.bind, Metric.counter, apply, none, alone]
      rfl

theorem replayLine_refused {metric : Metric} {chars : List Char} (entry : IsEntry metric)
    (written : metric.toWire = Bytes.ofChars chars) (unbounded : metric.isFinite = false) :
    store.replayLine chars = .error (.badRequest (.missingValue metric.id)) := by
  cases entry with
  | gauge id value =>
      have nothing : Json.reread? value = none := by
        have notFinite : value.isFinite = false := unbounded
        rw [Json.reread?, notFinite]
        rfl
      rw [replayLine_eq written, Metric.received, Metric.gauge, Option.bind_some, nothing]
      rfl
  | counter id sum => cases unbounded

/-- What a restart finds of a list: all up to the first gauge that is not a finite number. -/
def restorable (listed : List Metric) : List Metric := listed.takeWhile Metric.isFinite

theorem restorable_eq_self {listed : List Metric}
    (finite : ∀ metric ∈ listed, metric.isFinite = true) : restorable listed = listed := by
  have whole : (listed ++ []).takeWhile Metric.isFinite = listed ++ [].takeWhile Metric.isFinite :=
    List.takeWhile_append_of_pos finite
  rw [List.append_nil, List.takeWhile_nil, List.append_nil] at whole
  exact whole

/-- A list of metrics without two of one kind and name. -/
def Distinct (listed : List Metric) : Prop :=
  listed.Pairwise fun metric other => metric.kind = other.kind → metric.id ≠ other.id

/-- What comes of reading a list back into a store. -/
structure Replayed (store : FileStore) (listed : List Metric) (count : Nat)
    (outcome : Except Failure Nat × FileStore) : Prop where
  complete : outcome.1 = .ok (count + listed.length) ↔ ∀ metric ∈ listed, metric.isFinite = true
  lookup : ∀ kind id found, outcome.2.lookup kind id = some found ↔
    (∃ sent ∈ restorable listed, (sent.kind = kind ∧ sent.id = id) ∧ sent.received = found) ∨
      store.lookup kind id = some found

theorem replayed_taken {metric : Metric} {listed : List Metric} {count : Nat} {next : FileStore}
    {outcome : Except Failure Nat × FileStore} (finite : metric.isFinite = true)
    (fresh : store.lookup metric.kind metric.id = none) (takes : store.Takes next metric)
    (rest : Replayed next listed (count + 1) outcome) :
    Replayed store (metric :: listed) count outcome where
  complete := by
    have length : count + (metric :: listed).length = count + 1 + listed.length := by
      rw [List.length_cons]
      omega
    rw [length, rest.complete, List.forall_mem_cons]
    exact ⟨fun others => ⟨finite, others⟩, And.right⟩
  lookup kind id found := by
    have taken : restorable (metric :: listed) = metric :: restorable listed :=
      List.takeWhile_cons_of_pos finite
    rw [rest.lookup, taken, takes, List.exists_mem_cons_iff, or_assoc, or_left_comm]
    refine or_congr_right ?_
    by_cases same : metric.kind = kind ∧ metric.id = id
    · rw [if_pos same, ← same.1, ← same.2, fresh]
      simp
    · simp [same]

theorem replayed_refused {metric : Metric} {listed : List Metric} {count : Nat}
    (unbounded : metric.isFinite = false) (failure : Failure) :
    Replayed store (metric :: listed) count (.error failure, store) where
  complete := by
    refine ⟨fun isOk => (nomatch isOk), fun finite => ?_⟩
    have first := finite metric (by simp)
    rw [unbounded] at first
    cases first
  lookup kind id found := by
    have none : restorable (metric :: listed) = [] :=
      List.takeWhile_cons_of_neg (by simp [unbounded])
    simp [none]

theorem replayed {listed : List Metric}
    (written : ∀ metric ∈ listed, metric.toWire = Bytes.ofChars (line metric))
    (entries : ∀ metric ∈ listed, IsEntry metric) (distinct : Distinct listed)
    (absent : ∀ metric ∈ listed, store.lookup metric.kind metric.id = none) (count : Nat) :
    Replayed store listed count (store.replay count (listed.map line)) := by
  induction listed generalizing store count with
  | nil =>
      refine ⟨⟨fun _ _ member => (nomatch member), fun _ => rfl⟩, fun kind id found => ?_⟩
      simp [replay, restorable]
  | cons metric listed induction =>
      have others := fun other member => written other (List.mem_cons_of_mem metric member)
      have otherEntries := fun other member => entries other (List.mem_cons_of_mem metric member)
      obtain ⟨first, otherDistinct⟩ := List.pairwise_cons.mp distinct
      have entry := entries metric (by simp)
      have isLine := written metric (by simp)
      have fresh := absent metric (by simp)
      rw [List.map_cons, replay]
      cases finite : metric.isFinite with
      | true =>
          obtain ⟨next, read, takes⟩ := exists_replayLine entry isLine finite fresh
          have stillAbsent : ∀ other ∈ listed, next.lookup other.kind other.id = none := by
            intro other member
            rw [takes, if_neg fun same => first other member same.1 same.2]
            exact absent other (List.mem_cons_of_mem _ member)
          rw [read]
          exact replayed_taken finite fresh takes
            (induction others otherEntries otherDistinct stillAbsent (count + 1))
      | false =>
          rw [replayLine_refused entry isLine finite]
          exact replayed_refused finite _

theorem lookup_of_mem_dump {metric : Metric} (member : metric ∈ store.dump) :
    store.lookup metric.kind metric.id = some metric := by
  rcases mem_dump.mp member with ⟨id, value, found, rfl⟩ | ⟨id, sum, found, rfl⟩
  · show store.gauges[id]?.map (Metric.gauge id) = _
    rw [found]
    rfl
  · show store.counters[id]?.map (Metric.counter id) = _
    rw [found]
    rfl

theorem distinct_of_perm_dump {listed : List Metric} (perm : listed.Perm store.dump) :
    Distinct listed := by
  have symmetric : ∀ metric other : Metric, (metric.kind = other.kind → metric.id ≠ other.id) →
      other.kind = metric.kind → other.id ≠ metric.id :=
    fun metric other apart sameKind same => apart sameKind.symm same.symm
  refine (perm.pairwise_iff (fun {metric other} => symmetric metric other)).mpr ?_
  refine List.Nodup.pairwise_of_forall_ne store.nodup_dump ?_
  intro metric member other otherMember unequal sameKind sameId
  have found := lookup_of_mem_dump member
  rw [sameKind, sameId, lookup_of_mem_dump otherMember] at found
  exact unequal (Option.some.inj found).symm

theorem read_of_replaceFile {path : String} {listed : List Metric} {disk written : Disk}
    {count : Nat} (replaced : replaceFile path listed disk = (.ok count, written)) :
    written.read path = .ok (snapshotText listed) := by
  unfold replaceFile at replaced
  split at replaced
  · cases (Prod.mk.inj replaced).1
  · next drafted draft =>
      split at replaced
      · cases (Prod.mk.inj replaced).1
      · next moved renamed =>
          rw [← (Prod.mk.inj replaced).2]
          exact Disk.read_rename (Disk.read_write draft) renamed

/-- The lines that a restore looks at are those of the metrics that were written. -/
theorem restore_eq_replay {path : String} {listed : List Metric} {disk : Disk}
    (isFile : store.storeFile = some path)
    (holds : disk.read path = .ok (snapshotText listed))
    (written : ∀ metric, metric.toWire = Bytes.ofChars (line metric))
    (plain : ∀ metric, ∀ c ∈ line metric, c ≠ '\n' ∧ c ≠ '\r')
    (visible : ∀ metric, isBlankLine (line metric) = false) :
    store.restore disk = store.replay 0 (listed.map line) := by
  have text : snapshotText listed =
      Bytes.ofChars (listed.flatMap fun metric => line metric ++ ['\n']) := by
    rw [snapshotText, Bytes.ofChars, List.flatMap_assoc]
    refine List.flatMap_congr fun metric _ => ?_
    rw [written, List.flatMap_append]
    rfl
  have read : disk.readText path =
      .ok (String.ofList (listed.flatMap fun metric => line metric ++ ['\n'])) := by
    rw [Disk.readText, holds, text]
    simp only [bind, Except.bind, Bytes.toText?_ofChars]
  have shown : (listed.map line).filter (fun line => !isBlankLine line) = listed.map line := by
    rw [List.filter_eq_self]
    intro shown member
    obtain ⟨metric, -, rfl⟩ := List.mem_map.mp member
    rw [visible]
    rfl
  rw [restore, isFile]
  simp only [read, String.toList_ofList, Text.lines_flatMap plain, shown]

theorem isBlankLine_brace (chars : List Char) : isBlankLine ('\x7b' :: chars) = false := by
  have visible : Text.isBlank '\x7b' = false := by decide
  rw [isBlankLine, List.all_cons, visible, Bool.false_and]

theorem lookup_empty (storeFile : Option String) (interval : Duration) (kind : Kind)
    (id : String) : (empty storeFile interval).lookup kind id = none := by
  cases kind <;> rfl

/-- A fresh store takes back from a file what was listed in front of the first gauge that is not a
finite number, and nothing else. -/
theorem restored {listed : List Metric} (perm : listed.Perm store.dump) {path : String}
    {disk : Disk} (holds : disk.read path = .ok (snapshotText listed)) (interval : Duration) :
    Replayed (empty (some path) interval) listed 0 ((empty (some path) interval).restore disk) := by
  choose behind isBehind plain using Metric.exists_line
  have wholePlain : ∀ metric, ∀ c ∈ '\x7b' :: behind metric, c ≠ '\n' ∧ c ≠ '\r' := by
    intro metric c member
    rcases List.mem_cons.mp member with rfl | later
    · decide
    · exact plain metric c later
  have visible : ∀ metric, isBlankLine ('\x7b' :: behind metric) = false :=
    fun metric => isBlankLine_brace _
  rw [restore_eq_replay rfl holds isBehind wholePlain visible]
  refine replayed (fun metric _ => isBehind metric)
    (fun metric member => isEntry_of_mem_dump (perm.mem_iff.mp member))
    (distinct_of_perm_dump perm) (fun metric _ => lookup_empty _ _ _ _) 0

theorem find_eq_of_lookup_eq {other : FileStore} {query : Metric}
    (same : store.lookup query.kind query.id = other.lookup query.kind query.id) (key : String) :
    store.find query key = other.find query key := by
  rw [find, find, same]

theorem find_missing {id : String} (absent : store.lookup .counter id = none) (key : String) :
    store.find (.query id .counter) key = .error (Metric.query id .counter).missing := by
  show (Metric.query id .counter).answer (store.lookup .counter id) key = _
  rw [absent]
  rfl

theorem lookup_restored {listed : List Metric} (perm : listed.Perm store.dump) {count : Nat}
    {path : String} {interval : Duration} {outcome : Except Failure Nat × FileStore}
    (replayed : Replayed (empty (some path) interval) listed count outcome) {id : String}
    {sum : Int64}
    (kept : .counter id sum ∈ restorable listed) :
    outcome.2.lookup .counter id = store.lookup .counter id := by
  have member := perm.mem_iff.mp ((List.takeWhile_sublist _).subset kept)
  have found : store.lookup .counter id = some (.counter id sum) := lookup_of_mem_dump member
  rw [found]
  exact (replayed.lookup _ _ _).mpr (.inl ⟨_, kept, ⟨rfl, rfl⟩, rfl⟩)

theorem eq_of_received {sent : Metric} {id : String} {sum : Int64}
    (finite : sent.isFinite = true) (isCounter : sent.kind = .counter)
    (read : sent.received = .counter id sum) : sent = .counter id sum := by
  obtain ⟨name, kind, delta, value, hash⟩ := sent
  obtain ⟨rfl, -, rfl, noValue, rfl⟩ := Metric.mk.inj read
  obtain rfl : kind = .counter := isCounter
  cases value with
  | none => rfl
  | some value =>
      have read := Json.reread?_of_isFinite finite
      rw [Option.bind_some, read] at noValue
      cases noValue

theorem lookup_unrestored {listed : List Metric} {count : Nat} {path : String}
    {interval : Duration} {outcome : Except Failure Nat × FileStore}
    (replayed : Replayed (empty (some path) interval) listed count outcome) {id : String}
    (lost : ∀ sum, .counter id sum ∉ restorable listed) : outcome.2.lookup .counter id = none := by
  refine Option.eq_none_iff_forall_ne_some.mpr fun found isFound => ?_
  obtain ⟨sum, -, rfl⟩ := Option.map_eq_some_iff.mp isFound
  rcases (replayed.lookup _ _ _).mp isFound with ⟨sent, kept, ⟨isCounter, -⟩, read⟩ | early
  · have finite : sent.isFinite = true := List.all_eq_true.mp List.all_takeWhile sent kept
    exact lost sum (eq_of_received finite isCounter read ▸ kept)
  · rw [lookup_empty] at early
    cases early

theorem lookup_eq_none {id : String} (absent : ∀ sum, store.counters[id]? ≠ some sum) :
    store.lookup .counter id = none := by
  rw [lookup, Option.map_eq_none_iff, Option.eq_none_iff_forall_ne_some]
  exact absent

/-- A snapshot that lists the metrics in an order of its own. -/
def snapshotAs (store : FileStore) (listed : List Metric) (disk : Disk) :
    Except Failure Nat × Disk :=
  match store.storeFile with
  | none => (.ok 0, disk)
  | some path => replaceFile path listed disk

theorem snapshot_eq (store : FileStore) (disk : Disk) :
    store.snapshot disk = store.snapshotAs store.dump disk := rfl

theorem storeFile_save (metric : Metric) (key : String) (state : FileStore × Disk) :
    (save metric key state).2.1.storeFile = state.1.storeFile := by
  obtain ⟨store, disk⟩ := state
  unfold save
  cases metric.admit key with
  | error failure => rfl
  | ok admitted =>
      simp only
      split
      · rfl
      · next changed stored =>
          have frame := (apply_frame stored).1
          split
          · split <;> exact frame
          · exact frame

end FileStore

namespace Server

open Http

theorem Settings.storeFile_serveAll (settings : Settings) (requests : List Request)
    (state : FileStore × Disk) :
    (settings.serveAll FileStore.backend requests state).1.storeFile = state.1.storeFile := by
  let Keeps (served : FileStore × Disk) : Prop := served.1.storeFile = state.1.storeFile
  have save : ∀ metric key served, Keeps served → Keeps (FileStore.save metric key served).2 :=
    fun metric key served same => (FileStore.storeFile_save metric key served).trans same
  have start : Keeps state := rfl
  exact settings.serveAll_keeps save requests start

/-- After any requests, a snapshot that succeeded and a restart, a counter is found as before if it
was listed in front of the first gauge that is not a finite number, and is missing otherwise. -/
theorem Settings.find_after_restart (settings : Settings) (requests : List Request) (path : String)
    (interval next : Duration) (disk : Disk) {listed : List Metric} {count : Nat} {written : Disk}
    (order : listed.Perm
      (settings.serveAll FileStore.backend requests (.empty (some path) interval, disk)).1.dump)
    (succeeds :
      (settings.serveAll FileStore.backend requests
          (.empty (some path) interval, disk)).1.snapshotAs listed
        (settings.serveAll FileStore.backend requests (.empty (some path) interval, disk)).2 =
          (.ok count, written)) :
    let served := (settings.serveAll FileStore.backend requests
      (.empty (some path) interval, disk)).1
    let restored := (FileStore.empty (some path) next).restore written
    (restored.1 = .ok listed.length ↔ ∀ metric ∈ listed, metric.isFinite = true) ∧
      (∀ id sum key, .counter id sum ∈ FileStore.restorable listed →
        restored.2.find (.query id .counter) key = served.find (.query id .counter) key) ∧
      (∀ id key, (∀ sum, .counter id sum ∉ FileStore.restorable listed) →
        restored.2.find (.query id .counter) key = .error (Metric.query id .counter).missing) ∧
      ((∀ metric ∈ listed, metric.isFinite = true) → ∀ id key,
        restored.2.find (.query id .counter) key = served.find (.query id .counter) key) := by
  intro served restored
  have isFile : served.storeFile = some path := settings.storeFile_serveAll requests _
  rw [FileStore.snapshotAs, isFile] at succeeds
  have replayed : FileStore.Replayed (.empty (some path) next) listed 0 restored :=
    FileStore.restored order (FileStore.read_of_replaceFile succeeds) next
  have complete := replayed.complete
  rw [Nat.zero_add] at complete
  have kept : ∀ id sum key, .counter id sum ∈ FileStore.restorable listed →
      restored.2.find (.query id .counter) key = served.find (.query id .counter) key :=
    fun id sum key member =>
      FileStore.find_eq_of_lookup_eq (FileStore.lookup_restored order replayed member) key
  have lost : ∀ id key, (∀ sum, .counter id sum ∉ FileStore.restorable listed) →
      restored.2.find (.query id .counter) key = .error (Metric.query id .counter).missing :=
    fun id key absent =>
      FileStore.find_missing (FileStore.lookup_unrestored replayed absent) key
  refine ⟨complete, kept, lost, fun finite id key => ?_⟩
  by_cases listedOnce : ∃ sum, .counter id sum ∈ FileStore.restorable listed
  · obtain ⟨sum, member⟩ := listedOnce
    exact kept id sum key member
  · have absent : ∀ sum, .counter id sum ∉ FileStore.restorable listed :=
      fun sum member => listedOnce ⟨sum, member⟩
    rw [lost id key absent]
    refine (FileStore.find_missing (FileStore.lookup_eq_none fun sum found => absent sum ?_)
      key).symm
    rw [FileStore.restorable_eq_self finite]
    exact order.mem_iff.mpr (FileStore.mem_dump.mpr (.inr ⟨id, sum, found, rfl⟩))

/-- The store and the disk after a counter was raised by five and a gauge set. -/
def afterUpdates (value : String) : FileStore × Disk :=
  plainSettings.serveAll FileStore.backend
    [postTo "/update/counter/c/5", postTo ("/update/gauge/g/" ++ value)]
    (.empty (some "metrics") (.ofSeconds 300), .empty)

theorem find_after_restart_bounded :
    ∃ written, [Metric.counter "c" 5, .gauge "g" .zero].Perm (afterUpdates "0").1.dump ∧
      (afterUpdates "0").1.snapshotAs [.counter "c" 5, .gauge "g" .zero] (afterUpdates "0").2 =
        (.ok 2, written) ∧
      ((FileStore.empty (some "metrics") .zero).restore written).2.find (.query "c" .counter) "" =
        (afterUpdates "0").1.find (.query "c" .counter) "" := by
  have dumped : (afterUpdates "0").1.dump = [.gauge "g" .zero, .counter "c" 5] := rfl
  have order : [Metric.counter "c" 5, .gauge "g" .zero].Perm (afterUpdates "0").1.dump := by
    rw [dumped]
    exact .swap _ _ _
  obtain ⟨written, succeeds⟩ : ∃ written, (afterUpdates "0").1.snapshotAs
      [.counter "c" 5, .gauge "g" .zero] (afterUpdates "0").2 = (.ok 2, written) := ⟨_, rfl⟩
  have first : Metric.counter "c" 5 ∈
      FileStore.restorable [Metric.counter "c" 5, .gauge "g" .zero] := by
    rw [FileStore.restorable, List.takeWhile_cons_of_pos rfl]
    exact List.mem_cons_self
  have recovered := plainSettings.find_after_restart _ "metrics" _ .zero _ order succeeds
  exact ⟨written, order, succeeds, recovered.2.1 "c" 5 "" first⟩

theorem not_forall_find_after_restart :
    ¬ ∀ (settings : Settings) (requests : List Request) (path : String) (interval next : Duration)
      (listed : List Metric) (count : Nat) (written : Disk),
      let served := settings.serveAll FileStore.backend requests
        (.empty (some path) interval, .empty)
      listed.Perm served.1.dump → served.1.snapshotAs listed served.2 = (.ok count, written) →
        ∀ id key found, served.1.find (.query id .counter) key = .ok found →
          ((FileStore.empty (some path) next).restore written).2.find (.query id .counter) key =
            .ok found := by
  intro survives
  have dumped : (afterUpdates "NaN").1.dump = [.gauge "g" .nan, .counter "c" 5] := rfl
  have order : [Metric.gauge "g" .nan, .counter "c" 5].Perm (afterUpdates "NaN").1.dump := by
    rw [dumped]
  obtain ⟨written, succeeds⟩ : ∃ written, (afterUpdates "NaN").1.snapshotAs
      [.gauge "g" .nan, .counter "c" 5] (afterUpdates "NaN").2 = (.ok 2, written) := ⟨_, rfl⟩
  have replaced : FileStore.replaceFile "metrics" [.gauge "g" .nan, .counter "c" 5]
      (afterUpdates "NaN").2 = (.ok 2, written) := succeeds
  have replayed := FileStore.restored order (FileStore.read_of_replaceFile replaced) .zero
  have absent : ∀ sum, Metric.counter "c" sum ∉
      FileStore.restorable [.gauge "g" .nan, .counter "c" 5] := by
    intro sum
    rw [FileStore.restorable, List.takeWhile_cons_of_neg (by decide)]
    exact List.not_mem_nil
  have lost := FileStore.find_missing (FileStore.lookup_unrestored replayed absent) ""
  have saved : (afterUpdates "NaN").1.find (.query "c" .counter) "" = .ok (.counter "c" 5) := rfl
  have found := survives plainSettings _ "metrics" _ .zero _ 2 written order succeeds "c" ""
    _ saved
  rw [lost] at found
  cases found

end Server

end Telemetry
