import Mathlib.Data.List.Permutation
import Telemetry.Proofs.Storage.Interchange
import Telemetry.Proofs.Storage.Lookups
import Telemetry.Proofs.Storage.Overwriting
import Telemetry.Proofs.Storage.Reordering

namespace Telemetry

open Telemetry

/-! A batch in another order, in storage of any kind: it is taken in or not all the same, and what
it leaves cannot be told apart. -/

/-- A failure that does not come from the metrics: of a file, or of a database that can only be
read. -/
def Failure.IsOutside (failure : Failure) : Prop :=
  failure.isIo = true ∨ failure = .database .readOnly

theorem Table.apply_readOnly {table : Table} {metric : Metric} (readOnly : table.isReadOnly = true)
    (valid : metric.validate = .ok ()) : table.apply metric = .error (.database .readOnly) := by
  cases metric.content with
  | gauge value isGauge holds =>
      simp only [apply, isGauge, holds, readOnly, if_true]
      rfl
  | counter delta isCounter holds =>
      simp only [apply, isCounter, holds, readOnly, if_true]
      rfl
  | invalid failure invalid =>
      rw [invalid] at valid
      cases valid

theorem Ledger.admit_of_save {ledger : Ledger} {metric : Metric} {key : String}
    (saved : (ledger.save metric key).1 = .ok ()) : metric.admit key = .ok () := by
  cases admission : metric.admit key with
  | error failure =>
      rw [Ledger.save, Metric.saveBy_refused admission] at saved
      cases saved
  | ok admitted => rfl

theorem Backend.saveMany_within {Inner Outer : Type} {inner : Backend Inner}
    {outer : Backend Outer} {place : Inner → Outer}
    (save : ∀ metric key state, outer.save metric key (place state) =
      ((inner.save metric key state).1, place (inner.save metric key state).2))
    (metrics : List Metric) (key : String) (state : Inner) :
    outer.saveMany key metrics (place state) =
      ((inner.saveMany key metrics state).1, place (inner.saveMany key metrics state).2) := by
  induction metrics generalizing state with
  | nil => rfl
  | cons metric metrics induction =>
      rw [saveMany, saveMany, save]
      obtain ⟨result, next⟩ := inner.save metric key state
      cases result with
      | error failure => rfl
      | ok saved => exact induction next

namespace Storage

variable {state : Storage × Disk} {ledger : Ledger} {metric : Metric} {key : String}
  {metrics others : List Metric}

/-- Whether writes go through: snapshots can be written where each save asks for one, and a database
can be written. -/
def IsWritable : Storage × Disk → Prop
  | (.file store, disk) => store.Persists disk
  | (.database _ table, _) => table.isReadOnly = false
  | (.keyValue _, _) => True

theorem exists_failure_of_not_isWritable (stuck : ¬ IsWritable state) (metric : Metric)
    (key : String) : ∃ failure, (backend.save metric key state).1 = .error failure := by
  obtain ⟨storage, disk⟩ := state
  cases storage with
  | file store => exact FileStore.exists_failure_of_not_persists stuck metric key
  | database path table =>
      obtain ⟨failure, refused⟩ :=
        Table.save_of_isReadOnly (Bool.not_eq_false _ ▸ stuck) metric key
      exact ⟨failure, congrArg Prod.fst refused⟩
  | keyValue store => exact absurd trivial stuck

theorem Holds.isOutside_of_save (holds : state.1.Holds ledger)
    (stored : (ledger.save metric key).1 = .ok ()) {failure : Failure}
    (failed : (backend.save metric key state).1 = .error failure) : failure.IsOutside := by
  obtain ⟨storage, disk⟩ := state
  cases storage with
  | file store =>
      have represents : store.Represents ledger := holds
      obtain ⟨sameResult, -⟩ := Simulation.saveBy represents (represents.apply metric) key
      exact .inl (FileStore.isIo_of_save (sameResult.trans stored) failed)
  | database path table =>
      have failedThere : (table.save metric key).1 = .error failure := failed
      cases readOnly : table.isReadOnly with
      | true =>
          have admitted := Ledger.admit_of_save stored
          have refused := Table.apply_readOnly readOnly (Metric.admit_eq_ok.mp admitted).1
          rw [Table.save_eq_saveBy, Metric.saveBy_admitted admitted, refused] at failedThere
          exact .inr (Except.error.inj failedThere).symm
      | false =>
          rw [Holds, Table.writable_eq readOnly] at holds
          obtain ⟨sameResult, -⟩ := Table.simulation.save metric key holds
          have saved : (table.save metric key).1 = .ok () := sameResult.trans stored
          rw [saved] at failedThere
          cases failedThere
  | keyValue store =>
      obtain ⟨sameResult, -⟩ := KeyValue.simulation.save metric key holds
      have failedThere : (KeyValue.backend.save metric key store).1 = .error failure := failed
      rw [sameResult, stored] at failedThere
      cases failedThere

theorem Holds.isOutside_of_saveMany (holds : state.1.Holds ledger)
    (taken : (ledger.saveMany key metrics).1 = .ok ()) {failure : Failure}
    (failed : (backend.saveMany key metrics state).1 = .error failure) : failure.IsOutside := by
  induction metrics generalizing state ledger with
  | nil => cases failed
  | cons metric metrics induction =>
      rw [Backend.saveMany] at failed
      rw [Ledger.saveMany] at taken
      cases stored : ledger.save metric key with
      | mk answer nextLedger =>
          rw [stored] at taken
          cases answer with
          | error refusal => cases taken
          | ok admitted =>
              cases saved : backend.save metric key state with
              | mk result next =>
                  rw [saved] at failed
                  cases result with
                  | error cause =>
                      obtain rfl := Except.error.inj failed
                      exact holds.isOutside_of_save (congrArg Prod.fst stored)
                        (congrArg Prod.fst saved)
                  | ok done =>
                      obtain ⟨-, holdsThen⟩ := holds.save_of_ok (congrArg Prod.fst saved)
                      rw [stored] at holdsThen
                      have isNext : (backend.save metric key state).2 = next :=
                        congrArg Prod.snd saved
                      exact induction (isNext ▸ holdsThen) taken failed

section Congruence

variable {other : Storage × Disk}

theorem reread_congr {storage other : Storage} (sameKind : storage.isDatabase = other.isDatabase) :
    storage.reread = other.reread := by
  cases isDatabase : other.isDatabase with
  | true => rw [reread_of_isDatabase isDatabase, reread_of_isDatabase (sameKind.trans isDatabase)]
  | false =>
      funext series reading
      rw [reread_of_not_isDatabase isDatabase, reread_of_not_isDatabase (sameKind.trans isDatabase)]

/-- What is found depends on the ledger alone, and on whether columns keep the doubles. -/
theorem Holds.find_congr (holds : state.1.Holds ledger) (otherHolds : other.1.Holds ledger)
    (sameKind : state.1.isDatabase = other.1.isDatabase) (query : Metric) (key : String) :
    backend.find query key state = backend.find query key other := by
  cases known : query.kind.isKnown with
  | false =>
      obtain ⟨name, unknown⟩ := Kind.exists_name known
      rw [find_unknown unknown, find_unknown unknown]
  | true =>
      obtain ⟨series, isKind, isId⟩ := Metric.exists_series known
      refine (holds.find_series isKind isId key state.2).trans ?_
      rw [reread_congr sameKind]
      exact (otherHolds.find_series isKind isId key other.2).symm

theorem Holds.all_congr (holds : state.1.Holds ledger) (otherHolds : other.1.Holds ledger)
    (sameKind : state.1.isDatabase = other.1.isDatabase) :
    (backend.all state).map Multiset.ofList = (backend.all other).map Multiset.ofList := by
  obtain ⟨listed, lists, nodup, mem_iff⟩ := holds.exists_all state.2
  obtain ⟨otherListed, otherLists, otherNodup, other_mem_iff⟩ := otherHolds.exists_all other.2
  have perm : listed.Perm otherListed := by
    rw [List.perm_ext_iff_of_nodup nodup otherNodup]
    intro metric
    rw [mem_iff, other_mem_iff, reread_congr sameKind]
  have answers : backend.all state = .ok listed := lists
  have otherAnswers : backend.all other = .ok otherListed := otherLists
  rw [answers, otherAnswers]
  exact congrArg Except.ok (Multiset.coe_eq_coe.mpr perm)

theorem Represents.holds (represents : Represents state ledger) : state.1.Holds ledger := by
  obtain ⟨storage, disk⟩ := state
  cases storage with
  | file store => exact FileStore.Keeps.represents represents
  | database path table =>
      have isTable : table.Represents ledger := represents
      show table.writable.Represents ledger
      rw [Table.writable_eq isTable.writable]
      exact isTable
  | keyValue store => exact represents

theorem isDatabase_reply (call : StorageCall) (state : Storage × Disk) :
    (backend.reply call state).2.1.isDatabase = state.1.isDatabase :=
  isDatabase_after [.called call] state

theorem Represents.replies_congr (calls : List StorageCall) (represents : Represents state ledger)
    (otherRepresents : Represents other ledger)
    (sameKind : state.1.isDatabase = other.1.isDatabase) :
    backend.replies calls state = backend.replies calls other := by
  -- The states may differ, so what is carried from call to call is that they stand for one ledger.
  induction calls generalizing state other ledger with
  | nil => rfl
  | cons call calls induction =>
      have sameKindThen : (backend.reply call state).2.1.isDatabase =
          (backend.reply call other).2.1.isDatabase := by
        rw [isDatabase_reply, isDatabase_reply, sameKind]
      have goesOn : (backend.reply call state).1 = (backend.reply call other).1 ∧
          ∃ next, Represents (backend.reply call state).2 next ∧
            Represents (backend.reply call other).2 next := by
        cases call with
        | save metric key =>
            obtain ⟨result, next⟩ := simulation.save metric key represents
            obtain ⟨otherResult, otherNext⟩ := simulation.save metric key otherRepresents
            exact ⟨congrArg StorageReply.saved (result.trans otherResult.symm), _, next, otherNext⟩
        | saveMany metrics key =>
            obtain ⟨result, next⟩ := simulation.saveMany metrics key represents
            obtain ⟨otherResult, otherNext⟩ := simulation.saveMany metrics key otherRepresents
            exact ⟨congrArg StorageReply.saved (result.trans otherResult.symm), _, next, otherNext⟩
        | find query key =>
            have found := represents.holds.find_congr otherRepresents.holds sameKind query key
            exact ⟨congrArg StorageReply.found found, ledger, represents, otherRepresents⟩
        | all =>
            have listed := represents.holds.all_congr otherRepresents.holds sameKind
            exact ⟨congrArg StorageReply.listed listed, ledger, represents, otherRepresents⟩
      obtain ⟨sameReply, next, representsThen, otherRepresentsThen⟩ := goesOn
      rw [Backend.replies, Backend.replies]
      exact congrArg₂ List.cons sameReply
        (induction representsThen otherRepresentsThen sameKindThen)

end Congruence

theorem saveMany_file (metrics : List Metric) (key : String) (store : FileStore) (disk : Disk) :
    backend.saveMany key metrics (.file store, disk) =
      ((FileStore.backend.saveMany key metrics (store, disk)).1,
        .file (FileStore.backend.saveMany key metrics (store, disk)).2.1,
        (FileStore.backend.saveMany key metrics (store, disk)).2.2) :=
  @Backend.saveMany_within _ _ FileStore.backend backend
    (fun state => (.file state.1, state.2)) (fun _ _ _ => rfl) metrics key (store, disk)

theorem saveMany_database (metrics : List Metric) (key : String) (path : Option String)
    (table : Table) (disk : Disk) :
    backend.saveMany key metrics (.database path table, disk) =
      ((Table.backend.saveMany key metrics table).1,
        .database path (Table.backend.saveMany key metrics table).2, disk) :=
  @Backend.saveMany_within _ _ Table.backend backend
    (fun table => (.database path table, disk)) (fun _ _ _ => rfl) metrics key table

theorem saveMany_keyValue (metrics : List Metric) (key : String) (store : RecordStore)
    (disk : Disk) :
    backend.saveMany key metrics (.keyValue store, disk) =
      ((KeyValue.backend.saveMany key metrics store).1,
        .keyValue (KeyValue.backend.saveMany key metrics store).2, disk) :=
  @Backend.saveMany_within _ _ KeyValue.backend backend
    (fun store => (.keyValue store, disk)) (fun _ _ _ => rfl) metrics key store

theorem IsWritable.saveMany (writable : IsWritable state) (holds : state.1.Holds ledger)
    (metrics : List Metric) (key : String) :
    (backend.saveMany key metrics state).1 = (ledger.saveMany key metrics).1 := by
  obtain ⟨storage, disk⟩ := state
  cases storage with
  | file store =>
      obtain ⟨final, after, outcome, -⟩ := FileStore.exists_saveMany holds writable metrics key
      rw [saveMany_file, outcome]
  | database path table =>
      rw [Holds, Table.writable_eq writable] at holds
      rw [saveMany_database]
      exact (Table.simulation.saveMany metrics key holds).1
  | keyValue store =>
      rw [saveMany_keyValue]
      exact (KeyValue.simulation.saveMany metrics key holds).1

/-- Two states that no call tells apart, with the same on the disk and to be written there. -/
structure SameView (state other : Storage × Disk) : Prop where
  replies : ∀ calls, backend.replies calls state = backend.replies calls other
  disk : state.2 = other.2
  snapshot : ∀ disk, state.1.snapshot disk = other.1.snapshot disk

theorem SameView.refl (state : Storage × Disk) : SameView state state :=
  ⟨fun _ => rfl, rfl, fun _ => rfl⟩

/-- Lists that leave the ledger the same leave storage the same, as far as can be seen. -/
theorem IsWritable.sameView (writable : IsWritable state) (holds : state.1.Holds ledger)
    (some : metrics ≠ []) (otherSome : others ≠ [])
    (taken : (ledger.saveMany key metrics).1 = .ok ())
    (otherTaken : (ledger.saveMany key others).1 = .ok ())
    (same : (ledger.saveMany key metrics).2 = (ledger.saveMany key others).2) :
    SameView (backend.saveMany key metrics state).2 (backend.saveMany key others state).2 := by
  obtain ⟨storage, disk⟩ := state
  cases storage with
  | file store =>
      obtain ⟨final, after, outcome, represents, isFile, interval, isSettled⟩ :=
        FileStore.exists_saveMany holds writable metrics key
      obtain ⟨otherFinal, otherAfter, otherOutcome, otherRepresents, otherFile, otherInterval,
        otherIsSettled⟩ := FileStore.exists_saveMany holds writable others key
      obtain rfl : final = otherFinal :=
        FileStore.eq_of_represents (same ▸ represents) otherRepresents
          (isFile.trans otherFile.symm) (interval.trans otherInterval.symm)
      obtain rfl : after = otherAfter :=
        (isSettled taken some).trans (otherIsSettled otherTaken otherSome).symm
      rw [saveMany_file, saveMany_file, outcome, otherOutcome]
      exact .refl _
  | database path table =>
      rw [Holds, Table.writable_eq writable] at holds
      have represents := (Table.simulation.saveMany metrics key holds).2
      have otherRepresents := (Table.simulation.saveMany others key holds).2
      rw [saveMany_database, saveMany_database]
      refine ⟨fun calls => ?_, rfl, fun _ => rfl⟩
      exact Represents.replies_congr calls (same ▸ represents) otherRepresents rfl
  | keyValue store =>
      have represents := (KeyValue.simulation.saveMany metrics key holds).2
      have otherRepresents := (KeyValue.simulation.saveMany others key holds).2
      rw [saveMany_keyValue, saveMany_keyValue]
      refine ⟨fun calls => ?_, rfl, fun _ => rfl⟩
      exact Represents.replies_congr calls (same ▸ represents) otherRepresents rfl

/-- Two lists are taken in alike: both or neither, and if so with the same to be seen. -/
structure Alike (outcome other : Except Failure Unit × Storage × Disk) : Prop where
  success : outcome.1 = .ok () ↔ other.1 = .ok ()
  view : outcome.1 = .ok () → SameView outcome.2 other.2

theorem Alike.refl (outcome : Except Failure Unit × Storage × Disk) : Alike outcome outcome :=
  ⟨Iff.rfl, fun _ => .refl outcome.2⟩

theorem not_saveMany_of_not_isWritable (stuck : ¬ IsWritable state) (some : metrics ≠ []) :
    (backend.saveMany key metrics state).1 ≠ .ok () := by
  cases metrics with
  | nil => exact absurd rfl some
  | cons metric metrics =>
      obtain ⟨failure, failed⟩ := exists_failure_of_not_isWritable stuck metric key
      rw [Backend.saveMany]
      revert failed
      obtain ⟨result, next⟩ := backend.save metric key state
      rintro rfl
      exact error_ne_ok

theorem Holds.alike (holds : state.1.Holds ledger)
    (admitted : ∀ metric ∈ metrics, metric.admit key = .ok ()) (perm : metrics.Perm others)
    (settings : ∀ id before, Metric.setting id before metrics = Metric.setting id before others)
    (bears_iff : ledger.Bears metrics ↔ ledger.Bears others) :
    Alike (backend.saveMany key metrics state) (backend.saveMany key others state) := by
  have otherAdmitted : ∀ metric ∈ others, metric.admit key = .ok () :=
    fun metric member => admitted metric (perm.mem_iff.mpr member)
  by_cases none : metrics = []
  · subst none
    obtain rfl := perm.nil_eq
    exact .refl _
  have otherSome : others ≠ [] := fun empty => none (empty ▸ perm).eq_nil
  by_cases writable : IsWritable state
  · have success := writable.saveMany holds metrics key
    have otherSuccess := writable.saveMany holds others key
    have both : (ledger.saveMany key metrics).1 = .ok () ↔
        (ledger.saveMany key others).1 = .ok () := by
      rw [Ledger.saveMany_eq_ok_iff admitted, bears_iff, Ledger.saveMany_eq_ok_iff otherAdmitted]
    constructor
    · rw [success, otherSuccess, both]
    · intro done
      have taken := success.symm.trans done
      refine writable.sameView holds none otherSome taken (both.mp taken) ?_
      exact Ledger.eq_of_saveMany perm settings (Prod.ext taken rfl) (Prod.ext (both.mp taken) rfl)
  · constructor
    · exact iff_of_false (not_saveMany_of_not_isWritable writable none)
        (not_saveMany_of_not_isWritable writable otherSome)
    · exact fun done => absurd done (not_saveMany_of_not_isWritable writable none)

/-- Only the order among the metrics of one kind and id matters to a batch. Where all are counters
and no order takes a sum out of its range, no order matters, and no order fails but for the sake of
a file or of a database that can only be read. -/
theorem Reachable.saveMany_reordered (reachable : Reachable state)
    (admitted : ∀ metric ∈ metrics, metric.admit key = .ok ()) :
    (∀ others, Metric.Reordered metrics others →
      Alike (backend.saveMany key metrics state) (backend.saveMany key others state)) ∧
    ((∀ metric ∈ metrics, metric.kind = .counter) →
      (∀ order early, metrics.Perm order → early <+: order →
        ∀ id, Counter.Fits (backend.sum id state + Metric.gains id early)) →
      ∀ others, metrics.Perm others →
        Alike (backend.saveMany key metrics state) (backend.saveMany key others state) ∧
          ∀ failure, (backend.saveMany key others state).1 = .error failure →
            failure.IsOutside) := by
  obtain ⟨ledger, holds⟩ := reachable.exists_holds
  constructor
  · intro others reordered
    apply holds.alike admitted reordered.perm reordered.setting_eq
    constructor
    · exact fun bears => bears.reordered reordered
    · exact fun bears => bears.reordered reordered.symm
  · intro counters fits others perm
    have bears : ∀ order, metrics.Perm order → ledger.Bears order := by
      intro order isOrder early isPrefix id
      rw [← holds.sum_eq id state.2]
      exact fits order early isOrder isPrefix id
    have otherCounters : ∀ metric ∈ others, metric.kind = .counter :=
      fun metric member => counters metric (perm.mem_iff.mpr member)
    constructor
    · refine holds.alike admitted perm (fun id before => ?_) ?_
      · rw [Metric.setting_of_counters counters, Metric.setting_of_counters otherCounters]
      · exact iff_of_true (bears metrics (.refl metrics)) (bears others perm)
    · intro failure failed
      refine holds.isOutside_of_saveMany ?_ failed
      rw [Ledger.saveMany_eq_ok_iff fun metric member => admitted metric (perm.mem_iff.mpr member)]
      exact bears others perm

theorem reordered_namesakes :
    Metric.Reordered [.counter "a" 1, .gauge "a" .infinity, .counter "a" (-3)]
      [.gauge "a" .infinity, .counter "a" 1, .counter "a" (-3)] where
  perm := .swap _ _ _
  inOrder kind id := by
    cases kind with
    | gauge => rfl
    | counter => rfl
    | unknown name => rfl

/-- In either order the sums are small. -/
theorem fits_ofEitherOrder {order early : List Metric}
    (perm : [Metric.counter "a" 1, .counter "a" (-3)].Perm order) (isPrefix : early <+: order)
    (id : String) : Counter.Fits (0 + Metric.gains id early) := by
  have gain : ∀ delta, (Metric.counter "a" delta).gain id = delta.toInt ∨
      (Metric.counter "a" delta).gain id = 0 := fun delta => ite_eq_or_eq _ _ _
  have first : _ = (1 : Int) ∨ _ := gain 1
  have second : _ = (-3 : Int) ∨ _ := gain (-3)
  rw [Counter.Fits]
  rcases List.pair_perm.mp perm with rfl | rfl
  all_goals
    simp only [List.prefix_cons_iff, List.prefix_nil] at isPrefix
    rcases isPrefix with rfl | ⟨_, rfl, rfl | ⟨_, rfl, rfl⟩⟩
    all_goals
      simp only [Metric.gains_cons, Metric.gains_nil]
      omega

theorem saveMany_reordered_namesakes :
    Reachable (.database none .empty, .empty) ∧
      Alike (backend.saveMany "" [.counter "a" 1, .gauge "a" .infinity, .counter "a" (-3)]
          (.database none .empty, .empty))
        (backend.saveMany "" [.gauge "a" .infinity, .counter "a" 1, .counter "a" (-3)]
          (.database none .empty, .empty)) ∧
      Alike (backend.saveMany "" [.counter "a" 1, .counter "a" (-3)]
          (.database none .empty, .empty))
        (backend.saveMany "" [.counter "a" (-3), .counter "a" 1]
          (.database none .empty, .empty)) := by
  have reachable : Reachable (.database none .empty, .empty) := .database none .empty
  have admitted : ∀ metric ∈ [Metric.counter "a" 1, .gauge "a" .infinity, .counter "a" (-3)],
      metric.admit "" = .ok () := by decide
  have countersAdmitted : ∀ metric ∈ [Metric.counter "a" 1, .counter "a" (-3)],
      metric.admit "" = .ok () := by decide
  have counters : ∀ metric ∈ [Metric.counter "a" 1, .counter "a" (-3)],
      metric.kind = .counter := by decide
  have empty : ∀ id, backend.sum id (.database none .empty, .empty) = 0 := fun id => rfl
  refine ⟨reachable, (reachable.saveMany_reordered admitted).1 _ reordered_namesakes, ?_⟩
  refine ((reachable.saveMany_reordered countersAdmitted).2 counters ?_ _ (.swap _ _ _)).1
  intro order early perm isPrefix id
  rw [empty]
  exact fits_ofEitherOrder perm isPrefix id

end Storage

end Telemetry
