import Telemetry.Proofs.Storage.Atomicity

namespace Telemetry

open Telemetry

/-! What is found of what was saved. Whatever signature came with it, a metric is found without one,
and signed under the key that it is asked for with. -/

namespace Series

theorem kind_metric (series : Series) (reading : series.Reading) :
    (series.metric reading).kind = series.kind := by
  cases series <;> rfl

theorem id_metric (series : Series) (reading : series.Reading) :
    (series.metric reading).id = series.id := by
  cases series <;> rfl

theorem hash_metric (series : Series) (reading : series.Reading) :
    (series.metric reading).hash = none := by
  cases series <;> rfl

theorem isSome_value_metric (series : Series) (reading : series.Reading) :
    (series.metric reading).value.isSome = true ↔ series.kind = .gauge := by
  cases series with
  | gauge id => exact iff_of_true rfl rfl
  | counter id => exact iff_of_false Bool.false_ne_true fun same => by cases same

theorem isSome_delta_metric (series : Series) (reading : series.Reading) :
    (series.metric reading).delta.isSome = true ↔ series.kind = .counter := by
  cases series with
  | gauge id => exact iff_of_false Bool.false_ne_true fun same => by cases same
  | counter id => exact iff_of_true rfl rfl

theorem validate_metric (series : Series) (reading : series.Reading) :
    (series.metric reading).validate = .ok () := by
  cases series <;> rfl

end Series

theorem Kind.exists_name {kind : Kind} (unknown : kind.isKnown = false) :
    ∃ name, kind = .unknown name := by
  cases kind with
  | gauge => cases unknown
  | counter => cases unknown
  | unknown name => exact ⟨name, rfl⟩

theorem Metric.exists_series {query : Metric} (known : query.kind.isKnown = true) :
    ∃ series : Series, query.kind = series.kind ∧ query.id = series.id := by
  cases kind : query.kind with
  | gauge => exact ⟨.gauge query.id, rfl, rfl⟩
  | counter => exact ⟨.counter query.id, rfl, rfl⟩
  | unknown name =>
      rw [kind] at known
      cases known

/-- A metric as it was asked for: only the field of its kind is set, and it is signed just now. -/
structure Metric.Answers (query : Metric) (key : String) (found : Metric) : Prop where
  kind : found.kind = query.kind
  id : found.id = query.id
  value : found.value.isSome = true ↔ query.kind = .gauge
  delta : found.delta.isSome = true ↔ query.kind = .counter
  unsigned : key = "" → found.hash = none
  signed : key ≠ "" → ∃ text, found.canonical = .ok text ∧
    found.hash = some (Signature.sign text key)
  verifies : Signature.verify found key = .ok ()

theorem Series.exists_answer {query : Metric} {series : Series}
    (sameKind : query.kind = series.kind) (sameId : query.id = series.id)
    (reading : series.Reading) (key : String) :
    ∃ found, query.answer (some (series.metric reading)) key = .ok found ∧
      query.Answers key found := by
  have valid := series.validate_metric reading
  obtain ⟨text, canonical⟩ := Signature.canonical_of_validate valid
  obtain ⟨found, attached⟩ := Signature.attach_of_validate valid key
  refine ⟨found, attached, ?_⟩
  have verifies := Signature.verify_attach attached canonical
  obtain ⟨hash, rfl⟩ := Signature.isSigned_of_attach attached
  constructor
  · exact (series.kind_metric reading).trans sameKind.symm
  · exact (series.id_metric reading).trans sameId.symm
  · rw [sameKind]
    exact series.isSome_value_metric reading
  · rw [sameKind]
    exact series.isSome_delta_metric reading
  · intro unkeyed
    rw [Signature.attach, if_pos unkeyed] at attached
    rw [← Except.ok.inj attached, series.hash_metric reading]
  · intro keyed
    rw [Signature.attach_eq keyed canonical] at attached
    rw [← Except.ok.inj attached]
    exact ⟨text, canonical, rfl⟩
  · exact verifies

/-- A metric that was given to storage, and what storage answered. -/
structure Attempt where
  metric : Metric
  answer : Except Failure Unit

namespace Attempt

def Concerns (attempt : Attempt) (query : Metric) : Prop :=
  attempt.metric.kind = query.kind ∧ attempt.metric.id = query.id

/-- Whether the metric was saved. It was also if only its snapshot failed. -/
def TakesEffect (attempt : Attempt) : Prop :=
  ∀ failure, attempt.answer = .error failure → failure.isIo = true

theorem takesEffect_ok (metric : Metric) : (Attempt.mk metric (.ok ())).TakesEffect := by
  intro failure failed
  cases failed

theorem takesEffect_iff {attempt : Attempt} (withoutIo : WithoutIo attempt.answer) :
    attempt.TakesEffect ↔ attempt.answer = .ok () := by
  constructor
  · intro effect
    cases answer : attempt.answer with
    | ok saved => rfl
    | error failure =>
        have notIo := withoutIo failure answer
        rw [effect failure answer] at notIo
        cases notIo
  · intro saved failure failed
    rw [saved] at failed
    cases failed

theorem concerns_iff {attempt : Attempt} {query : Metric} {series : Series}
    (sameKind : query.kind = series.kind) (sameId : query.id = series.id) :
    attempt.Concerns query ↔ series.names attempt.metric = true := by
  rw [Concerns, sameKind, sameId]
  exact decide_eq_true_iff.symm

end Attempt

/-- The metrics of a batch are given to storage one after the other, until one is refused. -/
def Backend.attempts {State : Type} (backend : Backend State) (key : String) :
    List Metric → State → List Attempt
  | [], _ => []
  | metric :: metrics, state =>
    match backend.save metric key state with
    | (.ok (), state) => ⟨metric, .ok ()⟩ :: backend.attempts key metrics state
    | (.error failure, _) => [⟨metric, .error failure⟩]

namespace Storage

/-- Storage that nothing was saved in yet. -/
inductive IsFresh : Storage → Prop where
  | file (storeFile : Option String) (interval : Duration) :
      IsFresh (.file (.empty storeFile interval))
  | database (path : Option String) : IsFresh (.database path .empty)
  | keyValue : IsFresh (.keyValue .empty)

def Event.attempts : Event → Storage × Disk → List Attempt
  | .called (.save metric key), state => [⟨metric, (backend.save metric key state).1⟩]
  | .called (.saveMany metrics key), state => backend.attempts key metrics state
  | _, _ => []

def attempts : List Event → Storage × Disk → List Attempt
  | [], _ => []
  | event :: events, state => event.attempts state ++ attempts events (event.happen state)

theorem Holds.exists_next {state : Storage × Disk} {ledger : Ledger} (holds : state.1.Holds ledger)
    (metric : Metric) (key : String) :
    ∃ next, (backend.save metric key state).2.1.Holds next ∧ ∀ series : Series,
      (next.lookup series).isSome = true ↔ (ledger.lookup series).isSome = true ∨
        series.names metric = true ∧
          (Attempt.mk metric (backend.save metric key state).1).TakesEffect := by
  -- To the ledger, an attempt that takes effect is a save, and any other is nothing.
  have taken (effect : (Attempt.mk metric (backend.save metric key state).1).TakesEffect)
      (saved : (ledger.save metric key).1 = .ok ()) (series : Series) :
      ((ledger.save metric key).2.lookup series).isSome = true ↔
        (ledger.lookup series).isSome = true ∨ series.names metric = true ∧
          (Attempt.mk metric (backend.save metric key state).1).TakesEffect := by
    rw [Ledger.isSome_lookup_save_iff saved, or_comm, and_iff_left effect]
  cases answer : (backend.save metric key state).1 with
  | ok saved =>
      rw [answer] at taken
      obtain ⟨stored, holdsThen⟩ := holds.save_of_ok answer
      exact ⟨_, holdsThen, taken (Attempt.takesEffect_ok metric) stored⟩
  | error failure =>
      rw [answer] at taken
      cases io : failure.isIo with
      | true =>
          obtain ⟨stored, holdsThen⟩ := holds.save_of_failed answer io
          refine ⟨_, holdsThen, taken ?_ stored⟩
          rintro _ ⟨⟩
          exact io
      | false =>
          refine ⟨ledger, ?_, fun series => ?_⟩
          · rw [snd_of_failed_save answer io]
            exact holds
          · refine (or_iff_left fun effect => ?_).symm
            rw [effect.2 failure rfl] at io
            cases io

/-- Storage holds the series of what it was given and took, and no others. -/
def Records (storage : Storage) (tried : List Attempt) : Prop :=
  ∃ ledger, storage.Holds ledger ∧ ∀ series : Series,
    (ledger.lookup series).isSome = true ↔
      ∃ attempt ∈ tried, series.names attempt.metric = true ∧ attempt.TakesEffect

theorem IsFresh.records {storage : Storage} (fresh : storage.IsFresh) : storage.Records [] := by
  have nothing : ∀ series : Series, ((∅ : Ledger).lookup series).isSome = true ↔
      ∃ attempt : Attempt, attempt ∈ [] ∧ series.names attempt.metric = true ∧
        attempt.TakesEffect := by
    intro series
    rw [Finmap.lookup_empty]
    simp
  cases fresh with
  | file storeFile interval =>
      exact ⟨∅, FileStore.represents_empty storeFile interval, nothing⟩
  | database path => exact ⟨∅, Table.represents_empty, nothing⟩
  | keyValue => exact ⟨∅, KeyValue.represents_empty, nothing⟩

namespace Records

variable {tried : List Attempt} {state : Storage × Disk}

theorem save (records : state.1.Records tried) (metric : Metric) (key : String) :
    (backend.save metric key state).2.1.Records
      (tried ++ [⟨metric, (backend.save metric key state).1⟩]) := by
  obtain ⟨ledger, holds, known⟩ := records
  obtain ⟨next, holdsThen, knownThen⟩ := holds.exists_next metric key
  refine ⟨next, holdsThen, fun series => ?_⟩
  rw [knownThen, known]
  simp only [List.mem_append, List.mem_singleton, or_and_right, exists_or, exists_eq_left]

theorem saveMany (records : state.1.Records tried) (metrics : List Metric) (key : String) :
    (backend.saveMany key metrics state).2.1.Records
      (tried ++ backend.attempts key metrics state) := by
  induction metrics generalizing tried state with
  | nil =>
      rw [Backend.attempts, List.append_nil]
      exact records
  | cons metric metrics induction =>
      have recordsThen := records.save metric key
      rw [Backend.saveMany, Backend.attempts]
      revert recordsThen
      obtain ⟨answer, next⟩ := backend.save metric key state
      intro recordsThen
      cases answer with
      | error failure => exact recordsThen
      | ok saved =>
          have all := induction recordsThen
          rw [List.append_assoc] at all
          exact all

theorem happen (records : state.1.Records tried) (event : Event) :
    (event.happen state).1.Records (tried ++ event.attempts state) := by
  cases event with
  | changed disk => exact (List.append_nil tried).symm ▸ records
  | called call =>
      cases call with
      | save metric key => exact records.save metric key
      | saveMany metrics key => exact records.saveMany metrics key
      | find query key => exact (List.append_nil tried).symm ▸ records
      | all => exact (List.append_nil tried).symm ▸ records

theorem after (records : state.1.Records tried) (events : List Event) :
    (after events state).1.Records (tried ++ attempts events state) := by
  induction events generalizing tried state with
  | nil =>
      rw [attempts, List.append_nil]
      exact records
  | cons event events induction =>
      have all := induction (records.happen event)
      rw [List.append_assoc] at all
      exact all

end Records

theorem find_unknown {query : Metric} {name : String} (unknown : query.kind = .unknown name)
    (key : String) (state : Storage × Disk) :
    backend.find query key state = .error (.notFound (.unknownKind query.id name)) := by
  have refusal : query.admitQuery = .error (.notFound (.unknownKind query.id name)) := by
    simp only [Metric.admitQuery, unknown]
  obtain ⟨storage, disk⟩ := state
  cases storage with
  | file store => exact congrArg (· >>= _) refusal
  | database path table => exact congrArg (· >>= _) refusal
  | keyValue store => exact congrArg (· >>= _) refusal

/-- What a query finds in storage that began with nothing in it. -/
structure Finds (tried : List Attempt) (state : Storage × Disk) (query : Metric) (key : String) :
    Prop where
  missing_iff : (∃ cause, backend.find query key state = .error (.notFound cause)) ↔
    query.kind.isKnown = false ∨ ∀ attempt ∈ tried, attempt.Concerns query → ¬ attempt.TakesEffect
  failure : ∀ failure, backend.find query key state = .error failure →
    ∃ cause, failure = .notFound cause
  found : ∀ found, backend.find query key state = .ok found → query.Answers key found

section

variable {tried : List Attempt} {state : Storage × Disk} {query : Metric} {key : String}

theorem finds_of_refused {cause : Absence}
    (refused : backend.find query key state = .error (.notFound cause))
    (unsaved : query.kind.isKnown = false ∨
      ∀ attempt ∈ tried, attempt.Concerns query → ¬ attempt.TakesEffect) :
    Finds tried state query key where
  missing_iff := iff_of_true ⟨cause, refused⟩ unsaved
  failure failure failed := by
    rw [refused] at failed
    exact ⟨cause, (Except.error.inj failed).symm⟩
  found found finds := by
    rw [refused] at finds
    cases finds

theorem finds_of_answer {found : Metric} (finds : backend.find query key state = .ok found)
    (answers : query.Answers key found)
    (saved : ¬ (query.kind.isKnown = false ∨
      ∀ attempt ∈ tried, attempt.Concerns query → ¬ attempt.TakesEffect)) :
    Finds tried state query key where
  missing_iff := by
    refine iff_of_false ?_ saved
    rintro ⟨cause, refused⟩
    rw [finds] at refused
    cases refused
  failure failure failed := by
    rw [finds] at failed
    cases failed
  found other otherFinds := by
    rw [finds] at otherFinds
    rw [← Except.ok.inj otherFinds]
    exact answers

theorem Records.finds (records : state.1.Records tried) (query : Metric) (key : String) :
    Finds tried state query key := by
  cases known : query.kind.isKnown with
  | false =>
      obtain ⟨name, unknown⟩ := Kind.exists_name known
      exact finds_of_refused (find_unknown unknown key state) (.inl known)
  | true =>
      obtain ⟨ledger, holds, recorded⟩ := records
      obtain ⟨series, sameKind, sameId⟩ := Metric.exists_series known
      have looked := holds.find_series sameKind sameId key state.2
      have absent_iff : ledger.lookup series = none ↔ query.kind.isKnown = false ∨
          ∀ attempt ∈ tried, attempt.Concerns query → ¬ attempt.TakesEffect := by
        rw [← Option.not_isSome_iff_eq_none, recorded]
        simp [known, Attempt.concerns_iff sameKind sameId]
      cases held : ledger.lookup series with
      | none =>
          rw [held] at looked
          exact finds_of_refused looked (absent_iff.mp held)
      | some reading =>
          rw [held] at looked
          obtain ⟨found, answer, answers⟩ :=
            Series.exists_answer sameKind sameId (state.1.reread series reading) key
          apply finds_of_answer (looked.trans answer) answers
          rw [← absent_iff, held]
          exact Option.some_ne_none reading

end

/-- Whatever was given to storage with whatever keys and signatures, a metric is found exactly if
one of its kind and id was saved. It then is as it was asked for, and signed under the key that it
was asked for with. Unless a snapshot failed, what was saved is what was answered with success. -/
theorem IsFresh.finds_after {origin : Storage} (fresh : origin.IsFresh) (disk : Disk)
    (events : List Event) (query : Metric) (key : String) :
    Finds (attempts events (origin, disk)) (after events (origin, disk)) query key ∧
      ((∀ attempt ∈ attempts events (origin, disk), WithoutIo attempt.answer) →
        ((∃ cause, backend.find query key (after events (origin, disk)) =
            .error (.notFound cause)) ↔
          query.kind.isKnown = false ∨ ∀ attempt ∈ attempts events (origin, disk),
            attempt.Concerns query → attempt.answer ≠ .ok ())) := by
  have records : (origin, disk).1.Records [] := fresh.records
  have finds := (records.after events).finds query key
  refine ⟨finds, fun withoutIo => finds.missing_iff.trans ?_⟩
  apply or_congr_right
  refine forall₂_congr fun attempt member => ?_
  rw [Attempt.takesEffect_iff (withoutIo attempt member)]

/-- A gauge that comes with something else than a signature. -/
def forged (id : String) : Metric := { Metric.gauge id .infinity with hash := some "zz" }

def forgedEvents : List Event :=
  [.called (.save (forged "g") ""), .called (.saveMany [.counter "g" 1, forged "h"] "k")]

theorem finds_after_forged :
    IsFresh (.keyValue .empty) ∧
      (∃ found, backend.find (.query "g" .gauge) "k"
        (after forgedEvents (.keyValue .empty, .empty)) = .ok found ∧
          (Metric.query "g" .gauge).Answers "k" found) ∧
      (∀ attempt ∈ attempts forgedEvents (.keyValue .empty, .empty), WithoutIo attempt.answer) ∧
      ∃ cause, backend.find (.query "h" .gauge) "k"
        (after forgedEvents (.keyValue .empty, .empty)) = .error (.notFound cause) := by
  have tried : attempts forgedEvents (.keyValue .empty, .empty) =
      [⟨forged "g", .ok ()⟩, ⟨.counter "g" 1, .ok ()⟩,
        ⟨forged "h", .error (.badRequest (.malformedSignature "h"))⟩] := by
    rfl
  have fresh : IsFresh (.keyValue .empty) := .keyValue
  have withoutIo : ∀ attempt ∈ attempts forgedEvents (.keyValue .empty, .empty),
      WithoutIo attempt.answer := by
    rw [tried]
    simp only [List.forall_mem_cons]
    exact ⟨.ok (), .ok (), .error rfl, List.forall_mem_nil _⟩
  have gauge := (fresh.finds_after .empty forgedEvents (.query "g" .gauge) "k").1
  have absent := (fresh.finds_after .empty forgedEvents (.query "h" .gauge) "k").2 withoutIo
  refine ⟨fresh, ?_, withoutIo, absent.mpr (.inr ?_)⟩
  · cases finds : backend.find (.query "g" .gauge) "k"
        (after forgedEvents (.keyValue .empty, .empty)) with
    | ok found => exact ⟨found, rfl, gauge.found found finds⟩
    | error failure =>
        obtain ⟨cause, rfl⟩ := gauge.failure failure finds
        rcases gauge.missing_iff.mp ⟨cause, finds⟩ with unknown | unsaved
        · cases unknown
        · have saved := unsaved _ (tried ▸ List.mem_cons_self) ⟨rfl, rfl⟩
          exact absurd (Attempt.takesEffect_ok (forged "g")) saved
  · rw [tried]
    simp [Attempt.Concerns, Metric.query, forged, Metric.gauge, Metric.counter]

/-- The metric is found although the only attempt to save it was answered with a failure. -/
theorem not_forall_finds_after :
    ¬ ∀ (origin : Storage) (disk : Disk) (events : List Event) (query : Metric) (key : String),
      origin.IsFresh →
        ((∃ cause, backend.find query key (after events (origin, disk)) =
            .error (.notFound cause)) ↔
          query.kind.isKnown = false ∨ ∀ attempt ∈ attempts events (origin, disk),
            attempt.Concerns query → attempt.answer ≠ .ok ()) := by
  intro claimed
  have missing_iff := claimed blockedState.1 blockedState.2 [.called (.save (.counter "c" 5) "")]
    (.query "c" .counter) "" (.file _ _)
  have failed : (backend.save (.counter "c" 5) "" blockedState).1 =
      .error (.io (.system .isDirectory)) := rfl
  have tried : attempts [.called (.save (.counter "c" 5) "")] (blockedState.1, blockedState.2) =
      [⟨.counter "c" 5, .error (.io (.system .isDirectory))⟩] :=
    congrArg (fun answer => [Attempt.mk (.counter "c" 5) answer]) failed
  have found : backend.find (.query "c" .counter) ""
      (after [.called (.save (.counter "c" 5) "")] (blockedState.1, blockedState.2)) =
      .ok (.counter "c" 5) := rfl
  rw [tried, found] at missing_iff
  obtain ⟨cause, refused⟩ := missing_iff.mpr (.inr (by simp))
  cases refused

end Storage

end Telemetry
