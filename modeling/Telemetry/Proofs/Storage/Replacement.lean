import Telemetry.Proofs.Storage.Synchronous

namespace Telemetry

open Telemetry

/-! The file of a store while snapshots replace it. A snapshot is written beside the file, octets at
a time, and takes the place of the file in one step; any step may fail and any may be the last. The
loss of the last octets may go unnoticed where the medium does not tell of it. A call is carried on
until it is answered or everything stops. -/

namespace Disk

def content? (disk : Disk) (path : String) : Option Bytes := (disk.read path).toOption

theorem content?_eq_some {disk : Disk} {path : String} {content : Bytes} :
    disk.content? path = some content ↔ disk.read path = .ok content := by
  rw [content?]
  cases disk.read path with
  | error cause => exact iff_of_false nofun nofun
  | ok held => exact ⟨fun same => congrArg _ (Option.some.inj same), fun same => by cases same; rfl⟩

end Disk

namespace FileStore

theorem content?_of_write_draft {path : String} {disk written : Disk} {part : Bytes}
    (writes : disk.write (draftPath path) part = .ok written) :
    written.content? path = disk.content? path := by
  refine Option.ext fun held => ?_
  rw [Disk.content?_eq_some, Disk.content?_eq_some]
  exact read_write_draft writes

/-- How far a call to write a snapshot is. -/
inductive Snapshots.Stage where
  | idle
  | dumping (owed : Finset Series) (listed : List Metric)
  /-- The draft has been made, and some octets are still to be written to it. -/
  | writing (listed : List Metric) (left : Bytes)
  | synced (listed : List Metric)
  | leaving (result : Except Failure Nat)
  | returned (result : Except Failure Nat)

/-- A store with its file, and calls to write snapshots. -/
structure Snapshots (Caller : Type) where
  store : FileStore
  disk : Disk
  /-- Whose snapshot is being written. -/
  holder : Option Caller
  stage : Caller → Snapshots.Stage
  /-- What was saved, in this order. -/
  taken : List Metric
  /-- What had been saved when the last dump began. -/
  known : List Metric
  /-- The calls that replaced the file, in this order, with what each had dumped. -/
  replaced : List (Caller × List Metric)

namespace Snapshots

variable {Caller : Type}

def start (store : FileStore) (disk : Disk) : Snapshots Caller :=
  ⟨store, disk, none, fun _ => .idle, [], [], []⟩

/-- What is left of a call can fail: there is a draft to make, to write, to sync or to move. -/
inductive Stage.IsUnderway : Stage → Prop where
  | dumping (listed : List Metric) : IsUnderway (.dumping ∅ listed)
  | writing (listed : List Metric) (left : Bytes) : IsUnderway (.writing listed left)
  | synced (listed : List Metric) : IsUnderway (.synced listed)

inductive Step [DecidableEq Caller] (medium : Medium) (path : String)
    (snapshots : Snapshots Caller) : Snapshots Caller → Prop where
  | save (metric : Metric) (key : String) (changed : FileStore)
      (stored : (do metric.admit key; snapshots.store.apply metric) = .ok changed) :
      Step medium path snapshots
        { snapshots with store := changed, taken := snapshots.taken ++ [metric] }
  | acquire (caller : Caller) (idle : snapshots.stage caller = .idle)
      (free : snapshots.holder = none) :
      Step medium path snapshots
        { snapshots with
          holder := some caller
          stage := Function.update snapshots.stage caller (.dumping snapshots.store.series [])
          known := snapshots.taken }
  | visit (caller : Caller) (owed : Finset Series) (listed : List Metric)
      (dumping : snapshots.stage caller = .dumping owed listed) (series : Series) (metric : Metric)
      (found : snapshots.store.lookup series.kind series.id = some metric)
      (unlisted : listed.filter series.names = []) :
      Step medium path snapshots
        { snapshots with
          stage := Function.update snapshots.stage caller
            (.dumping (owed.erase series) (listed ++ [metric])) }
  /-- Makes the draft, or empties the one that is there. -/
  | create (caller : Caller) (listed : List Metric)
      (dumping : snapshots.stage caller = .dumping ∅ listed) (disk : Disk)
      (written : snapshots.disk.write (draftPath path) [] = .ok disk) :
      Step medium path snapshots
        { snapshots with
          disk := disk
          stage := Function.update snapshots.stage caller
            (.writing listed (snapshotText listed)) }
  | write (caller : Caller) (listed : List Metric) (part left : Bytes)
      (writing : snapshots.stage caller = .writing listed (part ++ left)) (held : Bytes)
      (holds : snapshots.disk.read (draftPath path) = .ok held) (disk : Disk)
      (written : snapshots.disk.write (draftPath path) (held ++ part) = .ok disk) :
      Step medium path snapshots
        { snapshots with
          disk := disk
          stage := Function.update snapshots.stage caller (.writing listed left) }
  /-- The draft is found good, though octets may be left that only seem to be written. -/
  | sync (caller : Caller) (listed : List Metric) (left : Bytes)
      (writing : snapshots.stage caller = .writing listed left) (missing : medium.mayMiss left) :
      Step medium path snapshots
        { snapshots with stage := Function.update snapshots.stage caller (.synced listed) }
  | replace (caller : Caller) (listed : List Metric)
      (synced : snapshots.stage caller = .synced listed) (disk : Disk)
      (renamed : snapshots.disk.rename (draftPath path) path = .ok disk) :
      Step medium path snapshots
        { snapshots with
          disk := disk
          stage := Function.update snapshots.stage caller (.leaving (.ok listed.length))
          replaced := snapshots.replaced ++ [(caller, listed)] }
  | fail (caller : Caller) (stage : Stage) (isAt : snapshots.stage caller = stage)
      (underway : stage.IsUnderway) (failure : Failure) :
      Step medium path snapshots
        { snapshots with
          stage := Function.update snapshots.stage caller (.leaving (.error failure)) }
  | release (caller : Caller) (result : Except Failure Nat)
      (leaving : snapshots.stage caller = .leaving result) :
      Step medium path snapshots
        { snapshots with
          holder := none
          stage := Function.update snapshots.stage caller (.returned result) }
  /-- Something is done to other files. -/
  | elsewhere (disk : Disk) (sameFile : disk.content? path = snapshots.disk.content? path)
      (sameDraft :
        disk.content? (draftPath path) = snapshots.disk.content? (draftPath path)) :
      Step medium path snapshots { snapshots with disk := disk }

/-- Any state that is reached may be the last. -/
inductive Reachable [DecidableEq Caller] (medium : Medium) (path : String)
    (first : Snapshots Caller) : Snapshots Caller → Prop where
  | start : Reachable medium path first first
  | step {snapshots next : Snapshots Caller} (reachable : Reachable medium path first snapshots)
      (step : Step medium path snapshots next) : Reachable medium path first next

def IsAbsent (snapshots : Snapshots Caller) (caller : Caller) : Prop :=
  ∀ listed, (caller, listed) ∉ snapshots.replaced

/-- A call was answered with success if it replaced the file, and with a failure if not. -/
def Answers (snapshots : Snapshots Caller) (caller : Caller) : Except Failure Nat → Prop
  | .ok count => ∃ listed, (caller, listed) ∈ snapshots.replaced ∧ listed.length = count
  | .error _ => snapshots.IsAbsent caller

/-- What is known of a call at a stage. -/
inductive Sound (medium : Medium) (start : Ledger) (path : String) (snapshots : Snapshots Caller)
    (caller : Caller) : Stage → Prop where
  | idle (absent : snapshots.IsAbsent caller) : Sound medium start path snapshots caller .idle
  | dumping {owed : Finset Series} {listed : List Metric}
      (holds : snapshots.holder = some caller) (absent : snapshots.IsAbsent caller)
      (dumped : Dumped start "" snapshots.known snapshots.taken owed listed) :
      Sound medium start path snapshots caller (.dumping owed listed)
  | writing {listed : List Metric} {left : Bytes} (holds : snapshots.holder = some caller)
      (absent : snapshots.IsAbsent caller)
      (dumped : Dumped start "" snapshots.known snapshots.taken ∅ listed) (written : Bytes)
      (draft : snapshots.disk.content? (draftPath path) = some written)
      (whole : written ++ left = snapshotText listed) :
      Sound medium start path snapshots caller (.writing listed left)
  | synced {listed : List Metric} (holds : snapshots.holder = some caller)
      (absent : snapshots.IsAbsent caller)
      (dumped : Dumped start "" snapshots.known snapshots.taken ∅ listed)
      (content : Bytes) (draft : snapshots.disk.content? (draftPath path) = some content)
      (found : medium.Holds listed content) :
      Sound medium start path snapshots caller (.synced listed)
  | leaving {result : Except Failure Nat} (holds : snapshots.holder = some caller)
      (answers : snapshots.Answers caller result) :
      Sound medium start path snapshots caller (.leaving result)
  | returned {result : Except Failure Nat} (answers : snapshots.Answers caller result) :
      Sound medium start path snapshots caller (.returned result)

/-- The content of a file after some calls have replaced it. -/
def Leaves (medium : Medium) (initial : Option Bytes) (replaced : List (Caller × List Metric))
    (content : Option Bytes) : Prop :=
  match replaced.getLast? with
  | none => content = initial
  | some last => ∃ written, medium.Holds last.2 written ∧ content = some written

theorem leaves_concat {medium : Medium} {initial : Option Bytes} {listed : List Metric}
    {written : Bytes} (found : medium.Holds listed written)
    (replaced : List (Caller × List Metric)) (caller : Caller) :
    Leaves medium initial (replaced ++ [(caller, listed)]) (some written) := by
  rw [Leaves, List.getLast?_concat]
  exact ⟨written, found, rfl⟩

/-- The file is what the medium made of the dump of the last call that replaced it, or what it was
at first; only the caller that holds the lock has to do with the draft. -/
structure Intact (medium : Medium) (start : Ledger) (path : String) (initial : Option Bytes)
    (snapshots : Snapshots Caller) : Prop where
  taken : ∃ ledger, start.saveMany "" snapshots.taken = (.ok (), ledger) ∧
    snapshots.store.Represents ledger
  known : snapshots.known <+: snapshots.taken
  content : Leaves medium initial snapshots.replaced (snapshots.disk.content? path)
  complete : ∀ entry ∈ snapshots.replaced, ∃ known, known <+: snapshots.taken ∧
    Dumped start "" known snapshots.taken ∅ entry.2
  distinct : (snapshots.replaced.map Prod.fst).Nodup
  sound : ∀ caller, Sound medium start path snapshots caller (snapshots.stage caller)

section

variable {medium : Medium} {start : Ledger} {path : String} {initial : Option Bytes}
  {snapshots next : Snapshots Caller} {caller : Caller} {stage : Stage}

theorem Sound.frame (sound : Sound medium start path snapshots caller stage)
    (taken : snapshots.taken <+: next.taken)
    (replaced : ∀ listed,
      (caller, listed) ∈ next.replaced ↔ (caller, listed) ∈ snapshots.replaced)
    (undisturbed : snapshots.holder = some caller →
      next.holder = some caller ∧ next.known = snapshots.known ∧
        next.disk.content? (draftPath path) = snapshots.disk.content? (draftPath path)) :
    Sound medium start path next caller stage := by
  have stillAbsent : snapshots.IsAbsent caller → next.IsAbsent caller :=
    fun absent listed member => absent listed ((replaced listed).mp member)
  have stillAnswers : ∀ {result}, snapshots.Answers caller result → next.Answers caller result := by
    intro result answers
    cases result with
    | ok count =>
        obtain ⟨listed, member, isCount⟩ := answers
        exact ⟨listed, (replaced listed).mpr member, isCount⟩
    | error failure => exact stillAbsent answers
  cases sound with
  | idle absent => exact .idle (stillAbsent absent)
  | dumping holds absent dumped =>
      obtain ⟨stillHolds, sameKnown, -⟩ := undisturbed holds
      exact .dumping stillHolds (stillAbsent absent) (sameKnown ▸ dumped.grow taken)
  | writing holds absent dumped written draft whole =>
      obtain ⟨stillHolds, sameKnown, sameDraft⟩ := undisturbed holds
      exact .writing stillHolds (stillAbsent absent) (sameKnown ▸ dumped.grow taken) written
        (sameDraft.trans draft) whole
  | synced holds absent dumped content draft found =>
      obtain ⟨stillHolds, sameKnown, sameDraft⟩ := undisturbed holds
      exact .synced stillHolds (stillAbsent absent) (sameKnown ▸ dumped.grow taken) content
        (sameDraft.trans draft) found
  | leaving holds answers => exact .leaving (undisturbed holds).1 (stillAnswers answers)
  | returned answers => exact .returned (stillAnswers answers)

theorem Sound.holds_of_underway (sound : Sound medium start path snapshots caller stage)
    (underway : stage.IsUnderway) : snapshots.holder = some caller ∧ snapshots.IsAbsent caller := by
  cases underway with
  | dumping listed =>
      cases sound with
      | dumping holds absent dumped => exact ⟨holds, absent⟩
  | writing listed left =>
      cases sound with
      | writing holds absent dumped written draft whole => exact ⟨holds, absent⟩
  | synced listed =>
      cases sound with
      | synced holds absent dumped content draft found => exact ⟨holds, absent⟩

namespace Intact

/-- While one caller holds the lock, no other depends on the draft or on where its dump began. -/
theorem bystanders (intact : Intact medium start path initial snapshots)
    (holds : snapshots.holder = some caller) (sameTaken : next.taken = snapshots.taken)
    (replaced : ∀ other ≠ caller, ∀ listed,
      (other, listed) ∈ next.replaced ↔ (other, listed) ∈ snapshots.replaced) :
    ∀ other ≠ caller, Sound medium start path next other (snapshots.stage other) := by
  intro other elsewhere
  refine (intact.sound other).frame (sameTaken ▸ List.prefix_rfl) (replaced other elsewhere)
    fun otherHolds => ?_
  exact absurd (Option.some.inj (otherHolds.symm.trans holds)) elsewhere

theorem save (intact : Intact medium start path initial snapshots) {metric : Metric} {key : String}
    {changed : FileStore}
    (stored : (do metric.admit key; snapshots.store.apply metric) = .ok changed) :
    Intact medium start path initial
      { snapshots with store := changed, taken := snapshots.taken ++ [metric] } := by
  obtain ⟨ledger, taken, represents⟩ := intact.taken
  have grown : snapshots.taken <+: snapshots.taken ++ [metric] := List.prefix_append _ _
  refine ⟨represents.exists_taken taken stored, intact.known.trans grown, intact.content,
    fun entry member => ?_, intact.distinct, fun caller => ?_⟩
  · obtain ⟨known, isKnown, dumped⟩ := intact.complete entry member
    exact ⟨known, isKnown.trans grown, dumped.grow grown⟩
  · exact (intact.sound caller).frame grown (fun _ => Iff.rfl) fun holds => ⟨holds, rfl, rfl⟩

/-- A call that replaced the file has been answered with the number of metrics in it. -/
theorem answered (intact : Intact medium start path initial snapshots) {listed : List Metric}
    (member : (caller, listed) ∈ snapshots.replaced) :
    snapshots.stage caller = .leaving (.ok listed.length) ∨
      snapshots.stage caller = .returned (.ok listed.length) := by
  have answer : ∀ {result}, snapshots.Answers caller result → result = .ok listed.length := by
    intro result answers
    cases result with
    | error failure => exact absurd member (answers listed)
    | ok count =>
        obtain ⟨other, otherMember, isCount⟩ := answers
        have same := List.inj_on_of_nodup_map intact.distinct member otherMember rfl
        rw [← isCount, (Prod.mk.inj same).2]
  have sound := intact.sound caller
  generalize snapshots.stage caller = stage at sound
  cases sound with
  | idle absent => exact absurd member (absent listed)
  | dumping holds absent dumped => exact absurd member (absent listed)
  | writing holds absent dumped written draft whole => exact absurd member (absent listed)
  | synced holds absent dumped content draft found => exact absurd member (absent listed)
  | leaving holds answers => exact .inl (congrArg Stage.leaving (answer answers))
  | returned answers => exact .inr (congrArg Stage.returned (answer answers))

variable [DecidableEq Caller]

/-- One caller goes on, and the file stays as it is. -/
theorem proceed (intact : Intact medium start path initial snapshots)
    (sameStore : next.store = snapshots.store) (sameTaken : next.taken = snapshots.taken)
    (isKnown : next.known <+: snapshots.taken)
    (sameContent : next.disk.content? path = snapshots.disk.content? path)
    (sameReplaced : next.replaced = snapshots.replaced)
    (stages : next.stage = Function.update snapshots.stage caller stage)
    (own : Sound medium start path next caller stage)
    (others : ∀ other ≠ caller, Sound medium start path next other (snapshots.stage other)) :
    Intact medium start path initial next where
  taken := by
    rw [sameTaken, sameStore]
    exact intact.taken
  known := sameTaken ▸ isKnown
  content := by
    rw [sameContent, sameReplaced]
    exact intact.content
  complete := by
    rw [sameTaken, sameReplaced]
    exact intact.complete
  distinct := sameReplaced ▸ intact.distinct
  sound := stages ▸ (Function.forall_update_iff snapshots.stage _).mpr ⟨own, others⟩

theorem replace (intact : Intact medium start path initial snapshots) {listed : List Metric}
    (synced : snapshots.stage caller = .synced listed) {disk : Disk}
    (renamed : snapshots.disk.rename (draftPath path) path = .ok disk) :
    Intact medium start path initial
      { snapshots with
        disk := disk
        stage := Function.update snapshots.stage caller (.leaving (.ok listed.length))
        replaced := snapshots.replaced ++ [(caller, listed)] } := by
  cases synced ▸ intact.sound caller with
  | synced holds absent dumped content draft found =>
      have moved := Disk.read_rename (Disk.content?_eq_some.mp draft) renamed
      refine ⟨intact.taken, intact.known, ?_, ?_, ?_, ?_⟩
      · rw [Disk.content?_eq_some.mpr moved]
        exact leaves_concat found snapshots.replaced caller
      · refine List.forall_mem_append.mpr ⟨intact.complete, fun entry member => ?_⟩
        rw [List.mem_singleton.mp member]
        exact ⟨snapshots.known, intact.known, dumped⟩
      · rw [List.map_append]
        refine intact.distinct.append (List.nodup_singleton _) ?_
        simpa [IsAbsent] using absent
      · refine (Function.forall_update_iff snapshots.stage _).mpr
          ⟨.leaving holds ⟨listed, by simp, rfl⟩, ?_⟩
        exact intact.bystanders holds rfl fun other elsewhere _ => by simp [elsewhere]

theorem step (intact : Intact medium start path initial snapshots)
    (step : Step medium path snapshots next) : Intact medium start path initial next := by
  obtain ⟨ledger, taken, represents⟩ := intact.taken
  cases step with
  | save metric key changed stored => exact intact.save stored
  | acquire caller idle free =>
      cases idle ▸ intact.sound caller with
      | idle absent =>
          refine intact.proceed rfl rfl List.prefix_rfl rfl rfl rfl
            (.dumping rfl absent (Dumped.begin taken represents)) fun other elsewhere => ?_
          -- What is known changes here, but no dump can be under way while the lock is free.
          refine (intact.sound other).frame List.prefix_rfl (fun _ => Iff.rfl) fun holds => ?_
          rw [free] at holds
          cases holds
  | visit caller owed listed dumping series metric found unlisted =>
      cases dumping ▸ intact.sound caller with
      | dumping holds absent dumped =>
          have visited := dumped.visit taken intact.known represents found unlisted
          exact intact.proceed rfl rfl intact.known rfl rfl rfl (.dumping holds absent visited)
            (intact.bystanders holds rfl fun _ _ _ => Iff.rfl)
  | create caller listed dumping disk written =>
      cases dumping ▸ intact.sound caller with
      | dumping holds absent dumped =>
          have draft := Disk.content?_eq_some.mpr (Disk.read_write written)
          exact intact.proceed rfl rfl intact.known (content?_of_write_draft written) rfl rfl
            (.writing holds absent dumped [] draft rfl)
            (intact.bystanders holds rfl fun _ _ _ => Iff.rfl)
  | write caller listed part left writing held isDraft disk written =>
      cases writing ▸ intact.sound caller with
      | writing holds absent dumped begun draft whole =>
          -- No other call writes to the draft, so it holds what this one has written so far.
          obtain rfl : begun = held :=
            Except.ok.inj ((Disk.content?_eq_some.mp draft).symm.trans isDraft)
          have draft := Disk.content?_eq_some.mpr (Disk.read_write written)
          exact intact.proceed rfl rfl intact.known (content?_of_write_draft written) rfl rfl
            (.writing holds absent dumped _ draft ((List.append_assoc _ _ _).trans whole))
            (intact.bystanders holds rfl fun _ _ _ => Iff.rfl)
  | sync caller listed left writing missing =>
      cases writing ▸ intact.sound caller with
      | writing holds absent dumped written draft whole =>
          exact intact.proceed rfl rfl intact.known rfl rfl rfl
            (.synced holds absent dumped written draft ⟨left, missing, whole⟩)
            (intact.bystanders holds rfl fun _ _ _ => Iff.rfl)
  | replace caller listed synced disk renamed => exact intact.replace synced renamed
  | fail caller stage isAt underway failure =>
      obtain ⟨holds, absent⟩ := (isAt ▸ intact.sound caller).holds_of_underway underway
      exact intact.proceed rfl rfl intact.known rfl rfl rfl (.leaving holds absent)
        (intact.bystanders holds rfl fun _ _ _ => Iff.rfl)
  | release caller result leaving =>
      cases leaving ▸ intact.sound caller with
      | leaving holds answers =>
          exact intact.proceed rfl rfl intact.known rfl rfl rfl (.returned answers)
            (intact.bystanders holds rfl fun _ _ _ => Iff.rfl)
  | elsewhere disk sameFile sameDraft =>
      refine ⟨⟨ledger, taken, represents⟩, intact.known, sameFile ▸ intact.content,
        intact.complete, intact.distinct, fun caller => ?_⟩
      exact (intact.sound caller).frame List.prefix_rfl (fun _ => Iff.rfl)
        fun holds => ⟨holds, rfl, sameDraft⟩

end Intact

variable [DecidableEq Caller]

theorem Reachable.intact {first : Snapshots Caller}
    (intact : Intact medium start path initial first)
    (reachable : Reachable medium path first snapshots) :
    Intact medium start path initial snapshots := by
  induction reachable with
  | start => exact intact
  | step reachable step induction => exact induction.step step

theorem update_ne_idle {stages : Caller → Stage} (begins : stage ≠ .idle)
    (began : stages caller ≠ .idle) (other : Caller) :
    Function.update stages other stage caller ≠ .idle := by
  rw [Function.update_apply]
  split
  · exact begins
  · exact began

theorem Step.began (step : Step medium path snapshots next)
    (began : snapshots.stage caller ≠ .idle) : next.stage caller ≠ .idle := by
  cases step with
  | save | elsewhere => exact began
  | acquire | visit | create | write | sync | replace | fail | release =>
      exact update_ne_idle Stage.noConfusion began _

/-- Replacing a file at once goes through all steps of a call, up to the one that fails, where all
that is written is there. -/
theorem exists_run_replaceFile (writes : medium.mayMiss []) {listed : List Metric}
    (dumping : snapshots.stage caller = .dumping ∅ listed) :
    ∃ next, Reachable medium path snapshots next ∧
      next.stage caller = .leaving (replaceFile path listed snapshots.disk).1 ∧
      next.disk = (replaceFile path listed snapshots.disk).2 := by
  have begins : Reachable medium path snapshots snapshots := .start
  rw [replaceFile]
  cases drafted : snapshots.disk.write (draftPath path) (snapshotText listed) with
  | error cause =>
      have failed := begins.step (.fail caller _ dumping (.dumping listed)
        (.io (.system cause)))
      exact ⟨_, failed, Function.update_self _ _ _, rfl⟩
  | ok disk =>
      obtain ⟨name, located, notDirectory, -⟩ := Disk.write_eq_ok.mp drafted
      have emptied : ∃ empty, snapshots.disk.write (draftPath path) [] = .ok empty :=
        ⟨_, Disk.write_eq_ok.mpr ⟨name, located, notDirectory, rfl⟩⟩
      obtain ⟨empty, emptied⟩ := emptied
      have filled : empty.write (draftPath path) ([] ++ snapshotText listed) = .ok disk :=
        (Disk.write_write emptied).trans drafted
      have created := begins.step (.create caller listed dumping empty emptied)
      have written := created.step (.write caller listed (snapshotText listed) []
        ((Function.update_self _ _ _).trans (by rw [List.append_nil])) [] (Disk.read_write emptied)
        disk filled)
      have synced := written.step (.sync caller listed [] (Function.update_self _ _ _) writes)
      simp only
      cases renamed : disk.rename (draftPath path) path with
      | error cause =>
          have failed := synced.step (.fail caller _ (Function.update_self _ _ _) (.synced listed)
            (.io (.system cause)))
          exact ⟨_, failed, Function.update_self _ _ _, rfl⟩
      | ok next =>
          have replaced := synced.step (.replace caller listed (Function.update_self _ _ _) next
            renamed)
          exact ⟨_, replaced, Function.update_self _ _ _, rfl⟩

end

def hourlyConfig : StorageConfig :=
  { StorageConfig.standard with
    storeFile := "metrics", storeInterval := .ofSeconds 3600, restore := false }

/-- The file of an earlier run, and a draft that was left beside it. -/
def leftBehind : Disk :=
  (Disk.empty.set "/metrics" (.file (snapshotText [.gauge "g" .zero]))).set "/metrics.tmp"
    (.file (snapshotText [.counter "a" 1, .counter "b" 2]))

/-- Where the loss of a last piece is not told of, a call answers with success and leaves an empty
file behind. -/
theorem exists_emptied_of_forgetful (piece : Nat)
    (fits : (snapshotText [.counter "c" 5]).length ≤ piece) :
    ∃ snapshots : Snapshots Bool,
      Reachable (.forgetful piece) hourlyConfig.storeFile
        (.start (Storage.openFile hourlyConfig leftBehind) leftBehind) snapshots ∧
      snapshots.stage true = .returned (.ok 1) ∧
      snapshots.disk.content? "metrics" = some [] := by
  have begins : Reachable (.forgetful piece) hourlyConfig.storeFile
      (.start (Storage.openFile hourlyConfig leftBehind) leftBehind)
      (.start (Storage.openFile hourlyConfig leftBehind) leftBehind : Snapshots Bool) := .start
  have saved := begins.step (.save (.counter "c" 5) "" _ rfl)
  have locked := saved.step (.acquire true rfl rfl)
  have visited := locked.step (.visit true _ _ rfl (.counter "c") _ rfl rfl)
  have created := visited.step (.create true [.counter "c" 5] rfl _ rfl)
  have synced := created.step (.sync true [.counter "c" 5] _ rfl fits)
  have replaced := synced.step (.replace true [.counter "c" 5] rfl _ rfl)
  have released := replaced.step (.release true (.ok 1) rfl)
  exact ⟨_, released, rfl, rfl⟩

end Snapshots

end FileStore

end Telemetry
