import Mathlib.Logic.Function.Basic
import Telemetry.Proofs.Disk
import Telemetry.Proofs.Storage.Dump

namespace Telemetry

open Telemetry

/-! A store that writes a snapshot after each write. Metrics are taken in at any time; of the
snapshots one is written after the other, and each dump begins when all that its own call has taken
in is there. -/

/-- What is taken in under some key is taken in under none. -/
theorem Metric.admit_unkeyed {metric : Metric} {key : String}
    (admitted : metric.admit key = .ok ()) : metric.admit "" = .ok () := by
  refine Metric.admit_eq_ok.mpr ⟨(Metric.admit_eq_ok.mp admitted).1, ?_⟩
  unfold Signature.verify
  split
  · rfl
  · exact if_pos rfl

theorem Ledger.admit_of_saveMany {start ledger : Ledger} {key : String} {metrics : List Metric}
    (taken : start.saveMany key metrics = (.ok (), ledger)) {metric : Metric}
    (member : metric ∈ metrics) : metric.admit key = .ok () := by
  induction metrics generalizing start with
  | nil => cases member
  | cons first metrics induction =>
      rw [saveMany] at taken
      cases saved : start.save first key with
      | mk result next =>
          rw [saved] at taken
          cases result with
          | error failure => cases taken
          | ok stored =>
              rcases List.mem_cons.mp member with rfl | later
              · cases admission : metric.admit key with
                | ok admitted => rfl
                | error failure =>
                    rw [save, Metric.saveBy_refused admission] at saved
                    cases saved
              · exact induction taken later

namespace Metric

theorem setting_append (id : String) (before : Option Binary64) (metrics more : List Metric) :
    setting id before (metrics ++ more) = setting id (setting id before metrics) more :=
  List.foldl_append

/-- A gauge that was set to a value holds that or what it was set to since. -/
theorem exists_setting (id : String) (value : Binary64) (metrics : List Metric) :
    ∃ last, setting id (some value) metrics = some last ∧
      (last = value ∨ ∃ metric ∈ metrics, metric.setting? id = some last) := by
  induction metrics generalizing value with
  | nil => exact ⟨value, rfl, .inl rfl⟩
  | cons metric metrics induction =>
      cases set : metric.setting? id with
      | none =>
          obtain ⟨last, isLast, origin⟩ := induction value
          refine ⟨last, ?_, origin.imp_right fun ⟨other, member, sets⟩ =>
            ⟨other, List.mem_cons_of_mem _ member, sets⟩⟩
          rw [setting, List.foldl_cons, set]
          exact isLast
      | some next =>
          obtain ⟨last, isLast, origin⟩ := induction next
          refine ⟨last, ?_, .inr ?_⟩
          · rw [setting, List.foldl_cons, set]
            exact isLast
          · rcases origin with rfl | ⟨other, member, sets⟩
            · exact ⟨metric, by simp, set⟩
            · exact ⟨other, by simp [member], sets⟩

end Metric

namespace FileStore

theorem read_write_draft {path : String} {disk written : Disk} {part held : Bytes}
    (writes : disk.write (draftPath path) part = .ok written) :
    written.read path = .ok held ↔ disk.read path = .ok held :=
  Disk.read_write_elsewhere writes fun _ _ located draftLocated =>
    Disk.ne_of_locate_append (by decide) (by decide) located draftLocated

/-- What a store took in, and one metric more. -/
theorem Represents.exists_taken {store changed : FileStore} {start ledger : Ledger}
    {metrics : List Metric} {metric : Metric} {key : String}
    (taken : start.saveMany "" metrics = (.ok (), ledger)) (represents : store.Represents ledger)
    (stored : (do metric.admit key; store.apply metric) = .ok changed) :
    ∃ ledger, start.saveMany "" (metrics ++ [metric]) = (.ok (), ledger) ∧
      changed.Represents ledger := by
  obtain ⟨_, admitted, stored⟩ := exists_of_bind_eq_ok stored
  have agreement := represents.apply metric
  rw [stored] at agreement
  rw [Ledger.saveMany_concat taken, Ledger.save,
    Metric.saveBy_admitted (Metric.admit_unkeyed admitted)]
  generalize ledger.apply metric = result at agreement
  cases agreement with
  | stored stillRepresents => exact ⟨_, rfl, stillRepresents⟩

/-- What a file system makes of a draft. What was handed over last is still under way when the draft
is synced: some octets may be missing at its end though syncing it is answered with success. -/
structure Medium where
  mayMiss : Bytes → Prop

namespace Medium

/-- Success says that every octet is there. -/
def IsDurable (medium : Medium) : Prop := ∀ left, medium.mayMiss left → left = []

/-- What a draft of metrics may hold when it was synced with success. -/
def Holds (medium : Medium) (listed : List Metric) (content : Bytes) : Prop :=
  ∃ left, medium.mayMiss left ∧ content ++ left = snapshotText listed

theorem IsDurable.eq_of_holds {medium : Medium} (durable : medium.IsDurable)
    {listed : List Metric} {content : Bytes} (holds : medium.Holds listed content) :
    content = snapshotText listed := by
  obtain ⟨left, missing, whole⟩ := holds
  rwa [durable left missing, List.append_nil] at whole

/-- Each octet that is lost is told of. -/
def reporting : Medium := ⟨fun left => left = []⟩

theorem isDurable_reporting : reporting.IsDurable := fun _ missing => missing

/-- The last piece is written after the call has been answered, and nobody hears when that fails. -/
def forgetful (piece : Nat) : Medium := ⟨fun left => left.length ≤ piece⟩

end Medium

inductive Errand where
  | save (metric : Metric) (key : String)
  | snapshot

def Errand.metric? : Errand → Option Metric
  | .save metric _ => some metric
  | .snapshot => none

inductive Stage where
  | begun
  /-- What there was to take in is taken in. -/
  | waiting
  | dumping (owed : Finset Series) (listed : List Metric)
  | drafted (listed : List Metric)
  | leaving (result : Except Failure Unit)
  | returned (result : Except Failure Unit)

structure Traffic (Caller : Type) where
  store : FileStore
  disk : Disk
  /-- Whose snapshot is being written. -/
  holder : Option Caller
  stage : Caller → Stage
  /-- Whose metrics were taken in, in this order. -/
  applied : List Caller
  /-- Those that had been taken in when the last dump began. -/
  known : List Caller
  /-- Those that had been taken in when the dump began that the file was last replaced by. -/
  published : List Caller

namespace Traffic

variable {Caller : Type}

def start (store : FileStore) (disk : Disk) : Traffic Caller :=
  ⟨store, disk, none, fun _ => .begun, [], [], []⟩

def metrics (errands : Caller → Errand) (callers : List Caller) : List Metric :=
  callers.filterMap fun caller => (errands caller).metric?

inductive Step [DecidableEq Caller] (medium : Medium) (errands : Caller → Errand) (path : String)
    (traffic : Traffic Caller) : Traffic Caller → Prop where
  | refuse (caller : Caller) (begun : traffic.stage caller = .begun) (metric : Metric)
      (key : String) (isSave : errands caller = .save metric key) (failure : Failure)
      (refused : (do metric.admit key; traffic.store.apply metric) = .error failure) :
      Step medium errands path traffic
        { traffic with
          stage := Function.update traffic.stage caller (.returned (.error failure)) }
  | apply (caller : Caller) (begun : traffic.stage caller = .begun) (metric : Metric)
      (key : String) (isSave : errands caller = .save metric key) (changed : FileStore)
      (stored : (do metric.admit key; traffic.store.apply metric) = .ok changed) :
      Step medium errands path traffic
        { traffic with
          store := changed
          stage := Function.update traffic.stage caller
            (if changed.snapshotsOnWrite then .waiting else .returned (.ok ()))
          applied := traffic.applied ++ [caller] }
  | ask (caller : Caller) (begun : traffic.stage caller = .begun)
      (isSnapshot : errands caller = .snapshot) :
      Step medium errands path traffic
        { traffic with stage := Function.update traffic.stage caller .waiting }
  | acquire (caller : Caller) (waiting : traffic.stage caller = .waiting)
      (free : traffic.holder = none) :
      Step medium errands path traffic
        { traffic with
          holder := some caller
          stage := Function.update traffic.stage caller (.dumping traffic.store.series [])
          known := traffic.applied }
  | visit (caller : Caller) (owed : Finset Series) (listed : List Metric)
      (dumping : traffic.stage caller = .dumping owed listed) (series : Series) (metric : Metric)
      (found : traffic.store.lookup series.kind series.id = some metric)
      (unlisted : listed.filter series.names = []) :
      Step medium errands path traffic
        { traffic with
          stage := Function.update traffic.stage caller
            (.dumping (owed.erase series) (listed ++ [metric])) }
  /-- A part of the dump is written beside the file. -/
  | scribble (caller : Caller) (listed : List Metric)
      (dumping : traffic.stage caller = .dumping ∅ listed) (part : Bytes) (disk : Disk)
      (written : traffic.disk.write (draftPath path) part = .ok disk) :
      Step medium errands path traffic { traffic with disk := disk }
  /-- The draft has been written and synced with success. -/
  | draft (caller : Caller) (listed : List Metric)
      (dumping : traffic.stage caller = .dumping ∅ listed) (content : Bytes)
      (holds : medium.Holds listed content) (disk : Disk)
      (written : traffic.disk.write (draftPath path) content = .ok disk) :
      Step medium errands path traffic
        { traffic with
          disk := disk
          stage := Function.update traffic.stage caller (.drafted listed) }
  | replace (caller : Caller) (listed : List Metric)
      (drafted : traffic.stage caller = .drafted listed) (disk : Disk)
      (renamed : traffic.disk.rename (draftPath path) path = .ok disk) :
      Step medium errands path traffic
        { traffic with
          disk := disk
          stage := Function.update traffic.stage caller (.leaving (.ok ()))
          published := traffic.known }
  | fail (caller : Caller) (listed : List Metric)
      (underway : traffic.stage caller = .dumping ∅ listed ∨
        traffic.stage caller = .drafted listed) (failure : Failure) :
      Step medium errands path traffic
        { traffic with
          stage := Function.update traffic.stage caller (.leaving (.error failure)) }
  | release (caller : Caller) (result : Except Failure Unit)
      (leaving : traffic.stage caller = .leaving result) :
      Step medium errands path traffic
        { traffic with
          holder := none
          stage := Function.update traffic.stage caller (.returned result) }

inductive Reachable [DecidableEq Caller] (medium : Medium) (errands : Caller → Errand)
    (path : String) (start : Traffic Caller) : Traffic Caller → Prop where
  | start : Reachable medium errands path start start
  | step {traffic next : Traffic Caller} (reachable : Reachable medium errands path start traffic)
      (step : Step medium errands path traffic next) : Reachable medium errands path start next

/-- A metric that the caller has to save is among those of some callers. -/
def Covers (errands : Caller → Errand) (callers : List Caller) (caller : Caller) : Prop :=
  ∀ metric, (errands caller).metric? = some metric → caller ∈ callers

/-- What is known of an errand at a stage. -/
inductive Sound (medium : Medium) (start : Ledger) (errands : Caller → Errand) (path : String)
    (traffic : Traffic Caller) (caller : Caller) : Stage → Prop where
  | begun (fresh : caller ∉ traffic.applied) :
      Sound medium start errands path traffic caller .begun
  | waiting (covers : Covers errands traffic.applied caller) :
      Sound medium start errands path traffic caller .waiting
  | dumping {owed : Finset Series} {listed : List Metric} (holds : traffic.holder = some caller)
      (covers : Covers errands traffic.known caller)
      (dumped : Dumped start "" (metrics errands traffic.known) (metrics errands traffic.applied)
        owed listed) :
      Sound medium start errands path traffic caller (.dumping owed listed)
  | drafted {listed : List Metric} (holds : traffic.holder = some caller)
      (covers : Covers errands traffic.known caller)
      (dumped : Dumped start "" (metrics errands traffic.known) (metrics errands traffic.applied)
        ∅ listed)
      (content : Bytes) (draft : traffic.disk.read (draftPath path) = .ok content)
      (found : medium.Holds listed content) :
      Sound medium start errands path traffic caller (.drafted listed)
  | leaving {result : Except Failure Unit} (holds : traffic.holder = some caller)
      (covers : result = .ok () → Covers errands traffic.published caller) :
      Sound medium start errands path traffic caller (.leaving result)
  | returned {result : Except Failure Unit}
      (covers : result = .ok () → Covers errands traffic.published caller) :
      Sound medium start errands path traffic caller (.returned result)

/-- The store is what the metrics make of it that were taken in. The file, once it was replaced, is
a dump that began when those were there that are published; these only become more. -/
structure Accounts (medium : Medium) (start : Ledger) (errands : Caller → Errand) (path : String)
    (traffic : Traffic Caller) : Prop where
  instant : traffic.store.snapshotsOnWrite = true
  taken : ∃ ledger, start.saveMany "" (metrics errands traffic.applied) = (.ok (), ledger) ∧
    traffic.store.Represents ledger
  distinct : traffic.applied.Nodup
  published : traffic.published <+: traffic.known
  known : traffic.known <+: traffic.applied
  written : traffic.published ≠ [] → ∃ listed content,
    traffic.disk.read path = .ok content ∧ medium.Holds listed content ∧
      Dumped start "" (metrics errands traffic.published) (metrics errands traffic.applied) ∅
        listed
  sound : ∀ caller, Sound medium start errands path traffic caller (traffic.stage caller)

section

variable {medium : Medium} {start : Ledger} {errands : Caller → Errand} {path : String}
  {traffic next : Traffic Caller} {caller : Caller} {stage : Stage}

theorem prefix_metrics {callers more : List Caller} (grown : callers <+: more) :
    metrics errands callers <+: metrics errands more :=
  grown.filterMap _

theorem Covers.mono {callers more : List Caller} (covers : Covers errands callers caller)
    (grown : callers <+: more) : Covers errands more caller :=
  fun metric isMetric => grown.subset (covers metric isMetric)

theorem Sound.frame (sound : Sound medium start errands path traffic caller stage)
    (fresh : caller ∉ traffic.applied → caller ∉ next.applied)
    (applied : traffic.applied <+: next.applied) (published : traffic.published <+: next.published)
    (undisturbed : traffic.holder = some caller →
      next.holder = some caller ∧ next.known = traffic.known ∧ next.disk = traffic.disk) :
    Sound medium start errands path next caller stage := by
  cases sound with
  | begun absent => exact .begun (fresh absent)
  | waiting covers => exact .waiting (covers.mono applied)
  | dumping holds covers dumped =>
      obtain ⟨stillHolds, sameKnown, -⟩ := undisturbed holds
      refine .dumping stillHolds (sameKnown ▸ covers) ?_
      rw [sameKnown]
      exact dumped.grow (prefix_metrics applied)
  | drafted holds covers dumped content draft found =>
      obtain ⟨stillHolds, sameKnown, sameDisk⟩ := undisturbed holds
      refine .drafted stillHolds (sameKnown ▸ covers) ?_ content (sameDisk ▸ draft) found
      rw [sameKnown]
      exact dumped.grow (prefix_metrics applied)
  | leaving holds covers =>
      exact .leaving (undisturbed holds).1 fun isOk => (covers isOk).mono published
  | returned covers => exact .returned fun isOk => (covers isOk).mono published

namespace Accounts

/-- While one caller holds the lock, no other depends on the disk or on where its dump began. -/
theorem bystanders (accounts : Accounts medium start errands path traffic)
    (holds : traffic.holder = some caller) (sameApplied : next.applied = traffic.applied)
    (published : traffic.published <+: next.published) :
    ∀ other ≠ caller, Sound medium start errands path next other (traffic.stage other) := by
  intro other elsewhere
  refine (accounts.sound other).frame (fun absent => sameApplied ▸ absent)
    (sameApplied ▸ List.prefix_rfl) published fun otherHolds => ?_
  exact absurd (Option.some.inj (otherHolds.symm.trans holds)) elsewhere

theorem written_of_write (accounts : Accounts medium start errands path traffic) {disk : Disk}
    {part : Bytes} (writes : traffic.disk.write (draftPath path) part = .ok disk)
    (isPublished : traffic.published ≠ []) :
    ∃ listed content, disk.read path = .ok content ∧ medium.Holds listed content ∧
      Dumped start "" (metrics errands traffic.published) (metrics errands traffic.applied) ∅
        listed := by
  obtain ⟨listed, content, holds, found, dumped⟩ := accounts.written isPublished
  exact ⟨listed, content, (read_write_draft writes).mpr holds, found, dumped⟩

variable [DecidableEq Caller]

/-- One caller goes on, and nothing is taken in. -/
theorem proceed (accounts : Accounts medium start errands path traffic)
    (sameStore : next.store = traffic.store) (sameApplied : next.applied = traffic.applied)
    (stages : next.stage = Function.update traffic.stage caller stage)
    (isPublished : next.published <+: next.known) (isKnown : next.known <+: traffic.applied)
    (written : next.published ≠ [] → ∃ listed content,
      next.disk.read path = .ok content ∧ medium.Holds listed content ∧
        Dumped start "" (metrics errands next.published) (metrics errands traffic.applied) ∅
          listed)
    (own : Sound medium start errands path next caller stage)
    (others : ∀ other ≠ caller, Sound medium start errands path next other (traffic.stage other)) :
    Accounts medium start errands path next where
  instant := sameStore ▸ accounts.instant
  taken := by
    rw [sameApplied, sameStore]
    exact accounts.taken
  distinct := sameApplied ▸ accounts.distinct
  published := isPublished
  known := sameApplied ▸ isKnown
  written := sameApplied ▸ written
  sound := stages ▸ (Function.forall_update_iff traffic.stage _).mpr ⟨own, others⟩

theorem apply (accounts : Accounts medium start errands path traffic)
    (begun : traffic.stage caller = .begun) {metric : Metric} {key : String}
    (isSave : errands caller = .save metric key) {changed : FileStore}
    (stored : (do metric.admit key; traffic.store.apply metric) = .ok changed) :
    Accounts medium start errands path
      { traffic with
        store := changed
        stage := Function.update traffic.stage caller
          (if changed.snapshotsOnWrite then .waiting else .returned (.ok ()))
        applied := traffic.applied ++ [caller] } := by
  obtain ⟨ledger, taken, represents⟩ := accounts.taken
  have instant : changed.snapshotsOnWrite = true := by
    obtain ⟨_, -, stored⟩ := exists_of_bind_eq_ok stored
    exact (snapshotsOnWrite_of_apply stored).trans accounts.instant
  have grown : traffic.applied <+: traffic.applied ++ [caller] := List.prefix_append _ _
  have fresh : caller ∉ traffic.applied := by
    cases begun ▸ accounts.sound caller with
    | begun fresh => exact fresh
  have more : metrics errands (traffic.applied ++ [caller]) =
      metrics errands traffic.applied ++ [metric] := by
    rw [metrics, List.filterMap_append]
    simp [isSave, Errand.metric?, metrics]
  refine ⟨instant, ?_, ?_, accounts.published, accounts.known.trans grown, ?_, ?_⟩
  · rw [more]
    exact Represents.exists_taken taken represents stored
  · exact accounts.distinct.append (List.nodup_singleton caller) (by simpa using fresh)
  · intro isPublished
    obtain ⟨listed, content, holds, found, dumped⟩ := accounts.written isPublished
    exact ⟨listed, content, holds, found, dumped.grow (prefix_metrics grown)⟩
  · rw [if_pos instant]
    refine (Function.forall_update_iff traffic.stage _).mpr ⟨?_, fun other elsewhere => ?_⟩
    · exact .waiting fun _ _ => List.mem_append_right _ (List.mem_singleton_self caller)
    · refine (accounts.sound other).frame ?_ grown List.prefix_rfl fun holds => ⟨holds, rfl, rfl⟩
      intro absent
      simp [absent, elsewhere]

theorem step (accounts : Accounts medium start errands path traffic)
    (step : Step medium errands path traffic next) : Accounts medium start errands path next := by
  obtain ⟨ledger, taken, represents⟩ := accounts.taken
  cases step with
  | refuse caller begun metric key isSave failure refused =>
      refine accounts.proceed rfl rfl rfl accounts.published accounts.known accounts.written
        (.returned fun isOk => nomatch isOk) fun other elsewhere => ?_
      exact (accounts.sound other).frame id List.prefix_rfl List.prefix_rfl
        fun holds => ⟨holds, rfl, rfl⟩
  | apply caller begun metric key isSave changed stored => exact accounts.apply begun isSave stored
  | ask caller begun isSnapshot =>
      refine accounts.proceed rfl rfl rfl accounts.published accounts.known accounts.written
        (.waiting fun metric isMetric => ?_) fun other elsewhere => ?_
      · rw [isSnapshot] at isMetric
        cases isMetric
      · exact (accounts.sound other).frame id List.prefix_rfl List.prefix_rfl
          fun holds => ⟨holds, rfl, rfl⟩
  | acquire caller waiting free =>
      cases waiting ▸ accounts.sound caller with
      | waiting covers =>
          refine accounts.proceed rfl rfl rfl (accounts.published.trans accounts.known)
            List.prefix_rfl accounts.written
            (.dumping rfl covers (Dumped.begin taken represents)) fun other elsewhere => ?_
          -- What is known changes here, but no dump can be under way while the lock is free.
          refine (accounts.sound other).frame id List.prefix_rfl List.prefix_rfl fun holds => ?_
          rw [free] at holds
          cases holds
  | visit caller owed listed dumping series metric found unlisted =>
      cases dumping ▸ accounts.sound caller with
      | dumping holds covers dumped =>
          have visited :=
            dumped.visit taken (prefix_metrics accounts.known) represents found unlisted
          exact accounts.proceed rfl rfl rfl accounts.published accounts.known accounts.written
            (.dumping holds covers visited) (accounts.bystanders holds rfl List.prefix_rfl)
  | scribble caller listed dumping part disk written =>
      have same : traffic.stage = Function.update traffic.stage caller (.dumping ∅ listed) := by
        rw [← dumping, Function.update_eq_self]
      cases dumping ▸ accounts.sound caller with
      | dumping holds covers dumped =>
          exact accounts.proceed rfl rfl same accounts.published accounts.known
            (accounts.written_of_write written) (.dumping holds covers dumped)
            (accounts.bystanders holds rfl List.prefix_rfl)
  | draft caller listed dumping content found disk written =>
      cases dumping ▸ accounts.sound caller with
      | dumping holds covers dumped =>
          exact accounts.proceed rfl rfl rfl accounts.published accounts.known
            (accounts.written_of_write written)
            (.drafted holds covers dumped content (Disk.read_write written) found)
            (accounts.bystanders holds rfl List.prefix_rfl)
  | replace caller listed drafted disk renamed =>
      cases drafted ▸ accounts.sound caller with
      | drafted holds covers dumped content draft found =>
          exact accounts.proceed rfl rfl rfl List.prefix_rfl accounts.known
            (fun _ => ⟨listed, content, Disk.read_rename draft renamed, found, dumped⟩)
            (.leaving holds fun _ => covers) (accounts.bystanders holds rfl accounts.published)
  | fail caller listed underway failure =>
      have holds : traffic.holder = some caller := by
        rcases underway with dumping | drafted
        · cases dumping ▸ accounts.sound caller with
          | dumping holds _ _ => exact holds
        · cases drafted ▸ accounts.sound caller with
          | drafted holds _ _ _ _ _ => exact holds
      exact accounts.proceed rfl rfl rfl accounts.published accounts.known accounts.written
        (.leaving holds fun isOk => nomatch isOk) (accounts.bystanders holds rfl List.prefix_rfl)
  | release caller result leaving =>
      cases leaving ▸ accounts.sound caller with
      | leaving holds covers =>
          exact accounts.proceed rfl rfl rfl accounts.published accounts.known accounts.written
            (.returned covers) (accounts.bystanders holds rfl List.prefix_rfl)

end Accounts

theorem accounts_start (medium : Medium) {store : FileStore} (represents : store.Represents start)
    (instant : store.snapshotsOnWrite = true) (errands : Caller → Errand) (path : String)
    (disk : Disk) : Accounts medium start errands path (Traffic.start store disk) where
  instant := instant
  taken := ⟨start, rfl, represents⟩
  distinct := .nil
  published := List.prefix_rfl
  known := List.prefix_rfl
  written := fun isPublished => absurd rfl isPublished
  sound _ := .begun List.not_mem_nil

theorem Reachable.accounts [DecidableEq Caller] {first : Traffic Caller}
    (accounts : Accounts medium start errands path first)
    (reachable : Reachable medium errands path first traffic) :
    Accounts medium start errands path traffic := by
  induction reachable with
  | start => exact accounts
  | step reachable step induction => exact induction.step step

theorem metrics_append_cons {metric : Metric} (isMetric : (errands caller).metric? = some metric)
    (before since : List Caller) :
    metrics errands (before ++ caller :: since) =
      metrics errands before ++ metric :: metrics errands since := by
  simp only [metrics, List.filterMap_append, List.filterMap_cons, isMetric]

theorem Accounts.mem_published (accounts : Accounts medium start errands path traffic)
    {metric : Metric} {key : String} (isSave : errands caller = .save metric key)
    (returned : traffic.stage caller = .returned (.ok ())) : caller ∈ traffic.published := by
  cases returned ▸ accounts.sound caller with
  | returned covers => exact covers rfl metric (congrArg Errand.metric? isSave)

theorem Accounts.admit_of_returned (accounts : Accounts medium start errands path traffic)
    {metric : Metric} {key : String} (isSave : errands caller = .save metric key)
    (returned : traffic.stage caller = .returned (.ok ())) : metric.admit "" = .ok () := by
  obtain ⟨ledger, taken, -⟩ := accounts.taken
  have member := (accounts.published.trans accounts.known).subset
    (accounts.mem_published isSave returned)
  have among : metric ∈ metrics errands traffic.applied :=
    List.mem_filterMap.mpr ⟨caller, member, congrArg Errand.metric? isSave⟩
  exact Ledger.admit_of_saveMany taken among

/-- The file holds what the medium made of a dump that saw the metric of a save that was answered
with success. -/
theorem Accounts.exists_reading (accounts : Accounts medium start errands path traffic)
    {metric : Metric} {key : String} (isSave : errands caller = .save metric key)
    (returned : traffic.stage caller = .returned (.ok ())) {series : Series}
    (named : series.names metric = true) :
    ∃ before since listed content early ledger reading,
      traffic.applied = before ++ caller :: since ∧
      traffic.disk.read path = .ok content ∧ medium.Holds listed content ∧
      early <+: metrics errands since ∧
      start.saveMany "" (metrics errands before ++ metric :: early) = (.ok (), ledger) ∧
      ledger.lookup series = some reading ∧
      listed.filter series.names = [series.metric reading] := by
  have isMetric : (errands caller).metric? = some metric := congrArg Errand.metric? isSave
  have member := accounts.mem_published isSave returned
  obtain ⟨before, known, isPublished⟩ := List.append_of_mem member
  obtain ⟨more, isAll⟩ := accounts.published.trans accounts.known
  obtain ⟨listed, content, holds, whole, dumped⟩ := accounts.written (List.ne_nil_of_mem member)
  have placed : metrics errands traffic.published =
      metrics errands before ++ metric :: metrics errands known := by
    rw [isPublished, metrics_append_cons isMetric]
  have isApplied : traffic.applied = before ++ caller :: (known ++ more) := by
    rw [← isAll, isPublished]
    simp
  have allPlaced : metrics errands traffic.applied =
      metrics errands before ++ metric :: metrics errands (known ++ more) := by
    rw [isApplied, metrics_append_cons isMetric]
  obtain ⟨early, ledger, reading, since, upTo, taken, found, isListed⟩ :=
    dumped.exists_reading (Finset.notMem_empty series)
      ⟨metric, by rw [placed]; simp, named⟩
  -- The reading has seen what was published, so also the save with all before it.
  obtain ⟨seen, rfl⟩ := since
  rw [placed, List.append_assoc, List.cons_append] at upTo taken
  rw [allPlaced, List.prefix_append_right_inj, List.cons_prefix_cons] at upTo
  exact ⟨before, known ++ more, listed, content, metrics errands known ++ seen, ledger, reading,
    isApplied, holds, whole, upTo.2, taken, found, isListed⟩

/-- A save that was answered with success is in the file, whatever other saves and snapshots are
under way and whichever are answered with failures, on a medium that syncs a draft with success only
if it is whole: a counter has a sum with its delta and with all that was taken in before, a gauge
has its value or one that was taken in later. -/
theorem Reachable.listed_of_returned [DecidableEq Caller] (durable : medium.IsDurable)
    (config : StorageConfig) (disk : Disk)
    (instant : config.storeInterval.isZero = true)
    (reachable : Reachable medium errands config.storeFile
      (.start (Storage.openFile config disk) disk) traffic)
    {metric : Metric} {key : String} (isSave : errands caller = .save metric key)
    (returned : traffic.stage caller = .returned (.ok ())) :
    traffic.applied.Nodup ∧
      ∃ before since listed, traffic.applied = before ++ caller :: since ∧
        traffic.disk.read config.storeFile = .ok (snapshotText listed) ∧
        (metric.kind = .counter → ∃ early sum, early <+: metrics errands since ∧
          listed.filter (Series.counter metric.id).names = [.counter metric.id sum] ∧
          sum.toInt = ((Storage.openFile config disk).counters.getD metric.id 0).toInt +
            Metric.gains metric.id (metrics errands before ++ metric :: early)) ∧
        (metric.kind = .gauge → ∃ value,
          listed.filter (Series.gauge metric.id).names = [.gauge metric.id value] ∧
          ∃ written ∈ metric :: metrics errands since,
            written.setting? metric.id = some value) := by
  obtain ⟨⟨start, represents⟩, isFile, interval⟩ := opened config disk
  have onWrite : (Storage.openFile config disk).snapshotsOnWrite = true := by
    rw [snapshotsOnWrite, isFile, interval, instant]
    rfl
  have accounts := reachable.accounts
    (accounts_start medium represents onWrite errands config.storeFile disk)
  refine ⟨accounts.distinct, ?_⟩
  cases metric.admission "" with
  | refused failure refusal =>
      rw [accounts.admit_of_returned isSave returned] at refusal
      cases refusal
  | gauge value admitted isGauge holds =>
      have named : (Series.gauge metric.id).names metric = true := decide_eq_true ⟨isGauge, rfl⟩
      obtain ⟨before, since, listed, content, early, ledger, reading, isApplied, holdsContent,
        whole, later, taken, found, isListed⟩ := accounts.exists_reading isSave returned named
      rw [durable.eq_of_holds whole] at holdsContent
      refine ⟨before, since, listed, isApplied, holdsContent, fun isCounter => ?_, fun _ =>
        ⟨reading, isListed, ?_⟩⟩
      · rw [isGauge] at isCounter
        cases isCounter
      · have sets : metric.setting? metric.id = some value := by
          rw [Metric.setting?, if_pos ⟨isGauge, rfl⟩, holds]
        have isLast := Ledger.lookup_gauge_saveMany_of_ok taken metric.id
        obtain ⟨last, isSetting, origin⟩ := Metric.exists_setting metric.id value early
        rw [found, Metric.setting_append, Metric.setting, List.foldl_cons, sets] at isLast
        obtain rfl : reading = last := Option.some.inj (isLast.trans isSetting)
        rcases origin with rfl | ⟨written, member, sets⟩
        · exact ⟨metric, by simp, sets⟩
        · exact ⟨written, List.mem_cons_of_mem _ (later.subset member), sets⟩
  | counter delta admitted isCounter holds =>
      have named : (Series.counter metric.id).names metric = true :=
        decide_eq_true ⟨isCounter, rfl⟩
      obtain ⟨before, since, listed, content, early, ledger, reading, isApplied, holdsContent,
        whole, later, taken, found, isListed⟩ := accounts.exists_reading isSave returned named
      rw [durable.eq_of_holds whole] at holdsContent
      refine ⟨before, since, listed, isApplied, holdsContent, fun _ =>
        ⟨early, reading.toInt64, later, isListed, ?_⟩, fun isGauge => ?_⟩
      · have sum := Ledger.sum_saveMany_of_ok taken metric.id
        have restored : ((Storage.openFile config disk).counters.getD metric.id 0).toInt =
            start.sum metric.id := by
          rw [represents.getD_counters]
          exact Counter.Total.toInt_toInt64 _
        rw [Ledger.sum, Ledger.total, found, Option.getD_some] at sum
        rw [Counter.Total.toInt_toInt64, restored, sum]
      · rw [isCounter] at isGauge
        cases isGauge

end

def instantConfig : StorageConfig :=
  { StorageConfig.standard with storeFile := "metrics", storeInterval := .zero, restore := false }

def twoSaves : Bool → Errand
  | false => .save (.counter "c" 5) ""
  | true => .save (.gauge "g" .zero) ""

/-- While the snapshot of the first save is written, the second is taken in. -/
theorem reachable_twoSaves :
    ∃ traffic, Reachable .reporting twoSaves instantConfig.storeFile
      (.start (Storage.openFile instantConfig .empty) .empty) traffic ∧
        traffic.stage false = .returned (.ok ()) ∧ traffic.stage true = .waiting := by
  have begins : Reachable .reporting twoSaves instantConfig.storeFile
    (.start (Storage.openFile instantConfig .empty) .empty)
    (.start (Storage.openFile instantConfig .empty) .empty) := .start
  have taken := begins.step (.apply false rfl (.counter "c" 5) "" rfl _ rfl)
  have locked := taken.step (.acquire false rfl rfl)
  have otherTaken := locked.step (.apply true rfl (.gauge "g" .zero) "" rfl _ rfl)
  have visited := otherTaken.step (.visit false _ _ rfl (.counter "c") _ rfl rfl)
  have drafted := visited.step (.draft false [.counter "c" 5] rfl _
    ⟨[], rfl, List.append_nil _⟩ _ rfl)
  have replaced := drafted.step (.replace false [.counter "c" 5] rfl _ rfl)
  have released := replaced.step (.release false (.ok ()) rfl)
  exact ⟨_, released, rfl, rfl⟩

theorem listed_of_returned_twoSaves :
    ∃ traffic : Traffic Bool, (Medium.reporting.IsDurable ∧
      instantConfig.storeInterval.isZero = true ∧
      Reachable .reporting twoSaves instantConfig.storeFile
        (.start (Storage.openFile instantConfig .empty) .empty) traffic ∧
      twoSaves false = .save (.counter "c" 5) "" ∧
      traffic.stage false = .returned (.ok ()) ∧ traffic.stage true = .waiting) ∧
      ∃ listed, traffic.disk.read "metrics" = .ok (snapshotText listed) := by
  obtain ⟨traffic, reachable, returned, waiting⟩ := reachable_twoSaves
  obtain ⟨-, before, since, listed, -, content, -⟩ :=
    reachable.listed_of_returned Medium.isDurable_reporting instantConfig .empty rfl rfl returned
  exact ⟨traffic, ⟨Medium.isDurable_reporting, rfl, reachable, rfl, returned, waiting⟩, listed,
    content⟩

end Traffic

end FileStore

end Telemetry
