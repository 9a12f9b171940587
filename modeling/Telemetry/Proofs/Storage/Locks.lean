import Mathlib.Logic.Function.Basic
import Telemetry.Proofs.Storage.Access

namespace Telemetry.KeyValue

open Telemetry

/-! Concurrent calls to a record store. A counter is read and written back in two steps, under a
lock for its key that is made when it is first asked for. -/

/-- Locks by their numbers: the keys in the order in which their locks were made. -/
structure LockTable where
  keys : List String
  distinct : keys.Nodup

namespace LockTable

def empty : LockTable := ⟨[], .nil⟩

/-- The lock for a key, which is made if there is none. -/
def locate (table : LockTable) (key : String) : Nat × LockTable :=
  if present : key ∈ table.keys then (table.keys.idxOf key, table)
  else (table.keys.length,
    ⟨table.keys ++ [key],
      table.distinct.append (List.nodup_singleton key) (by simpa using present)⟩)

theorem keys_locate (table : LockTable) (key : String) :
    table.keys <+: (table.locate key).2.keys ∧
      (table.locate key).2.keys[(table.locate key).1]? = some key := by
  unfold locate
  split
  · next present =>
      refine ⟨List.prefix_rfl, ?_⟩
      rw [List.getElem?_eq_getElem (List.idxOf_lt_length_iff.mpr present), List.getElem_idxOf]
  · exact ⟨List.prefix_append _ _, List.getElem?_concat_length⟩

theorem eq_of_keys {table : LockTable} {key : String} {lock other : Nat}
    (isKey : table.keys[lock]? = some key) (otherIsKey : table.keys[other]? = some key) :
    lock = other := by
  obtain ⟨inside, -⟩ := List.getElem?_eq_some_iff.mp isKey
  exact (List.getElem?_inj inside table.distinct).mp (isKey.trans otherIsKey.symm)

end LockTable

inductive Stage where
  | begun
  | located (addition : Addition) (lock : Nat)
  | holding (addition : Addition) (lock : Nat)
  | read (addition : Addition) (lock : Nat) (found : Option Record)
  | leaving (lock : Nat) (reply : StorageReply)
  | returned (reply : StorageReply)

def Stage.reply? : Stage → Option StorageReply
  | .leaving _ reply => some reply
  | .returned reply => some reply
  | _ => none

structure Traffic (Caller : Type) where
  store : RecordStore
  table : LockTable
  holder : Nat → Option Caller
  stage : Caller → Stage
  /-- The callers whose calls have taken effect, in this order. -/
  order : List Caller

namespace Traffic

variable {Caller : Type}

def start (store : RecordStore) (table : LockTable) : Traffic Caller :=
  ⟨store, table, fun _ => none, fun _ => .begun, []⟩

section

variable [DecidableEq Caller]

/-- The next step of a caller; one whose lock is held by another does nothing. -/
def step (calls : Caller → Access) (traffic : Traffic Caller) (caller : Caller) :
    Traffic Caller :=
  match traffic.stage caller with
  | .begun =>
    match (calls caller).addition? with
    | none =>
      { traffic with
        store := ((calls caller).perform traffic.store).2
        stage := Function.update traffic.stage caller
          (.returned ((calls caller).perform traffic.store).1)
        order := traffic.order ++ [caller] }
    | some addition =>
      { traffic with
        table := (traffic.table.locate addition.key).2
        stage := Function.update traffic.stage caller
          (.located addition (traffic.table.locate addition.key).1) }
  | .located addition lock =>
    match traffic.holder lock with
    | some _ => traffic
    | none =>
      { traffic with
        holder := Function.update traffic.holder lock (some caller)
        stage := Function.update traffic.stage caller (.holding addition lock) }
  | .holding addition lock =>
    match traffic.store.get addition.key with
    | .ok found =>
      { traffic with stage := Function.update traffic.stage caller (.read addition lock found) }
    | .error failure =>
      { traffic with
        stage := Function.update traffic.stage caller (.leaving lock (.saved (.error failure)))
        order := traffic.order ++ [caller] }
  | .read addition lock found =>
    { traffic with
      store := (settle traffic.store (addition.writeBack traffic.store found)).2
      stage := Function.update traffic.stage caller
        (.leaving lock (settle traffic.store (addition.writeBack traffic.store found)).1)
      order := traffic.order ++ [caller] }
  | .leaving lock reply =>
    { traffic with
      holder := Function.update traffic.holder lock none
      stage := Function.update traffic.stage caller (.returned reply) }
  | .returned _ => traffic

def run (calls : Caller → Access) (traffic : Traffic Caller) (schedule : List Caller) :
    Traffic Caller :=
  schedule.foldl (step calls) traffic

end

/-- What is known of a caller at a stage. From the read of a record to its replacement, the lock
keeps it from being replaced by others. -/
inductive Sound (calls : Caller → Access) (traffic : Traffic Caller) (caller : Caller) :
    Stage → Prop where
  | begun : Sound calls traffic caller .begun
  | located {addition : Addition} {lock : Nat} (adds : (calls caller).addition? = some addition)
      (locks : traffic.table.keys[lock]? = some addition.key) :
      Sound calls traffic caller (.located addition lock)
  | holding {addition : Addition} {lock : Nat} (adds : (calls caller).addition? = some addition)
      (locks : traffic.table.keys[lock]? = some addition.key)
      (holds : traffic.holder lock = some caller) :
      Sound calls traffic caller (.holding addition lock)
  | read {addition : Addition} {lock : Nat} {found : Option Record}
      (adds : (calls caller).addition? = some addition)
      (locks : traffic.table.keys[lock]? = some addition.key)
      (holds : traffic.holder lock = some caller)
      (current : traffic.store.get addition.key = .ok found) :
      Sound calls traffic caller (.read addition lock found)
  | leaving {lock : Nat} {reply : StorageReply} (holds : traffic.holder lock = some caller) :
      Sound calls traffic caller (.leaving lock reply)
  | returned {reply : StorageReply} : Sound calls traffic caller (.returned reply)

def script (calls : Caller → Access) (order : List Caller) : List StorageCall :=
  order.map fun caller => (calls caller).toCall

theorem script_append (calls : Caller → Access) (order more : List Caller) :
    script calls (order ++ more) = script calls order ++ script calls more := List.map_append

/-- The calls that have taken effect, one after the other, come to the same. -/
structure Linearized (calls : Caller → Access) (store : RecordStore) (traffic : Traffic Caller) :
    Prop where
  nodup : traffic.order.Nodup
  effective : ∀ caller, caller ∈ traffic.order ↔ (traffic.stage caller).reply?.isSome = true
  replies : (backend.replies (script calls traffic.order) store).map some =
    traffic.order.map fun caller => (traffic.stage caller).reply?
  records : backend.after (script calls traffic.order) store = traffic.store
  sound : ∀ caller, Sound calls traffic caller (traffic.stage caller)

section

variable {calls : Caller → Access} {store : RecordStore} {traffic next : Traffic Caller}
  {caller : Caller} {stage : Stage}

theorem linearized_start (calls : Caller → Access) (store : RecordStore) (table : LockTable) :
    Linearized calls store (start store table : Traffic Caller) where
  nodup := .nil
  effective caller := by
    show caller ∈ [] ↔ Option.isSome (none : Option StorageReply) = true
    simp
  replies := rfl
  records := rfl
  sound caller := .begun

theorem Linearized.replies_eq (linearized : Linearized calls store traffic)
    {replies : Caller → StorageReply}
    (returned : ∀ caller, traffic.stage caller = .returned (replies caller)) :
    backend.replies (script calls traffic.order) store = traffic.order.map replies := by
  have answered := linearized.replies
  simp only [returned, Stage.reply?] at answered
  have whole : (traffic.order.map fun caller => some (replies caller)) =
      (traffic.order.map replies).map some := List.map_map.symm
  exact List.map_injective_iff.mpr (Option.some_injective _) (answered.trans whole)

theorem Sound.frame (sound : Sound calls traffic caller stage)
    (keys : traffic.table.keys <+: next.table.keys)
    (holder : ∀ lock, traffic.holder lock = some caller → next.holder lock = some caller)
    (records : ∀ addition lock found, stage = .read addition lock found →
      next.store.get addition.key = traffic.store.get addition.key) :
    Sound calls next caller stage := by
  have kept : ∀ {lock : Nat} {key : String}, traffic.table.keys[lock]? = some key →
      next.table.keys[lock]? = some key := by
    intro lock key locks
    obtain ⟨inside, -⟩ := List.getElem?_eq_some_iff.mp locks
    rw [← locks, List.getElem?_eq_getElem inside]
    exact List.prefix_iff_getElem?.mp keys lock inside
  cases sound with
  | begun => exact .begun
  | located adds locks => exact .located adds (kept locks)
  | holding adds locks holds => exact .holding adds (kept locks) (holder _ holds)
  | read adds locks holds current =>
      exact .read adds (kept locks) (holder _ holds) ((records _ _ _ rfl).trans current)
  | leaving holds => exact .leaving (holder _ holds)
  | returned => exact .returned

/-- Whoever writes a record back is alone with it. -/
theorem Sound.read_apart {other : Caller} {addition otherAddition : Addition}
    {lock otherLock : Nat} {found otherFound : Option Record}
    (sound : Sound calls traffic caller (.read addition lock found))
    (otherSound : Sound calls traffic other (.read otherAddition otherLock otherFound))
    (elsewhere : other ≠ caller) : addition.key ≠ otherAddition.key := by
  intro same
  cases sound with
  | read _ locks holds _ =>
      cases otherSound with
      | read _ otherLocks otherHolds _ =>
          obtain rfl := LockTable.eq_of_keys locks (same ▸ otherLocks)
          exact elsewhere (Option.some.inj (otherHolds.symm.trans holds))

variable [DecidableEq Caller]

/-- One caller goes on to another stage. -/
structure Moved (calls : Caller → Access) (traffic next : Traffic Caller) (caller : Caller)
    (stage : Stage) : Prop where
  stages : next.stage = Function.update traffic.stage caller stage
  own : Sound calls next caller stage
  others : ∀ other, other ≠ caller → Sound calls next other (traffic.stage other)

theorem Moved.sound (moved : Moved calls traffic next caller stage) (other : Caller) :
    Sound calls next other (next.stage other) := by
  rw [moved.stages]
  exact (Function.forall_update_iff traffic.stage _).mpr ⟨moved.own, moved.others⟩ other

theorem Linearized.goOn (linearized : Linearized calls store traffic)
    (moved : Moved calls traffic next caller stage)
    (silent : stage.reply? = (traffic.stage caller).reply?) (sameStore : next.store = traffic.store)
    (sameOrder : next.order = traffic.order) : Linearized calls store next := by
  have sameReply : ∀ other, (next.stage other).reply? = (traffic.stage other).reply? := by
    intro other
    rw [moved.stages]
    by_cases same : other = caller
    · subst same
      rw [Function.update_self, silent]
    · rw [Function.update_of_ne same]
  refine ⟨sameOrder ▸ linearized.nodup, fun other => ?_, ?_, ?_, moved.sound⟩
  · rw [sameOrder, sameReply]
    exact linearized.effective other
  · simp only [sameOrder, sameReply]
    exact linearized.replies
  · rw [sameOrder, sameStore]
    exact linearized.records

/-- A call takes effect behind those that have taken effect before. -/
theorem Linearized.takeEffect (linearized : Linearized calls store traffic)
    (moved : Moved calls traffic next caller stage)
    (unanswered : (traffic.stage caller).reply? = none)
    (answered : stage.reply? = some ((calls caller).perform traffic.store).1)
    (performed : next.store = ((calls caller).perform traffic.store).2)
    (last : next.order = traffic.order ++ [caller]) : Linearized calls store next := by
  have fresh : caller ∉ traffic.order := by
    rw [linearized.effective, unanswered]
    simp
  have own : (next.stage caller).reply? = some ((calls caller).perform traffic.store).1 := by
    rw [moved.stages, Function.update_self, answered]
  have other : ∀ other, other ≠ caller →
      (next.stage other).reply? = (traffic.stage other).reply? := by
    intro other elsewhere
    rw [moved.stages, Function.update_of_ne elsewhere]
  refine ⟨?_, fun each => ?_, ?_, ?_, moved.sound⟩
  · rw [last]
    exact linearized.nodup.append (List.nodup_singleton caller) (by simpa using fresh)
  · rw [last, List.mem_append, List.mem_singleton]
    by_cases same : each = caller
    · subst same
      simp [own]
    · rw [other each same, ← linearized.effective]
      simp [same]
  · have early : (traffic.order.map fun each => (next.stage each).reply?) =
        traffic.order.map fun each => (traffic.stage each).reply? :=
      List.map_congr_left fun each member => other each fun same => fresh (same ▸ member)
    rw [last, script_append, Backend.replies_append, linearized.records, List.map_append,
      List.map_append, early, linearized.replies, List.map_singleton, own]
    rfl
  · rw [last, script_append, Backend.after_append, linearized.records, performed]
    rfl

theorem Linearized.begin (linearized : Linearized calls store traffic)
    (reached : traffic.stage caller = .begun) :
    Linearized calls store (traffic.step calls caller) := by
  have unanswered : (traffic.stage caller).reply? = none := congrArg Stage.reply? reached
  cases adds : (calls caller).addition? with
  | none =>
      simp only [step, reached, adds]
      refine linearized.takeEffect ⟨rfl, .returned, fun other elsewhere => ?_⟩ unanswered
        rfl rfl rfl
      refine (linearized.sound other).frame List.prefix_rfl (fun _ held => held) ?_
      intro addition lock found otherReached
      exact Access.get_perform adds addition.id
  | some addition =>
      obtain ⟨grown, located⟩ := traffic.table.keys_locate addition.key
      simp only [step, reached, adds]
      refine linearized.goOn ⟨rfl, .located adds located, fun other elsewhere => ?_⟩
        unanswered.symm rfl rfl
      exact (linearized.sound other).frame grown (fun _ held => held) fun _ _ _ _ => rfl

theorem Linearized.acquire (linearized : Linearized calls store traffic) {addition : Addition}
    {lock : Nat} (reached : traffic.stage caller = .located addition lock) :
    Linearized calls store (traffic.step calls caller) := by
  have unanswered : (traffic.stage caller).reply? = none := congrArg Stage.reply? reached
  cases held : traffic.holder lock with
  | some holder =>
      simp only [step, reached, held]
      exact linearized
  | none =>
      simp only [step, reached, held]
      cases reached ▸ linearized.sound caller with
      | located adds locks =>
          have holds : Function.update traffic.holder lock (some caller) lock = some caller :=
            Function.update_self ..
          refine linearized.goOn ⟨rfl, .holding adds locks holds, fun other elsewhere => ?_⟩
            unanswered.symm rfl rfl
          refine (linearized.sound other).frame List.prefix_rfl ?_ fun _ _ _ _ => rfl
          intro otherLock otherHolds
          have otherOne : otherLock ≠ lock := by
            rintro rfl
            rw [held] at otherHolds
            cases otherHolds
          exact (Function.update_of_ne otherOne _ _).trans otherHolds

theorem Linearized.read (linearized : Linearized calls store traffic) {addition : Addition}
    {lock : Nat} (reached : traffic.stage caller = .holding addition lock) :
    Linearized calls store (traffic.step calls caller) := by
  have unanswered : (traffic.stage caller).reply? = none := congrArg Stage.reply? reached
  cases reached ▸ linearized.sound caller with
  | holding adds locks holds =>
      cases got : traffic.store.get addition.key with
      | ok found =>
          simp only [step, reached, got]
          refine linearized.goOn ⟨rfl, .read adds locks holds got, fun other elsewhere => ?_⟩
            unanswered.symm rfl rfl
          exact (linearized.sound other).frame List.prefix_rfl (fun _ held => held)
            fun _ _ _ _ => rfl
      | error failure =>
          have refused : (calls caller).perform traffic.store =
              (.saved (.error failure), traffic.store) := by
            rw [Access.perform_addition adds, got]
            rfl
          simp only [step, reached, got]
          refine linearized.takeEffect ⟨rfl, .leaving holds, fun other elsewhere => ?_⟩ unanswered
            ?_ ?_ rfl
          · exact (linearized.sound other).frame List.prefix_rfl (fun _ held => held)
              fun _ _ _ _ => rfl
          · rw [refused]
            rfl
          · rw [refused]

theorem Linearized.writeBack (linearized : Linearized calls store traffic) {addition : Addition}
    {lock : Nat} {found : Option Record}
    (reached : traffic.stage caller = .read addition lock found) :
    Linearized calls store (traffic.step calls caller) := by
  have unanswered : (traffic.stage caller).reply? = none := congrArg Stage.reply? reached
  have sound := reached ▸ linearized.sound caller
  have apart : ∀ other ≠ caller, ∀ otherAddition otherLock otherFound,
      traffic.stage other = .read otherAddition otherLock otherFound →
        addition.key ≠ otherAddition.key := by
    intro other elsewhere otherAddition otherLock otherFound otherReached
    exact sound.read_apart (otherReached ▸ linearized.sound other) elsewhere
  cases sound with
  | read adds locks holds current =>
      -- The record is still the one that was read, so both halves come to one whole addition.
      have performed : (calls caller).perform traffic.store =
          settle traffic.store (addition.writeBack traffic.store found) := by
        rw [Access.perform_addition adds, current]
        rfl
      simp only [step, reached]
      refine linearized.takeEffect ⟨rfl, .leaving holds, fun other elsewhere => ?_⟩ unanswered
        ?_ ?_ rfl
      · refine (linearized.sound other).frame List.prefix_rfl (fun _ held => held) ?_
        intro otherAddition otherLock otherFound otherReached
        exact addition.get_writeBack found (apart other elsewhere _ _ _ otherReached)
      · rw [performed]
        rfl
      · rw [performed]

theorem Linearized.release (linearized : Linearized calls store traffic) {lock : Nat}
    {reply : StorageReply} (reached : traffic.stage caller = .leaving lock reply) :
    Linearized calls store (traffic.step calls caller) := by
  have answered : (traffic.stage caller).reply? = some reply := congrArg Stage.reply? reached
  cases reached ▸ linearized.sound caller with
  | leaving holds =>
      simp only [step, reached]
      refine linearized.goOn ⟨rfl, .returned, fun other elsewhere => ?_⟩ answered.symm rfl rfl
      refine (linearized.sound other).frame List.prefix_rfl ?_ fun _ _ _ _ => rfl
      intro otherLock otherHolds
      have otherOne : otherLock ≠ lock := by
        rintro rfl
        exact elsewhere (Option.some.inj (otherHolds.symm.trans holds))
      exact (Function.update_of_ne otherOne _ _).trans otherHolds

theorem Linearized.step (linearized : Linearized calls store traffic) (caller : Caller) :
    Linearized calls store (traffic.step calls caller) := by
  cases reached : traffic.stage caller with
  | begun => exact linearized.begin reached
  | located addition lock => exact linearized.acquire reached
  | holding addition lock => exact linearized.read reached
  | read addition lock found => exact linearized.writeBack reached
  | leaving lock reply => exact linearized.release reached
  | returned reply =>
      simp only [Traffic.step, reached]
      exact linearized

theorem Linearized.run (linearized : Linearized calls store traffic) (schedule : List Caller) :
    Linearized calls store (traffic.run calls schedule) := by
  induction schedule generalizing traffic with
  | nil => exact linearized
  | cons caller schedule induction => exact induction (linearized.step caller)

theorem order_step (calls : Caller → Access) (traffic : Traffic Caller) (caller : Caller) :
    traffic.order <+: (traffic.step calls caller).order := by
  unfold Traffic.step
  split
  · split
    · exact List.prefix_append _ _
    · exact List.prefix_rfl
  · split <;> exact List.prefix_rfl
  · split
    · exact List.prefix_rfl
    · exact List.prefix_append _ _
  · exact List.prefix_append _ _
  · exact List.prefix_rfl
  · exact List.prefix_rfl

theorem order_run (calls : Caller → Access) (traffic : Traffic Caller) (schedule : List Caller) :
    traffic.order <+: (traffic.run calls schedule).order := by
  induction schedule generalizing traffic with
  | nil => exact List.prefix_rfl
  | cons caller schedule induction => exact (order_step calls traffic caller).trans (induction _)

theorem run_append (calls : Caller → Access) (traffic : Traffic Caller) (early late : List Caller) :
    traffic.run calls (early ++ late) = (traffic.run calls early).run calls late :=
  List.foldl_append

end

section

variable {Caller : Type} {calls : Caller → Access} {replies : Caller → StorageReply}

def acknowledged (calls : Caller → Access) (replies : Caller → StorageReply)
    (order : List Caller) : List Metric :=
  order.filterMap fun caller => (calls caller).acknowledged? (replies caller)

theorem acknowledged_cons (calls : Caller → Access) (replies : Caller → StorageReply)
    (caller : Caller) (order : List Caller) :
    acknowledged calls replies (caller :: order) =
      ((calls caller).acknowledged? (replies caller)).toList ++
        acknowledged calls replies order := by
  rw [acknowledged, List.filterMap_cons]
  cases (calls caller).acknowledged? (replies caller) <;> rfl

theorem total_after {order : List Caller} {store : RecordStore}
    (answered : backend.replies (script calls order) store = order.map replies) (id : String) :
    total (backend.after (script calls order) store) id =
      total store id + Metric.gains id (acknowledged calls replies order) := by
  induction order generalizing store with
  | nil => exact (Int.add_zero _).symm
  | cons caller order induction =>
      rw [script, List.map_cons, Backend.replies_cons, List.map_cons, List.cons.injEq] at answered
      obtain ⟨first, rest⟩ := answered
      have added := (calls caller).total_perform store id
      have sameReply : ((calls caller).perform store).1 = replies caller := first
      rw [sameReply] at added
      rw [acknowledged_cons, Metric.gains_append, ← Int.add_assoc, ← added]
      exact induction rest

/-- Calls that were not answered with a success might as well not have been made. -/
theorem after_filter {order : List Caller} {store : RecordStore}
    (answered : backend.replies (script calls order) store = order.map replies) :
    backend.after (script calls (order.filter fun caller => (replies caller).isSaved)) store =
      backend.after (script calls order) store := by
  induction order generalizing store with
  | nil => rfl
  | cons caller order induction =>
      rw [script, List.map_cons, Backend.replies_cons, List.map_cons, List.cons.injEq] at answered
      obtain ⟨first, rest⟩ := answered
      cases isSaved : (replies caller).isSaved with
      | true =>
          rw [List.filter_cons_of_pos (by simpa using isSaved)]
          exact induction rest
      | false =>
          have unsaved : ((calls caller).perform store).1.isSaved = false := by
            rw [← isSaved]
            exact congrArg StorageReply.isSaved first
          have same : (backend.reply (calls caller).toCall store).2 = store :=
            Access.perform_unsaved unsaved
          rw [same] at rest
          rw [List.filter_cons_of_neg (by simp [isSaved]), induction rest]
          show _ = backend.after (script calls order) (backend.reply (calls caller).toCall store).2
          rw [same]

end

/-- When all calls have returned, their answers and the records are those of the calls made one
after the other in some order; a call that began when another had returned comes behind it. Nothing
of a call that was not answered with a success is left, and each counter has grown by the deltas
whose saves were. -/
theorem exists_order {Caller : Type} [DecidableEq Caller] (calls : Caller → Access)
    (store : RecordStore) (table : LockTable) (schedule : List Caller)
    {replies : Caller → StorageReply}
    (returned : ∀ caller, ((start store table).run calls schedule).stage caller =
      .returned (replies caller)) :
    ∃ order : List Caller, order.Nodup ∧ (∀ caller, caller ∈ order) ∧
      (∀ early late, schedule = early ++ late → ∀ caller other reply,
        ((start store table).run calls early).stage caller = .returned reply →
        ((start store table).run calls early).stage other = .begun →
          ∃ before behind, order = before ++ behind ∧ caller ∈ before ∧ other ∈ behind) ∧
      backend.replies (script calls order) store = order.map replies ∧
      backend.after (script calls order) store = ((start store table).run calls schedule).store ∧
      backend.after (script calls (order.filter fun caller => (replies caller).isSaved)) store =
        ((start store table).run calls schedule).store ∧
      ∀ id, total ((start store table).run calls schedule).store id = total store id +
        Metric.gains id (acknowledged calls replies order) := by
  have linearized := (linearized_start calls store table).run schedule
  have complete : ∀ caller, caller ∈ ((start store table).run calls schedule).order := by
    intro caller
    rw [linearized.effective, returned]
    rfl
  have answered := linearized.replies_eq returned
  refine ⟨_, linearized.nodup, complete, ?_, answered, linearized.records, ?_, fun id => ?_⟩
  · rintro early late rfl caller other reply callerReturned otherBegun
    have first := (linearized_start calls store table).run early
    obtain ⟨behind, whole⟩ := order_run calls ((start store table).run calls early) late
    rw [← run_append] at whole
    have earlyCaller : caller ∈ ((start store table).run calls early).order := by
      rw [first.effective, callerReturned]
      rfl
    have notEarly : other ∉ ((start store table).run calls early).order := by
      rw [first.effective, otherBegun]
      exact Bool.false_ne_true
    refine ⟨_, behind, whole.symm, earlyCaller, ?_⟩
    have placed := complete other
    rw [← whole, List.mem_append] at placed
    exact placed.resolve_left notEarly
  · rw [after_filter answered, linearized.records]
  · rw [← linearized.records, total_after answered]

/-- Two saves for one counter, of which only one fits, and one for a gauge of the same name. -/
def busyCalls : Fin 3 → Access
  | 0 => .save (.counter "c" 5) ""
  | 1 => .save (.counter "c" 0x7FFFFFFFFFFFFFFF) ""
  | 2 => .save (.gauge "c" .zero) ""

def busySchedule : List (Fin 3) := [0, 1, 0, 1, 0, 2, 1, 0, 1, 0, 1, 1, 1, 1]

def busyReplies : Fin 3 → StorageReply
  | 0 => .saved (.ok ())
  | 1 => .saved (.error (.badRequest (.overflow "c")))
  | 2 => .saved (.ok ())

theorem exists_order_busy :
    (∀ caller, ((start .empty .empty).run busyCalls busySchedule).stage caller =
      .returned (busyReplies caller)) ∧
      ∃ order : List (Fin 3), order.Nodup ∧ (∀ caller, caller ∈ order) ∧
        backend.replies (script busyCalls order) .empty = order.map busyReplies ∧
        backend.after (script busyCalls order) .empty =
          ((start .empty .empty).run busyCalls busySchedule).store := by
  have returned : ∀ caller, ((start .empty .empty).run busyCalls busySchedule).stage caller =
      .returned (busyReplies caller)
    | 0 => rfl
    | 1 => rfl
    | 2 => rfl
  obtain ⟨order, nodup, complete, -, replies, records, -⟩ :=
    exists_order busyCalls .empty .empty busySchedule returned
  exact ⟨returned, order, nodup, complete, replies, records⟩

end Traffic

end Telemetry.KeyValue
