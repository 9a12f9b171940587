import Mathlib.Data.List.Forall2
import Telemetry.Proofs.Json.Double
import Telemetry.Proofs.Json.Value

namespace Telemetry

open Telemetry Json

/-! A metric that is read back from its JSON form is the one that was written, up to its value,
which is the double that its text is read as. -/

namespace Metric

def fieldText (metric : Metric) : WireField → Option Bytes
  | .id => some (writeText metric.id)
  | .kind => some (writeText metric.kind.name)
  | .delta => metric.delta.map writeInt64
  | .value => metric.value.map writeBinary64
  | .hash => metric.hash.map writeText

def members (metric : Metric) : List (WireField × Bytes) :=
  wireOrder.filterMap fun field => (metric.fieldText field).map fun text => (field, text)

def memberText (member : WireField × Bytes) : Bytes :=
  writeText member.1.name ++ ascii ':' :: member.2

theorem toWire_eq (metric : Metric) :
    metric.toWire = ascii '\x7b' :: (((metric.members.map memberText).intersperse
      [ascii ',']).flatten ++ [ascii '\x7d']) := by
  obtain ⟨id, kind, delta, value, hash⟩ := metric
  cases delta <;> cases value <;> cases hash <;> rfl

/-- What is read where a metric was written. -/
def received (metric : Metric) : Metric :=
  { metric with
    kind := Kind.ofName metric.kind.name
    value := metric.value.bind reread? }

/-- The same metric up to its value. -/
structure Resembles (received sent : Metric) : Prop where
  id : received.id = sent.id
  kind : received.kind = Kind.ofName sent.kind.name
  delta : received.delta = sent.delta
  hash : received.hash = sent.hash

theorem resembles_received (metric : Metric) : metric.received.Resembles metric :=
  ⟨rfl, rfl, rfl, rfl⟩

theorem received_counter (id : String) (delta : Int64) :
    (counter id delta).received = counter id delta := rfl

theorem received_gauge (id : String) {value : Binary64} (finite : value.isFinite = true) :
    (gauge id value).received = gauge id (reread value) := by
  have read := reread?_of_isFinite finite
  simp [received, gauge, Kind.name, Kind.ofName, read]

theorem mem_members {metric : Metric} {member : WireField × Bytes} :
    member ∈ metric.members ↔ metric.fieldText member.1 = some member.2 := by
  obtain ⟨field, text⟩ := member
  simp only [members, List.mem_filterMap, Option.map_eq_some_iff, Prod.mk.injEq]
  constructor
  · rintro ⟨_, _, _, written, rfl, rfl⟩
    exact written
  · intro written
    refine ⟨field, ?_, text, written, rfl, rfl⟩
    cases field <;> decide

theorem nodup_members (metric : Metric) : (metric.members.map Prod.fst).Nodup := by
  obtain ⟨id, kind, delta, value, hash⟩ := metric
  cases delta <;> cases value <;> cases hash <;> simp [members, wireOrder, fieldText]

end Metric

namespace WireDraft

/-- The draft once a field of a metric has been read. -/
def note (metric : Metric) (draft : WireDraft) : WireField → WireDraft
  | .id => { draft with id := some metric.id }
  | .kind => { draft with kind := some metric.kind.name }
  | .delta => { draft with delta := some metric.delta }
  | .value => { draft with value := some (metric.value.bind reread?) }
  | .hash => { draft with hash := some metric.hash }

variable {metric : Metric} {draft : WireDraft} {field other : WireField} {text rest : Bytes}

theorem has_note (different : other ≠ field) :
    (note metric draft field).has other = draft.has other := by
  cases field <;> cases other <;> first | rfl | exact absurd rfl different

theorem read_fieldText (written : metric.fieldText field = some text) (stops : Stops rest) :
    draft.read field (text ++ rest) = .ok (note metric draft field, rest) := by
  cases field with
  | id =>
      rw [← Option.some.inj written, WireDraft.read, readText_writeText]
      rfl
  | kind =>
      rw [← Option.some.inj written, WireDraft.read, readText_writeText]
      rfl
  | delta =>
      obtain ⟨number, present, rfl⟩ := Option.map_eq_some_iff.mp written
      rw [WireDraft.read, readOptional_writeInt64 number stops, note, present]
      rfl
  | value =>
      obtain ⟨number, present, rfl⟩ := Option.map_eq_some_iff.mp written
      rw [WireDraft.read, readOptional_writeBinary64 number stops, note, present]
      rfl
  | hash =>
      obtain ⟨signature, present, rfl⟩ := Option.map_eq_some_iff.mp written
      rw [WireDraft.read, readOptional_writeText, note, present]
      rfl

theorem ofName?_name (field : WireField) : WireField.ofName? field.name = some field := by
  cases field <;> rfl

theorem readMembers_member (unread : draft.has field = false) (fuel : Nat) (text rest : Bytes) :
    readMembers (fuel + 1) true draft (Metric.memberText (field, text) ++ rest) =
        (do
          let (draft, rest) ← draft.read field (text ++ rest)
          readMembers fuel false draft rest) ∧
      readMembers (fuel + 1) false draft (ascii ',' :: (Metric.memberText (field, text) ++ rest)) =
        (do
          let (draft, rest) ← draft.read field (text ++ rest)
          readMembers fuel false draft rest) := by
  have named := readQuoted_escape field.name (ascii ':' :: (text ++ rest))
  have shape : Metric.memberText (field, text) ++ rest =
      quote :: ((Bytes.ofText field.name).flatMap escape ++
        quote :: (ascii ':' :: (text ++ rest))) := by
    rw [Metric.memberText, List.append_assoc, writeText_append, List.cons_append]
  rw [shape]
  refine ⟨?_, ?_⟩
  · rw [readMembers, afterSpace_cons _ (by decide)]
    simp only [if_neg (by decide : ¬ quote = ascii '\x7d'), if_true, named, bind, Except.bind,
      ofName?_name, unread, Bool.false_eq_true, if_false,
      afterSpace_cons _ (by decide : isSpace (ascii ':') = false)]
  · rw [readMembers, afterSpace_cons _ (by decide)]
    simp only [if_neg (by decide : ¬ ascii ',' = ascii '\x7d'), Bool.false_eq_true, if_false,
      if_true, afterSpace_cons _ (by decide : isSpace quote = false), named, bind, Except.bind,
      ofName?_name, unread, afterSpace_cons _ (by decide : isSpace (ascii ':') = false)]

/-- The members of an object behind its first one, and its end. -/
def laterMembers (members : List (WireField × Bytes)) (rest : Bytes) : Bytes :=
  members.flatMap (fun member => ascii ',' :: Metric.memberText member) ++ ascii '\x7d' :: rest

theorem laterMembers_cons (member : WireField × Bytes) (members : List (WireField × Bytes))
    (rest : Bytes) : laterMembers (member :: members) rest =
      ascii ',' :: (Metric.memberText member ++ laterMembers members rest) := by
  simp [laterMembers]

theorem stops_laterMembers (members : List (WireField × Bytes)) (rest : Bytes) :
    Stops (laterMembers members rest) := by
  cases members with
  | nil => exact .cons (by decide) rest
  | cons member members =>
      rw [laterMembers_cons]
      exact .cons (by decide) _

theorem length_lt_length_laterMembers (members : List (WireField × Bytes)) (rest : Bytes) :
    members.length < (laterMembers members rest).length := by
  induction members with
  | nil => exact Nat.succ_pos _
  | cons member members induction =>
      rw [laterMembers_cons, List.length_cons, List.length_cons, List.length_append]
      omega

theorem readMembers_laterMembers (members : List (WireField × Bytes))
    (written : ∀ member ∈ members, metric.fieldText member.1 = some member.2)
    (distinct : (members.map Prod.fst).Nodup)
    (unread : ∀ member ∈ members, draft.has member.1 = false) {fuel : Nat}
    (enough : members.length < fuel) (rest : Bytes) :
    readMembers fuel false draft (laterMembers members rest) =
      .ok ((members.map Prod.fst).foldl (note metric) draft, rest) := by
  induction members generalizing draft fuel with
  | nil =>
      obtain ⟨less, rfl⟩ := Nat.exists_eq_succ_of_ne_zero (Nat.ne_zero_of_lt enough)
      rw [laterMembers, List.flatMap_nil, List.nil_append, readMembers,
        afterSpace_cons _ (by decide), if_pos rfl]
      rfl
  | cons member members induction =>
      obtain ⟨less, rfl⟩ := Nat.exists_eq_succ_of_ne_zero (Nat.ne_zero_of_lt enough)
      obtain ⟨notLater, laterDistinct⟩ := List.nodup_cons.mp distinct
      have laterUnread : ∀ later ∈ members, (note metric draft member.1).has later.1 = false := by
        intro later present
        have different : later.1 ≠ member.1 :=
          fun same => notLater (same ▸ List.mem_map_of_mem present)
        rw [has_note different]
        exact unread later (List.mem_cons_of_mem _ present)
      have others := induction (fun later present => written later (List.mem_cons_of_mem _ present))
        laterDistinct laterUnread (Nat.lt_of_succ_lt_succ enough)
      rw [laterMembers_cons, (readMembers_member (unread member (by simp)) less member.2 _).2,
        read_fieldText (written member (by simp)) (stops_laterMembers members rest)]
      exact others

end WireDraft

namespace Metric

variable {metric : Metric}

theorem readRecord_toWire (metric : Metric) (rest : Bytes) :
    WireDraft.readRecord wireOrder (metric.toWire ++ rest) =
      .ok ((metric.members.map Prod.fst).foldl (WireDraft.note metric) .empty, rest) := by
  have present : (WireField.id, writeText metric.id) ∈ metric.members := mem_members.mpr rfl
  obtain ⟨first, more, membersAre⟩ := List.exists_cons_of_ne_nil (List.ne_nil_of_mem present)
  have written : ∀ member ∈ first :: more, metric.fieldText member.1 = some member.2 :=
    fun member present => mem_members.mp (membersAre ▸ present)
  have distinct : ((first :: more).map Prod.fst).Nodup := membersAre ▸ metric.nodup_members
  obtain ⟨notLater, laterDistinct⟩ := List.nodup_cons.mp distinct
  have unread : ∀ field, WireDraft.empty.has field = false := by
    intro field
    cases field <;> rfl
  have laterUnread : ∀ later ∈ more,
      (WireDraft.note metric .empty first.1).has later.1 = false := by
    intro later laterPresent
    have different : later.1 ≠ first.1 :=
      fun same => notLater (same ▸ List.mem_map_of_mem laterPresent)
    rw [WireDraft.has_note different]
    exact unread later.1
  have shape : metric.toWire ++ rest =
      ascii '\x7b' :: (memberText first ++ WireDraft.laterMembers more rest) := by
    rw [toWire_eq, membersAre, List.map_cons, flatten_intersperse, List.flatMap_map,
      WireDraft.laterMembers]
    simp
  have enough : more.length < (memberText first ++ WireDraft.laterMembers more rest).length := by
    have later := WireDraft.length_lt_length_laterMembers more rest
    rw [List.length_append]
    omega
  rw [shape, WireDraft.readRecord, afterSpace_cons _ (by decide), if_neg (by decide), if_pos rfl,
    (WireDraft.readMembers_member (unread first.1) _ first.2 _).1,
    WireDraft.read_fieldText (written first (by simp)) (WireDraft.stops_laterMembers more rest),
    membersAre]
  exact WireDraft.readMembers_laterMembers more
    (fun member present => written member (List.mem_cons_of_mem _ present)) laterDistinct
    laterUnread enough rest

theorem metric?_noted (metric : Metric) :
    ((metric.members.map Prod.fst).foldl (WireDraft.note metric) .empty).metric? =
      .ok metric.received := by
  obtain ⟨id, kind, delta, value, hash⟩ := metric
  cases delta <;> cases value <;> cases hash <;> rfl

/-- A metric is read from its JSON form, whatever follows it. -/
theorem readsBack_toWire : ReadsBack readWire toWire received := by
  intro metric rest
  simp only [readWire, readRecord_toWire, bind, Except.bind, metric?_noted, pure, Except.pure]

theorem opens_toWire : Opens toWire := by
  intro metric
  rw [toWire_eq]
  exact ⟨_, _, rfl, by decide, by decide⟩

theorem ofWire_toWire (metric : Metric) : ofWire metric.toWire = .ok metric.received := by
  have reads := readsBack_toWire metric []
  rw [List.append_nil] at reads
  simp only [ofWire, decode, reads, bind, Except.bind]
  rfl

theorem listOfWire_listToWire (metrics : List Metric) :
    listOfWire (listToWire metrics) = .ok (metrics.map received) := by
  have reads := readList_writeList readsBack_toWire opens_toWire metrics []
  rw [List.append_nil] at reads
  simp only [listOfWire, listToWire, decode, reads, bind, Except.bind]
  rfl

theorem resembles_of_listOfWire {sent received : List Metric}
    (reads : listOfWire (listToWire sent) = .ok received) :
    List.Forall₂ Resembles received sent := by
  rw [listOfWire_listToWire] at reads
  rw [← Except.ok.inj reads]
  exact List.forall₂_map_left_iff.mpr (List.forall₂_same.mpr fun metric _ =>
    metric.resembles_received)

end Metric

end Telemetry
