import Telemetry.Proofs.Metric.Spelled
import Telemetry.Proofs.Server.Effects
import Telemetry.Proofs.Storage.Permutation
import Telemetry.Proofs.Text.Blank

namespace Telemetry

open Telemetry Json

/-! An update that is spelled in a path and the same one in a JSON object. -/

section Storage

variable {state : Storage × Disk} {ledger : Ledger} {metric : Metric} {key : String}

theorem Ledger.failure_of_save (admitted : metric.admit key = .ok ()) {failure : Failure}
    (failed : (ledger.save metric key).1 = .error failure) :
    failure = .badRequest (.overflow metric.id) := by
  rw [Ledger.save, Metric.saveBy_admitted admitted] at failed
  cases metric.content with
  | gauge value isGauge holds =>
      rw [apply_gauge isGauge holds] at failed
      cases failed
  | counter delta isCounter holds =>
      by_cases fits : Counter.Fits (ledger.sum metric.id + delta.toInt)
      · rw [apply_counter isCounter holds fits] at failed
        cases failed
      · rw [apply_overflow isCounter holds fits] at failed
        exact (Except.error.inj failed).symm
  | invalid refusal invalid =>
      rw [Metric.admit_eq_ok, invalid] at admitted
      cases admitted.1

theorem Ledger.save_of_gain_eq_zero (admitted : metric.admit key = .ok ())
    (still : ∀ id, metric.gain id = 0) (ledger : Ledger) :
    (ledger.save metric key).1 = .ok () := by
  refine exists_save_of_fits admitted fun id => ?_
  rw [still, Int.add_zero]
  exact (ledger.total id).fits

theorem Ledger.saveMany_singleton (ledger : Ledger) (metric : Metric) (key : String) :
    ledger.saveMany key [metric] = ledger.save metric key := by
  rw [saveMany]
  obtain ⟨result, next⟩ := ledger.save metric key
  cases result <;> rfl

namespace Storage

theorem IsWritable.save (writable : IsWritable state) (holds : state.1.Holds ledger)
    (metric : Metric) (key : String) :
    (backend.save metric key state).1 = (ledger.save metric key).1 := by
  have alone := writable.saveMany holds [metric] key
  rwa [Backend.saveMany_singleton, Ledger.saveMany_singleton] at alone

/-- An update is refused only for the sum of a counter, or by storage that cannot be written. -/
theorem Holds.failure_of_save (holds : state.1.Holds ledger) (admitted : metric.admit key = .ok ())
    {failure : Failure} (failed : (backend.save metric key state).1 = .error failure) :
    failure = .badRequest (.overflow metric.id) ∨ failure.IsOutside ∧ ¬ IsWritable state := by
  by_cases writable : IsWritable state
  · rw [writable.save holds] at failed
    exact .inl (Ledger.failure_of_save admitted failed)
  · cases stored : (ledger.save metric key).1 with
    | ok saved => exact .inr ⟨holds.isOutside_of_save stored failed, writable⟩
    | error refusal =>
        obtain rfl := Ledger.failure_of_save admitted stored
        obtain ⟨storage, disk⟩ := state
        cases storage with
        | file store =>
            have represents : store.Represents ledger := holds
            obtain ⟨sameResult, -⟩ := Simulation.saveBy represents (represents.apply metric) key
            have failedThere : (FileStore.save metric key (store, disk)).1 = .error failure :=
              failed
            rw [stored] at sameResult
            rw [FileStore.save_eq] at failedThere
            generalize metric.saveBy FileStore.apply key store = saved at sameResult failedThere
            obtain ⟨result, next⟩ := saved
            obtain rfl : result = .error (.badRequest (.overflow metric.id)) := sameResult
            exact .inl (Except.error.inj failedThere).symm
        | database path table =>
            have readOnly : table.isReadOnly = true := Bool.not_eq_false _ ▸ writable
            have refused := Table.apply_readOnly readOnly (Metric.admit_eq_ok.mp admitted).1
            have failedThere : (table.save metric key).1 = .error failure := failed
            rw [Table.save_eq_saveBy, Metric.saveBy_admitted admitted, refused] at failedThere
            exact .inr ⟨.inr (Except.error.inj failedThere).symm, writable⟩
        | keyValue store => exact absurd trivial writable

end Storage

end Storage

namespace Server

open Http

variable {series : Series} {numeral : Numeral} {settings : Settings} {request : Request}

def spelledPath (series : Series) (name : String) (numeral : Numeral) : String :=
  "/update/" ++ series.kind.name ++ "/" ++ name ++ "/" ++ numeral.text

theorem ofPath?_spelledPath {name : String} (plain : '/' ∉ name.toList) :
    Endpoint.ofPath? (spelledPath series name numeral) =
      some (.updateNamed series.kind.name name numeral.text) := by
  have plainText : '/' ∉ numeral.text.toList := by
    rw [Numeral.text, String.toList_ofList]
    exact fun member => (Numeral.plain_of_mem_chars member).2.1 rfl
  have plainKind : '/' ∉ series.kind.name.toList := by
    cases series
    · show '/' ∉ "gauge".toList
      decide
    · show '/' ∉ "counter".toList
      decide
  have pieces : Text.pieces '/' (spelledPath series name numeral) =
      ["", "update", series.kind.name, name, numeral.text] := by
    have update : "/update/" =
        "" ++ (String.singleton '/' ++ ("update" ++ String.singleton '/')) := by decide
    have slash : "/" = String.singleton '/' := by decide
    rw [spelledPath, update, slash]
    simp only [String.append_assoc]
    rw [Text.pieces_append (by decide), Text.pieces_append (by decide),
      Text.pieces_append plainKind, Text.pieces_append plain, Text.pieces_plain plainText]
  rw [Endpoint.ofPath?, pieces]
  simp only [numeral.text_ne_empty, if_false]

def statusOf : Except Failure Unit → Nat
  | .ok () => 200
  | .error failure => (Refusal.ofFailure failure).kind.status

variable {State : Type} {backend : Backend State} {key : String} {state : State}

/-- What comes of a request that is to save a metric. -/
structure Saves (backend : Backend State) (key : String) (state : State) (metric : Metric)
    (outcome : Response × State) : Prop where
  status : outcome.1.status = statusOf (backend.save metric key state).1
  after : outcome.2 = (backend.save metric key state).2

/-- What comes of a request that no metric can be read of. -/
structure IsUnread (state : State) (outcome : Response × State) : Prop where
  status : outcome.1.status = 400
  after : outcome.2 = state

/-- What comes of a request of which a metric is read, or none. -/
def Performs (backend : Backend State) (key : String) (state : State)
    (outcome : Response × State) : Option Metric → Prop
  | some metric => Saves backend key state metric outcome
  | none => IsUnread state outcome

theorem saves_saveOne {metric : Metric} {response : Response} (fine : response.status = 200) :
    Saves backend key state metric (saveOne backend key metric response state) := by
  refine ⟨?_, rfl⟩
  show (orRefusal (backend.save metric key state).1 fun () => response).status = _
  cases (backend.save metric key state).1 with
  | ok saved => exact fine
  | error failure => rfl

theorem isUnread_toResponse {refusal : Refusal} (isBad : refusal.kind = .badRequest) :
    IsUnread state (refusal.toResponse, state) :=
  ⟨congrArg RefusalKind.status isBad, rfl⟩

theorem exists_spelledMetric (series : Series) (numeral : Numeral) : ∃ message,
    spelledMetric series.kind.name series.id numeral.text =
      (series.parsed numeral).elim (refuse .badRequest message) .ok := by
  cases series with
  | gauge id =>
      have kind : Kind.ofName (Series.gauge id).kind.name = .gauge := rfl
      refine ⟨"", ?_⟩
      rw [spelledMetric, kind]
      simp only [Numeral.readDouble?_text]
      rfl
  | counter id =>
      have kind : Kind.ofName (Series.counter id).kind.name = .counter := rfl
      refine ⟨s!"invalid counter delta '{numeral.text}'", ?_⟩
      rw [spelledMetric, kind, Series.parsed]
      cases Decimal.readInt64? numeral.text <;> rfl

theorem decodeText?_text (numeral : Numeral) :
    Text.Percent.decodeText? numeral.text = some numeral.text := by
  apply Text.Percent.decodeText?_plain
  rw [Numeral.ofText_text]
  intro byte member
  obtain ⟨c, isWritten, rfl⟩ := List.mem_map.mp member
  exact (Numeral.plain_of_mem_chars isWritten).2.2

theorem decodeText?_kind (series : Series) :
    Text.Percent.decodeText? series.kind.name = some series.kind.name := by
  cases series
  · exact (by decide : Text.Percent.decodeText? "gauge" = some "gauge")
  · exact (by decide : Text.Percent.decodeText? "counter" = some "counter")

theorem performs_saveNamed {name : String}
    (named : Text.Percent.decodeText? name = some series.id) :
    Performs backend key state
      (saveNamed backend key series.kind.name name numeral.text state)
      (series.parsed numeral) := by
  obtain ⟨message, isSpelled⟩ := exists_spelledMetric series numeral
  rw [saveNamed, namedMetric, decodePart, decodePart, decodePart, decodeText?_kind, named,
    decodeText?_text]
  simp only [bind, Except.bind, isSpelled]
  cases series.parsed numeral with
  | none => exact isUnread_toResponse rfl
  | some metric => exact saves_saveOne rfl

theorem exists_readBody {decoded : Request} (isJson : requireJson decoded = .ok ())
    (body : decoded.body = series.spelled numeral) : ∃ message,
    readBody Metric.ofWire decoded =
      (series.decoded numeral).elim (refuse .badRequest message) .ok := by
  rw [← Series.toOption_ofWire_spelled, readBody, isJson, body]
  cases Metric.ofWire (series.spelled numeral) with
  | ok metric => exact ⟨"", rfl⟩
  | error failure => exact ⟨_, rfl⟩

theorem performs_saveBody {decoded : Request} (isJson : requireJson decoded = .ok ())
    (body : decoded.body = series.spelled numeral) :
    Performs backend key state (saveBody backend key decoded state) (series.decoded numeral) := by
  obtain ⟨message, reads⟩ := exists_readBody isJson body
  rw [saveBody, reads]
  cases series.decoded numeral with
  | none => exact isUnread_toResponse rfl
  | some metric => exact saves_saveOne rfl

/-- A POST that updates a series by its path, with the number as it is spelled. -/
structure Settings.Names (settings : Settings) (series : Series) (numeral : Numeral)
    (request : Request) : Prop where
  method : request.method = "POST"
  path : ∃ name, '/' ∉ name.toList ∧ Text.Percent.decodeText? name = some series.id ∧
    request.path = spelledPath series name numeral
  fits : (Bytes.ofText request.path).length ≤ Target.lengthLimit
  admitted : settings.admit request = .ok ()
  decodes : ∃ decoded, settings.decode request = .ok decoded

/-- A POST that updates a series by an object, with the number as it is spelled. -/
structure Settings.Submits (settings : Settings) (series : Series) (numeral : Numeral)
    (request : Request) : Prop where
  method : request.method = "POST"
  path : request.path = "/update/"
  admitted : settings.admit request = .ok ()
  decodes : ∃ decoded, settings.decode request = .ok decoded ∧ requireJson decoded = .ok () ∧
    decoded.body = series.spelled numeral

theorem Performs.around {respond : Request → State → Response × State} {decoded : Request}
    {read : Option Metric} (admitted : settings.admit request = .ok ())
    (decodes : settings.decode request = .ok decoded)
    (performs : Performs backend key state (respond decoded state) read) :
    Performs backend key state (settings.around request respond state) read := by
  have outcome : settings.around request respond state =
      ((respond decoded state).1.compressedFor request, (respond decoded state).2) := by
    rw [Settings.around, admitted]
    simp only [bind, Except.bind, decodes]
  rw [outcome]
  cases read with
  | some metric =>
      exact ⟨(Response.status_compressedFor _ _).trans performs.status, performs.after⟩
  | none => exact ⟨(Response.status_compressedFor _ _).trans performs.status, performs.after⟩

namespace Settings

theorem Names.performs (names : settings.Names series numeral request) :
    Performs backend settings.key state (settings.serve backend request state)
      (series.parsed numeral) := by
  obtain ⟨name, plain, named, path⟩ := names.path
  obtain ⟨decoded, decodes⟩ := names.decodes
  have posts : PostsTo request (.updateNamed series.kind.name name numeral.text) :=
    ⟨names.method, by rw [path, ofPath?_spelledPath plain]⟩
  rw [settings.serve_post posts rfl]
  exact .around names.admitted decodes (performs_saveNamed named)

theorem Names.bounds (names : settings.Names series numeral request) :
    (Bytes.ofText series.id).length + numeral.bytes.length ≤ Target.lengthLimit := by
  obtain ⟨name, -, named, path⟩ := names.path
  have fits := names.fits
  have shorter := Text.Percent.length_le_of_decodeText? named
  rw [path] at fits
  simp only [spelledPath, Bytes.ofText_append, List.length_append, numeral.ofText_text] at fits
  omega

theorem Submits.performs (submits : settings.Submits series numeral request)
    (fits : (Bytes.ofText series.id).length + numeral.bytes.length ≤ Target.lengthLimit) :
    Performs backend settings.key state (settings.serve backend request state)
      (series.decoded numeral) := by
  obtain ⟨decoded, decodes, isJson, body⟩ := submits.decodes
  have posts : PostsTo request .update := ⟨submits.method, by rw [submits.path]; decide⟩
  have small : ¬ bodyLimit < decoded.body.length := by
    have length := series.length_spelled_le numeral
    rw [Target.lengthLimit] at fits
    rw [body, bodyLimit]
    omega
  rw [settings.serve_post posts rfl]
  refine .around submits.admitted decodes ?_
  show Performs backend settings.key state
    (withBody decoded (saveBody backend settings.key decoded) state) _
  rw [withBody, if_neg small]
  exact performs_saveBody isJson body

end Settings

section Requests

def submission (series : Series) (numeral : Numeral) : Request :=
  ⟨"POST", "/update/", [("content-type", Bytes.ofText jsonType)], series.spelled numeral⟩

theorem requireJson_submission (series : Series) (numeral : Numeral) :
    requireJson (submission series numeral) = .ok () := by
  have contentType : (submission series numeral).header? "content-type" = some jsonType := by
    have isText : (Bytes.ofText jsonType).all isTextByte = true := by decide
    show (if (Bytes.ofText jsonType).all isTextByte then Bytes.toText? (Bytes.ofText jsonType)
      else none) = _
    rw [if_pos isText, Bytes.toText?_ofText]
  have isJson : jsonType.startsWith jsonType = true := by decide +kernel
  rw [requireJson, contentType, Option.getD_some, if_pos isJson]

theorem submits_submission (series : Series) (numeral : Numeral) :
    plainSettings.Submits series numeral (submission series numeral) where
  method := rfl
  path := rfl
  admitted := rfl
  decodes := ⟨_, rfl, requireJson_submission series numeral, rfl⟩

theorem names_postTo {name : String} (plain : '/' ∉ name.toList)
    (named : Text.Percent.decodeText? name = some series.id)
    (fits : (Bytes.ofText (spelledPath series name numeral)).length ≤ Target.lengthLimit) :
    plainSettings.Names series numeral (postTo (spelledPath series name numeral)) where
  method := rfl
  path := ⟨name, plain, named, rfl⟩
  fits := fits
  admitted := rfl
  decodes := ⟨_, rfl⟩

/-- Whatever a series is called, there is a path that names it. -/
theorem exists_names (short : 3 * (Bytes.ofText series.id).length + numeral.bytes.length + 17 ≤
    Target.lengthLimit) : ∃ request, plainSettings.Names series numeral request := by
  have length := Text.Percent.length_encode series.id
  have kind : (Bytes.ofText series.kind.name).length ≤ 7 := by
    cases series
    · exact (by decide : (Bytes.ofText "gauge").length ≤ 7)
    · exact (by decide : (Bytes.ofText "counter").length ≤ 7)
  have update : (Bytes.ofText "/update/").length = 8 := rfl
  have slash : (Bytes.ofText "/").length = 1 := rfl
  refine ⟨_, names_postTo (fun member => (Text.Percent.mem_encode member).2 rfl)
    (Text.Percent.decodeText?_encode series.id) ?_⟩
  simp only [spelledPath, Bytes.ofText_append, List.length_append, numeral.ofText_text]
  omega

/-- The greatest odd number that is a double, with a fraction. -/
def greatestOdd : Numeral :=
  ⟨false, 9007199254740991, ['0'], none, List.forall_mem_singleton.mpr rfl⟩

def minusHalf : Numeral :=
  ⟨true, 5, [], some ⟨false, some true, ['1'], List.cons_ne_nil _ _,
    List.forall_mem_singleton.mpr rfl⟩, List.forall_mem_nil _⟩

def memory : Storage × Disk := (.file (.empty none .zero), Disk.empty)

end Requests

section Agreement

variable {state : Storage × Disk} {outcome other : Response × Storage × Disk} {metric : Metric}

/-- Two requests are answered with success both and leave storage the same, or are refused both and
leave it as it was. In storage that cannot be written both may fail, and leave it the same. -/
inductive Agree (state : Storage × Disk) (outcome other : Response × Storage × Disk) : Prop where
  | taken (success : outcome.1.isSuccess = true) (otherSuccess : other.1.isSuccess = true)
      (same : outcome.2 = other.2)
  | refused (status : outcome.1.status = 400) (otherStatus : other.1.status = 400)
      (kept : outcome.2 = state) (otherKept : other.2 = state)
  | failed (stuck : ¬ Storage.IsWritable state) (status : outcome.1.status = 500)
      (otherStatus : other.1.status = 500) (same : outcome.2 = other.2)

theorem isSuccess_of_status {response : Response} (fine : response.status = 200) :
    response.isSuccess = true := by
  rw [Response.isSuccess, fine]
  rfl

theorem status_of_isOutside {failure : Failure} (outside : failure.IsOutside) :
    (Refusal.ofFailure failure).kind.status = 500 := by
  rcases outside with io | rfl
  · cases failure <;> first | rfl | cases io
  · rfl

theorem Saves.agree (reachable : Storage.Reachable state) (admitted : metric.admit key = .ok ())
    (saves : Saves Storage.backend key state metric outcome)
    (otherSaves : Saves Storage.backend key state metric other) : Agree state outcome other := by
  obtain ⟨ledger, holds⟩ := reachable.exists_holds
  have same := saves.after.trans otherSaves.after.symm
  have status := saves.status
  have otherStatus := otherSaves.status
  cases saved : (Storage.backend.save metric key state).1 with
  | ok accepted =>
      rw [saved] at status otherStatus
      exact .taken (isSuccess_of_status status) (isSuccess_of_status otherStatus) same
  | error failure =>
      rw [saved] at status otherStatus
      rcases holds.failure_of_save admitted saved with rfl | ⟨outside, stuck⟩
      · have kept := Storage.snd_of_failed_save saved rfl
        exact .refused status otherStatus (saves.after.trans kept) (otherSaves.after.trans kept)
      · have isInternal := status_of_isOutside outside
        exact .failed stuck (status.trans isInternal) (otherStatus.trans isInternal) same

theorem admit_gauge (id : String) (value : Binary64) (key : String) :
    Metric.admit (.gauge id value) key = .ok () :=
  Metric.admit_eq_ok.mpr ⟨Metric.validate_gauge rfl rfl, rfl⟩

theorem admit_counter (id : String) (delta : Int64) (key : String) :
    Metric.admit (.counter id delta) key = .ok () :=
  Metric.admit_eq_ok.mpr ⟨Metric.validate_counter rfl rfl, rfl⟩

theorem admit_of_parsed (parsed : series.parsed numeral = some metric) (key : String) :
    metric.admit key = .ok () := by
  cases series with
  | gauge id =>
      obtain rfl := Option.some.inj parsed
      exact admit_gauge id numeral.double key
  | counter id =>
      obtain ⟨delta, -, rfl⟩ := Option.map_eq_some_iff.mp parsed
      exact admit_counter id delta key

theorem Performs.agree (reachable : Storage.Reachable state) {read : Option Metric}
    (admitted : ∀ metric, read = some metric → metric.admit key = .ok ())
    (performs : Performs Storage.backend key state outcome read)
    (otherPerforms : Performs Storage.backend key state other read) :
    Agree state outcome other := by
  cases read with
  | some metric => exact Saves.agree reachable (admitted metric rfl) performs otherPerforms
  | none =>
      exact .refused performs.status otherPerforms.status performs.after otherPerforms.after

/-- A metric is saved, and with success if storage can be written. -/
structure Stores (key : String) (state : Storage × Disk) (metric : Metric)
    (outcome : Response × Storage × Disk) : Prop
    extends Saves Storage.backend key state metric outcome where
  success : Storage.IsWritable state → outcome.1.isSuccess = true

theorem Saves.stores (reachable : Storage.Reachable state)
    (admitted : metric.admit key = .ok ()) (still : ∀ id, metric.gain id = 0)
    (saves : Saves Storage.backend key state metric outcome) :
    Stores key state metric outcome := by
  obtain ⟨ledger, holds⟩ := reachable.exists_holds
  refine ⟨saves, fun writable => isSuccess_of_status ?_⟩
  rw [saves.status, writable.save holds, ledger.save_of_gain_eq_zero admitted still]
  rfl

theorem stores_gauge (reachable : Storage.Reachable state) {id : String} {value : Binary64}
    (saves : Saves Storage.backend key state (.gauge id value) outcome) :
    Stores key state (.gauge id value) outcome :=
  saves.stores reachable (admit_gauge id value key) fun _ => rfl

theorem stores_zero (reachable : Storage.Reachable state) {id : String}
    (saves : Saves Storage.backend key state (.counter id 0) outcome) :
    Stores key state (.counter id 0) outcome :=
  saves.stores reachable (admit_counter id 0 key) fun other => by
    rw [Metric.gain]
    split <;> rfl

theorem Settings.Names.isBrief (names : settings.Names series numeral request) :
    numeral.IsBrief := by
  have bounds := names.bounds
  have length := numeral.length_add_length_le
  rw [Target.lengthLimit] at bounds
  rw [Numeral.IsBrief, exponentLimit]
  omega

/-- The same update on both ways. Numbers that are sure to be read the same have it saved alike or
refused alike. Any other gauge is set by its path to the double nearest to the number, and by an
object to one close to it, or to none if the number is close to infinity or beyond. Any other number
for a counter is minus zero, which counts as nothing in a path and is refused in an object. -/
theorem Settings.answers_spelled {byPath byBody : Request} (reachable : Storage.Reachable state)
    (names : settings.Names series numeral byPath)
    (submits : settings.Submits series numeral byBody) :
    (series.Agrees numeral → Agree state (settings.serve Storage.backend byPath state)
      (settings.serve Storage.backend byBody state)) ∧
    (∀ id, series = .gauge id →
      Stores settings.key state (.gauge id numeral.double)
        (settings.serve Storage.backend byPath state) ∧
      ((∃ value : Binary64, value.IsWithin 7 numeral.double ∧
          Stores settings.key state (.gauge id value)
            (settings.serve Storage.backend byBody state)) ∨
        Binary64.infinityMagnitude ≤ numeral.double.magnitude + 7 ∧
          IsUnread state (settings.serve Storage.backend byBody state))) ∧
    (∀ id, series = .counter id → numeral.text = "-0" →
      Stores settings.key state (.counter id 0) (settings.serve Storage.backend byPath state) ∧
        IsUnread state (settings.serve Storage.backend byBody state)) := by
  have byPathPerforms := @Names.performs _ _ _ _ _ Storage.backend state names
  have byBodyPerforms := @Submits.performs _ _ _ _ _ Storage.backend state submits names.bounds
  refine ⟨fun agrees => ?_, ?_, ?_⟩
  · rw [Series.decoded_of_agrees names.isBrief agrees] at byBodyPerforms
    exact Performs.agree reachable (fun metric parsed => admit_of_parsed parsed settings.key)
      byPathPerforms byBodyPerforms
  · rintro id rfl
    refine ⟨stores_gauge reachable byPathPerforms, ?_⟩
    rcases Series.decoded_gauge names.isBrief id with ⟨value, within, isValue⟩ | ⟨large, none⟩
    · rw [isValue] at byBodyPerforms
      exact .inl ⟨value, within, stores_gauge reachable byBodyPerforms⟩
    · rw [none] at byBodyPerforms
      exact .inr ⟨large, byBodyPerforms⟩
  · rintro id rfl minusZero
    rw [Series.parsed_minusZero minusZero] at byPathPerforms
    rw [Series.decoded_counter, if_pos minusZero] at byBodyPerforms
    exact ⟨stores_zero reachable byPathPerforms, byBodyPerforms⟩

theorem answers_spelled_minusHalf :
    Agree memory (plainSettings.serve Storage.backend (postTo "/update/gauge/a%20b/-5e-1") memory)
      (plainSettings.serve Storage.backend (submission (.gauge "a b") minusHalf) memory) := by
  have path : spelledPath (.gauge "a b") "a%20b" minusHalf = "/update/gauge/a%20b/-5e-1" := by
    decide
  have names : plainSettings.Names (.gauge "a b") minusHalf
      (postTo (spelledPath (.gauge "a b") "a%20b" minusHalf)) :=
    names_postTo (by decide) (by decide) (by rw [path]; decide)
  rw [path] at names
  have isExact : minusHalf.IsExact := .inr (by decide)
  exact (Settings.answers_spelled (.file none .zero Disk.empty) names
    (submits_submission _ _)).1 isExact

theorem not_forall_agree_spelled :
    ¬ ∀ (state : Storage × Disk) (series : Series) (numeral : Numeral) (byPath byBody : Request),
      Storage.Reachable state → plainSettings.Names series numeral byPath →
        plainSettings.Submits series numeral byBody →
          Agree state (plainSettings.serve Storage.backend byPath state)
            (plainSettings.serve Storage.backend byBody state) := by
  intro agree
  have path : spelledPath (.gauge "a") "a" greatestOdd =
      "/update/gauge/a/9007199254740991.0" := by
    decide
  have names : plainSettings.Names (.gauge "a") greatestOdd
      (postTo (spelledPath (.gauge "a") "a" greatestOdd)) :=
    names_postTo (by decide) (by decide) (by rw [path]; decide)
  rw [path] at names
  have submits := submits_submission (.gauge "a") greatestOdd
  have set := @Settings.Names.performs _ _ _ _ _ Storage.backend memory names
  have setOther := @Settings.Submits.performs _ _ _ _ _ Storage.backend memory submits names.bounds
  have parsed : (Series.gauge "a").parsed greatestOdd =
      some (.gauge "a" ⟨0x433FFFFFFFFFFFFF⟩) := by decide +kernel
  have decoded : (Series.gauge "a").decoded greatestOdd =
      some (.gauge "a" ⟨0x433FFFFFFFFFFFFE⟩) := by decide +kernel
  rw [parsed] at set
  rw [decoded] at setOther
  cases agree memory _ _ _ _ (.file none .zero Disk.empty) names submits with
  | taken success otherSuccess same =>
      have found := congrArg (Storage.backend.find (.query "a" .gauge) "")
        ((set.after.symm.trans same).trans setOther.after)
      cases found
  | refused status otherStatus kept otherKept => cases set.status.symm.trans status
  | failed stuck status otherStatus same => cases set.status.symm.trans status

end Agreement

end Server

end Telemetry
