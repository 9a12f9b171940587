import Telemetry.Proofs.Outcome
import Telemetry.Proofs.Server.Batch
import Telemetry.Proofs.Storage.KeyValue
import Telemetry.Proofs.Storage.Table

namespace Telemetry

open Telemetry

/-! What requests leave in storage: each metric that one of them had accepted, once and in order,
and nothing of any other request. -/

namespace Backend

variable {State : Type} {backend : Backend State} {key : String} {state : State}

/-- A save that is refused leaves storage as it was. -/
def IsAtomic (backend : Backend State) : Prop :=
  ∀ metric key state failure, (backend.save metric key state).1 = .error failure →
    (backend.save metric key state).2 = state

def applyAll (backend : Backend State) (key : String) (metrics : List Metric) (state : State) :
    State :=
  metrics.foldl (fun state metric => (backend.save metric key state).2) state

/-- Each metric is accepted in the state that those before it leave. -/
def AcceptsAll (backend : Backend State) (key : String) (metrics : List Metric) (state : State) :
    Prop :=
  (backend.saveMany key metrics state).1 = .ok ()

theorem applyAll_append (metrics others : List Metric) :
    backend.applyAll key (metrics ++ others) state =
      backend.applyAll key others (backend.applyAll key metrics state) :=
  List.foldl_append

theorem saveMany_cons_of_ok {metric : Metric}
    (accepted : (backend.save metric key state).1 = .ok ()) (metrics : List Metric) :
    backend.saveMany key (metric :: metrics) state =
      backend.saveMany key metrics (backend.save metric key state).2 := by
  rw [saveMany, ← Prod.eta (backend.save metric key state), accepted]

theorem saveMany_cons_of_error {metric : Metric} {failure : Failure}
    (refused : (backend.save metric key state).1 = .error failure) (metrics : List Metric) :
    backend.saveMany key (metric :: metrics) state =
      (.error failure, (backend.save metric key state).2) := by
  rw [saveMany, ← Prod.eta (backend.save metric key state), refused]

theorem saveMany_append {metrics : List Metric} (accepted : backend.AcceptsAll key metrics state)
    (others : List Metric) :
    backend.saveMany key (metrics ++ others) state =
      backend.saveMany key others (backend.applyAll key metrics state) := by
  induction metrics generalizing state with
  | nil => rfl
  | cons metric metrics induction =>
      cases first : (backend.save metric key state).1 with
      | error failure =>
          rw [AcceptsAll, saveMany_cons_of_error first] at accepted
          cases accepted
      | ok saved =>
          rw [AcceptsAll, saveMany_cons_of_ok first] at accepted
          rw [List.cons_append, saveMany_cons_of_ok first, induction accepted]
          rfl

theorem snd_saveMany {metrics : List Metric} (accepted : backend.AcceptsAll key metrics state) :
    (backend.saveMany key metrics state).2 = backend.applyAll key metrics state := by
  have whole := saveMany_append accepted []
  rw [List.append_nil] at whole
  rw [whole]
  rfl

theorem acceptsAll_append {metrics others : List Metric}
    (accepted : backend.AcceptsAll key metrics state)
    (behind : backend.AcceptsAll key others (backend.applyAll key metrics state)) :
    backend.AcceptsAll key (metrics ++ others) state := by
  rw [AcceptsAll, saveMany_append accepted]
  exact behind

theorem exists_rejected {metrics : List Metric} {failure : Failure}
    (fails : (backend.saveMany key metrics state).1 = .error failure) :
    ∃ before rejected after, metrics = before ++ rejected :: after ∧
      backend.AcceptsAll key before state ∧
      (backend.save rejected key (backend.applyAll key before state)).1 = .error failure := by
  induction metrics generalizing state with
  | nil => cases fails
  | cons metric metrics induction =>
      cases first : (backend.save metric key state).1 with
      | error refusal =>
          rw [saveMany_cons_of_error first] at fails
          exact ⟨[], metric, metrics, rfl, rfl, first.trans fails⟩
      | ok saved =>
          rw [saveMany_cons_of_ok first] at fails
          obtain ⟨before, rejected, after, rfl, accepted, refused⟩ := induction fails
          refine ⟨metric :: before, rejected, after, rfl, ?_, refused⟩
          rw [AcceptsAll, saveMany_cons_of_ok first]
          exact accepted

theorem IsAtomic.snd_saveMany {before after : List Metric} {rejected : Metric} {failure : Failure}
    (atomic : backend.IsAtomic) (accepted : backend.AcceptsAll key before state)
    (refused : (backend.save rejected key (backend.applyAll key before state)).1 =
      .error failure) :
    (backend.saveMany key (before ++ rejected :: after) state).2 =
      backend.applyAll key before state := by
  rw [saveMany_append accepted, saveMany_cons_of_error refused]
  exact atomic _ _ _ _ refused

theorem saveMany_singleton (metric : Metric) :
    backend.saveMany key [metric] state = backend.save metric key state := by
  rw [← Prod.eta (backend.save metric key state)]
  cases saved : (backend.save metric key state).1 with
  | ok accepted => rw [saveMany_cons_of_ok saved, saveMany]
  | error failure => rw [saveMany_cons_of_error saved]

theorem IsAtomic.snd_saveMany_singleton {metric : Metric} (atomic : backend.IsAtomic)
    (rejected : ¬ backend.AcceptsAll key [metric] state) :
    (backend.saveMany key [metric] state).2 = state := by
  rw [AcceptsAll, saveMany_singleton] at rejected
  rw [saveMany_singleton]
  cases saved : (backend.save metric key state).1 with
  | ok accepted => exact absurd saved rejected
  | error failure => exact atomic _ _ _ _ saved

end Backend

theorem KeyValue.isAtomic_backend : KeyValue.backend.IsAtomic := by
  intro metric key store failure refused
  change (KeyValue.save metric key store).1 = .error failure at refused
  change (KeyValue.save metric key store).2 = store
  rw [KeyValue.save_eq_saveBy] at refused ⊢
  exact Metric.snd_saveBy_of_error refused

theorem Table.isAtomic_backend : Table.backend.IsAtomic := by
  intro metric key table failure refused
  change (table.save metric key).1 = .error failure at refused
  change (table.save metric key).2 = table
  rw [Table.save_eq_saveBy] at refused ⊢
  exact Metric.snd_saveBy_of_error refused

namespace Server

open Http

variable {State : Type} {settings : Settings} {backend : Backend State} {key : String}
  {request : Request} {state : State}

theorem isSuccess_compressedFor (request : Request) (response : Response) :
    (response.compressedFor request).isSuccess = response.isSuccess := by
  rw [Response.isSuccess, Response.isSuccess, Response.status_compressedFor]

theorem isSuccess_toResponse (refusal : Refusal) : refusal.toResponse.isSuccess = false := by
  have failed := refusal.le_status_toResponse
  rw [Response.isSuccess, Bool.and_eq_false_iff, decide_eq_false_iff_not]
  exact .inr (by simp only [decide_eq_false_iff_not]; omega)

theorem isSuccess_orRefusal {result : Except Failure Unit} {respond : Unit → Response}
    (succeeds : (respond ()).isSuccess = true) :
    (orRefusal result respond).isSuccess = true ↔ result = .ok () := by
  cases result with
  | ok value => exact iff_of_true succeeds rfl
  | error failure =>
      refine iff_of_false ?_ (by simp)
      rw [show orRefusal (.error failure) respond = (Refusal.ofFailure failure).toResponse from rfl,
        isSuccess_toResponse]
      decide

def TurnsAway {α : Type} (result : Except Response α) : Prop :=
  ∀ response, result = .error response → response.isSuccess = false

theorem TurnsAway.bind {α β : Type} {result : Except Response α} {next : α → Except Response β}
    (first : TurnsAway result) (behind : ∀ value, TurnsAway (next value)) :
    TurnsAway (result >>= next) := by
  intro response failed
  rcases error_of_bind_eq_error failed with early | ⟨value, -, late⟩
  · exact first response early
  · exact behind value response late

theorem turnsAway_decodePart (name part : String) : TurnsAway (decodePart name part) := by
  intro response failed
  rw [decodePart] at failed
  split at failed
  · cases failed
  · rw [← Except.error.inj failed]
    rfl

theorem turnsAway_namedMetric (kind name value : String) :
    TurnsAway (namedMetric kind name value) := by
  refine (turnsAway_decodePart _ _).bind fun kind => (turnsAway_decodePart _ _).bind fun name =>
    (turnsAway_decodePart _ _).bind fun value => ?_
  intro response failed
  cases spelled : spelledMetric kind name value with
  | error refusal =>
      rw [spelled] at failed
      rw [← Except.error.inj failed]
      exact isSuccess_toResponse refusal
  | ok metric =>
      rw [spelled] at failed
      cases failed

/-- What the server reads of a body, unless the request is turned away before or the body is not
what is read there. -/
def Settings.received? {α : Type} (settings : Settings) (read : Bytes → Except Failure α)
    (request : Request) : Option α :=
  match (do settings.admit request; settings.decode request) with
  | .error _ => none
  | .ok decoded =>
    if bodyLimit < decoded.body.length then none else (readBody read decoded).toOption

/-- A response, and the state of storage after the metrics that were submitted, if any were. The
response is a success exactly if all of them were accepted. -/
inductive Attempt (backend : Backend State) (key : String) (state : State) :
    Option (List Metric) → Response × State → Prop where
  | turnedAway (response : Response) (fails : response.isSuccess = false) :
      Attempt backend key state none (response, state)
  | submitted (metrics : List Metric) (response : Response)
      (agrees : response.isSuccess = true ↔ backend.AcceptsAll key metrics state) :
      Attempt backend key state (some metrics)
        (response, (backend.saveMany key metrics state).2)

namespace Attempt

variable {offered : Option (List Metric)}

theorem refused (refusal : Refusal) :
    Attempt backend key state none (refusal.toResponse, state) :=
  .turnedAway _ (isSuccess_toResponse refusal)

theorem compressed {response : Response} {next : State}
    (attempt : Attempt backend key state offered (response, next)) :
    Attempt backend key state offered (response.compressedFor request, next) := by
  cases attempt with
  | turnedAway response fails =>
      exact .turnedAway _ ((isSuccess_compressedFor request response).trans fails)
  | submitted metrics response agrees =>
      refine .submitted metrics _ ?_
      rw [isSuccess_compressedFor]
      exact agrees

theorem not_success {outcome : Response × State}
    (attempt : Attempt backend key state none outcome) : ¬ outcome.1.isSuccess = true := by
  cases attempt with
  | turnedAway response fails =>
      rw [fails]
      exact Bool.false_ne_true

theorem snd_turnedAway {outcome : Response × State}
    (attempt : Attempt backend key state none outcome) : outcome.2 = state := by
  cases attempt with
  | turnedAway response fails => rfl

theorem offered_of_success {outcome : Response × State}
    (attempt : Attempt backend key state offered outcome) (succeeds : outcome.1.isSuccess = true) :
    ∃ metrics, offered = some metrics := by
  cases offered with
  | none => exact absurd succeeds attempt.not_success
  | some metrics => exact ⟨metrics, rfl⟩

section

variable {metrics : List Metric} {outcome : Response × State}
  (attempt : Attempt backend key state (some metrics) outcome)

include attempt

theorem snd : outcome.2 = (backend.saveMany key metrics state).2 := by
  cases attempt with
  | submitted metrics response agrees => rfl

theorem isSuccess_iff : outcome.1.isSuccess = true ↔ backend.AcceptsAll key metrics state := by
  cases attempt with
  | submitted metrics response agrees => exact agrees

theorem taken (succeeds : outcome.1.isSuccess = true) :
    backend.AcceptsAll key metrics state ∧ outcome.2 = backend.applyAll key metrics state := by
  have accepted := attempt.isSuccess_iff.mp succeeds
  exact ⟨accepted, attempt.snd.trans (Backend.snd_saveMany accepted)⟩

theorem exists_rejected (fails : ¬ outcome.1.isSuccess = true) :
    ∃ before rejected after failure, metrics = before ++ rejected :: after ∧
      backend.AcceptsAll key before state ∧
      (backend.save rejected key (backend.applyAll key before state)).1 = .error failure := by
  cases result : (backend.saveMany key metrics state).1 with
  | ok accepted => exact absurd (attempt.isSuccess_iff.mpr result) fails
  | error failure =>
      obtain ⟨before, rejected, after, rest⟩ := Backend.exists_rejected result
      exact ⟨before, rejected, after, failure, rest⟩

end

theorem snd_rejected {metric : Metric} {outcome : Response × State}
    (attempt : Attempt backend key state (some [metric]) outcome) (atomic : backend.IsAtomic)
    (fails : ¬ outcome.1.isSuccess = true) : outcome.2 = state := by
  rw [attempt.snd]
  exact atomic.snd_saveMany_singleton fun accepted => fails (attempt.isSuccess_iff.mpr accepted)

theorem saveOne (metric : Metric) {response : Response} (succeeds : response.isSuccess = true) :
    Attempt backend key state (some [metric]) (saveOne backend key metric response state) := by
  rw [Server.saveOne, ← backend.saveMany_singleton metric]
  exact .submitted [metric] _ (isSuccess_orRefusal succeeds)

theorem saveBody (decoded : Request) :
    Attempt backend key state ((readBody Metric.ofWire decoded).toOption.map fun metric => [metric])
      (saveBody backend key decoded state) := by
  rw [Server.saveBody]
  cases readBody Metric.ofWire decoded with
  | error refusal => exact refused refusal
  | ok metric => exact saveOne metric rfl

theorem saveBatch (decoded : Request) :
    Attempt backend key state (readBody Metric.listOfWire decoded).toOption
      (saveBatch backend key decoded state) := by
  rw [Server.saveBatch]
  cases readBody Metric.listOfWire decoded with
  | error refusal => exact refused refusal
  | ok metrics => exact .submitted metrics _ (isSuccess_orRefusal rfl)

theorem saveNamed (backend : Backend State) (key : String) (state : State)
    (kind name value : String) :
    Attempt backend key state none (saveNamed backend key kind name value state) ∨
      ∃ metric, namedMetric kind name value = .ok metric ∧
        Attempt backend key state (some [metric])
          (saveNamed backend key kind name value state) := by
  rw [Server.saveNamed]
  cases named : namedMetric kind name value with
  | error response => exact .inl (.turnedAway _ (turnsAway_namedMetric kind name value _ named))
  | ok metric => exact .inr ⟨metric, rfl, saveOne metric rfl⟩

/-- A request with a body, at an endpoint that reads the body in one way and saves what it reads. -/
theorem served {α : Type} {read : Bytes → Except Failure α} {metrics : α → List Metric}
    {respond : Request → State → Response × State} {endpoint : Endpoint}
    (posts : PostsTo request endpoint) (writes : endpoint.isRead = false)
    (reads : ∀ decoded, endpoint.respond backend settings.key decoded state =
      withBody decoded (respond decoded) state)
    (responds : ∀ decoded, Attempt backend settings.key state
      ((readBody read decoded).toOption.map metrics) (respond decoded state)) :
    Attempt backend settings.key state ((settings.received? read request).map metrics)
      (settings.serve backend request state) := by
  rw [settings.serve_post posts writes, Settings.around, Settings.received?]
  cases (do settings.admit request; settings.decode request) with
  | error refusal => exact (refused refusal).compressed
  | ok decoded =>
      simp only [reads, withBody]
      split
      · exact (Attempt.turnedAway _ rfl).compressed
      · exact (responds decoded).compressed

theorem update {received : Option Metric} (posts : PostsTo request .update)
    (reads : settings.received? Metric.ofWire request = received) :
    Attempt backend settings.key state (received.map fun metric => [metric])
      (settings.serve backend request state) := by
  rw [← reads]
  exact served posts rfl (fun _ => rfl) saveBody

theorem updates {received : Option (List Metric)} (posts : PostsTo request .updates)
    (reads : settings.received? Metric.listOfWire request = received) :
    Attempt backend settings.key state received (settings.serve backend request state) := by
  have attempt : Attempt backend settings.key state
      ((settings.received? Metric.listOfWire request).map id)
      (settings.serve backend request state) := by
    refine served posts rfl (fun _ => rfl) fun decoded => ?_
    rw [Option.map_id]
    exact saveBatch decoded
  rw [Option.map_id, id, reads] at attempt
  exact attempt

theorem updateNamed {kind name value : String}
    (posts : PostsTo request (.updateNamed kind name value)) (settings : Settings)
    (backend : Backend State) (state : State) :
    Attempt backend settings.key state none (settings.serve backend request state) ∨
      ∃ metric, namedMetric kind name value = .ok metric ∧
        Attempt backend settings.key state (some [metric])
          (settings.serve backend request state) := by
  rw [settings.serve_post posts rfl, Settings.around]
  cases (do settings.admit request; settings.decode request) with
  | error refusal => exact .inl (refused refusal).compressed
  | ok decoded =>
      exact (saveNamed backend settings.key state kind name value).imp compressed
        fun ⟨metric, built, taken⟩ => ⟨metric, built, taken.compressed⟩

end Attempt

theorem Settings.snd_serve_of_reads
    (single : ¬ PostsTo request .update) (batch : ¬ PostsTo request .updates)
    (named : ∀ kind name value, ¬ PostsTo request (.updateNamed kind name value)) :
    (settings.serve backend request state).2 = state := by
  let Keeps (next : State) : Prop := next = state
  have start : Keeps state := rfl
  show Keeps (settings.serve backend request state).2
  unfold Settings.serve
  split
  · exact settings.around_keeps request start fun _ => start
  · next endpoint path =>
      split
      · next taken =>
          refine settings.around_keeps request start fun decoded => ?_
          cases endpoint with
          | listing | ping | lookupNamed kind name => rfl
          | lookup => exact withBody_keeps decoded start start
          | update => exact absurd ⟨of_decide_eq_true taken, path⟩ single
          | updates => exact absurd ⟨of_decide_eq_true taken, path⟩ batch
          | updateNamed kind name value =>
              exact absurd ⟨of_decide_eq_true taken, path⟩ (named kind name value)
      · exact settings.around_keeps request start fun _ => start

def Settings.Succeeds (settings : Settings) (backend : Backend State) (request : Request)
    (state : State) : Prop :=
  (settings.serve backend request state).1.isSuccess = true

/-- The metrics that a request has the storage save. -/
inductive Settings.Effect (settings : Settings) (backend : Backend State) (request : Request)
    (state : State) : List Metric → Prop where
  | single (metric : Metric) (posts : PostsTo request .update)
      (succeeds : settings.Succeeds backend request state)
      (received : settings.received? Metric.ofWire request = some metric) :
      Effect settings backend request state [metric]
  | named (kind name value : String) (metric : Metric)
      (posts : PostsTo request (.updateNamed kind name value))
      (succeeds : settings.Succeeds backend request state)
      (built : namedMetric kind name value = .ok metric) :
      Effect settings backend request state [metric]
  | batch (metrics : List Metric) (posts : PostsTo request .updates)
      (succeeds : settings.Succeeds backend request state)
      (received : settings.received? Metric.listOfWire request = some metrics) :
      Effect settings backend request state metrics
  /-- A batch that fails has been saved up to the first metric that was rejected. -/
  | interrupted (before : List Metric) (rejected : Metric) (after : List Metric)
      (failure : Failure) (posts : PostsTo request .updates)
      (fails : ¬ settings.Succeeds backend request state)
      (received : settings.received? Metric.listOfWire request =
        some (before ++ rejected :: after))
      (accepted : backend.AcceptsAll settings.key before state)
      (refused : (backend.save rejected settings.key
        (backend.applyAll settings.key before state)).1 = .error failure) :
      Effect settings backend request state before
  | undecoded (posts : PostsTo request .updates)
      (fails : ¬ settings.Succeeds backend request state)
      (received : settings.received? Metric.listOfWire request = none) :
      Effect settings backend request state []
  | other (batch : ¬ PostsTo request .updates)
      (single : PostsTo request .update → ¬ settings.Succeeds backend request state)
      (named : ∀ kind name value, PostsTo request (.updateNamed kind name value) →
        ¬ settings.Succeeds backend request state) :
      Effect settings backend request state []

/-- The metrics that requests have the storage save, each request in the state that the metrics of
those before it make. -/
inductive Settings.Effects (settings : Settings) (backend : Backend State) :
    List Request → State → List Metric → Prop where
  | nil (state : State) : Effects settings backend [] state []
  | cons {request : Request} {requests : List Request} {state : State} {now later : List Metric}
      (first : settings.Effect backend request state now)
      (rest : Effects settings backend requests (backend.applyAll settings.key now state) later) :
      Effects settings backend (request :: requests) state (now ++ later)

namespace Settings.Effect

theorem unchanged (atomic : backend.IsAtomic) (batch : ¬ PostsTo request .updates)
    (single : PostsTo request .update → ¬ settings.Succeeds backend request state)
    (named : ∀ kind name value, PostsTo request (.updateNamed kind name value) →
      ¬ settings.Succeeds backend request state) :
    (settings.serve backend request state).2 = state := by
  by_cases toUpdate : PostsTo request .update
  · cases received : settings.received? Metric.ofWire request with
    | none => exact (Attempt.update toUpdate received).snd_turnedAway
    | some metric =>
        exact (Attempt.update toUpdate received).snd_rejected atomic (single toUpdate)
  · by_cases toNamed : ∃ kind name value, PostsTo request (.updateNamed kind name value)
    · obtain ⟨kind, name, value, posts⟩ := toNamed
      rcases Attempt.updateNamed posts settings backend state with turned | ⟨metric, -, attempt⟩
      · exact turned.snd_turnedAway
      · exact attempt.snd_rejected atomic (named kind name value posts)
    · exact Settings.snd_serve_of_reads toUpdate batch fun kind name value posts =>
        toNamed ⟨kind, name, value, posts⟩

theorem holds {metrics : List Metric} (atomic : backend.IsAtomic)
    (effect : settings.Effect backend request state metrics) :
    backend.AcceptsAll settings.key metrics state ∧
      (settings.serve backend request state).2 =
        backend.applyAll settings.key metrics state := by
  cases effect with
  | single metric posts succeeds received => exact (Attempt.update posts received).taken succeeds
  | named kind name value metric posts succeeds built =>
      rcases Attempt.updateNamed posts settings backend state with
        turned | ⟨other, also, attempt⟩
      · exact absurd succeeds turned.not_success
      · obtain rfl : other = metric := Except.ok.inj (also.symm.trans built)
        exact attempt.taken succeeds
  | batch metrics posts succeeds received => exact (Attempt.updates posts received).taken succeeds
  | interrupted before rejected after failure posts fails received accepted refused =>
      exact ⟨accepted,
        (Attempt.updates posts received).snd.trans (atomic.snd_saveMany accepted refused)⟩
  | undecoded posts fails received => exact ⟨rfl, (Attempt.updates posts received).snd_turnedAway⟩
  | other batch single named => exact ⟨rfl, unchanged atomic batch single named⟩

end Settings.Effect

theorem Settings.exists_effect (settings : Settings) (backend : Backend State) (request : Request)
    (state : State) : ∃ metrics, settings.Effect backend request state metrics := by
  by_cases succeeds : settings.Succeeds backend request state
  · by_cases toUpdates : PostsTo request .updates
    · obtain ⟨metrics, received⟩ := (Attempt.updates toUpdates rfl).offered_of_success succeeds
      exact ⟨metrics, .batch metrics toUpdates succeeds received⟩
    · by_cases toUpdate : PostsTo request .update
      · obtain ⟨metrics, offered⟩ := (Attempt.update toUpdate rfl).offered_of_success succeeds
        obtain ⟨metric, received, -⟩ := Option.map_eq_some_iff.mp offered
        exact ⟨_, .single metric toUpdate succeeds received⟩
      · by_cases toNamed : ∃ kind name value, PostsTo request (.updateNamed kind name value)
        · obtain ⟨kind, name, value, posts⟩ := toNamed
          rcases Attempt.updateNamed posts settings backend state with
            turned | ⟨metric, built, -⟩
          · exact absurd succeeds turned.not_success
          · exact ⟨_, .named kind name value metric posts succeeds built⟩
        · exact ⟨[], .other toUpdates (fun posts => absurd posts toUpdate)
            fun kind name value posts => absurd ⟨kind, name, value, posts⟩ toNamed⟩
  · by_cases toUpdates : PostsTo request .updates
    · cases received : settings.received? Metric.listOfWire request with
      | none => exact ⟨[], .undecoded toUpdates succeeds received⟩
      | some metrics =>
          obtain ⟨before, rejected, after, failure, rfl, accepted, refused⟩ :=
            (Attempt.updates toUpdates received).exists_rejected succeeds
          exact ⟨before, .interrupted before rejected after failure toUpdates succeeds received
            accepted refused⟩
    · exact ⟨[], .other toUpdates (fun _ => succeeds) fun _ _ _ _ => succeeds⟩

namespace Settings.Effects

theorem holds {requests : List Request} {metrics : List Metric} (atomic : backend.IsAtomic)
    (effects : settings.Effects backend requests state metrics) :
    backend.AcceptsAll settings.key metrics state ∧
      settings.serveAll backend requests state =
        backend.applyAll settings.key metrics state := by
  induction effects with
  | nil state => exact ⟨rfl, rfl⟩
  | cons first rest induction =>
      -- The next request meets the state that these effects make, which is the state served.
      obtain ⟨accepted, served⟩ := first.holds atomic
      refine ⟨Backend.acceptsAll_append accepted induction.1, ?_⟩
      rw [Backend.applyAll_append, ← induction.2, ← served]
      rfl

end Settings.Effects

theorem Settings.exists_effects (settings : Settings) (backend : Backend State)
    (requests : List Request) (state : State) :
    ∃ metrics, settings.Effects backend requests state metrics := by
  induction requests generalizing state with
  | nil => exact ⟨[], .nil state⟩
  | cons request requests induction =>
      obtain ⟨now, first⟩ := settings.exists_effect backend request state
      obtain ⟨later, rest⟩ := induction (backend.applyAll settings.key now state)
      exact ⟨now ++ later, .cons first rest⟩

/-- Storage ends as after the metrics of the effects of the requests, each saved once and in order;
and each of them was accepted. -/
theorem Settings.serveAll_eq_applyAll (atomic : backend.IsAtomic) (settings : Settings)
    (requests : List Request) (state : State) :
    (∃ metrics, settings.Effects backend requests state metrics) ∧
      ∀ metrics, settings.Effects backend requests state metrics →
        backend.AcceptsAll settings.key metrics state ∧
          settings.serveAll backend requests state =
            backend.applyAll settings.key metrics state :=
  ⟨settings.exists_effects backend requests state, fun _ effects => effects.holds atomic⟩

/-- A batch whose second counter comes without a delta. -/
def brokenBatch : Request :=
  ⟨"POST", "/updates/", [("content-type", Bytes.ofText "application/json")],
    Metric.listToWire [.counter "c" 5, .query "c" .counter, .counter "c" 7]⟩

theorem serveAll_eq_applyAll_brokenBatch :
    KeyValue.backend.IsAtomic ∧
      plainSettings.serveAll KeyValue.backend
          [postTo "/update/counter/c/1", brokenBatch, ⟨"GET", "/ping", [], []⟩] .empty =
        KeyValue.backend.applyAll "" [.counter "c" 1, .counter "c" 5] .empty := by
  have ping : plainSettings.Effect KeyValue.backend ⟨"GET", "/ping", [], []⟩
      (KeyValue.backend.applyAll "" [.counter "c" 1, .counter "c" 5] .empty) [] :=
    .other (fun posts => absurd posts.1 (by decide)) (fun posts => absurd posts.1 (by decide))
      fun _ _ _ posts => absurd posts.1 (by decide)
  have batch : plainSettings.Effect KeyValue.backend brokenBatch
      (KeyValue.backend.applyAll "" [.counter "c" 1] .empty) [.counter "c" 5] := by
    have received : plainSettings.received? Metric.listOfWire brokenBatch =
        some ([.counter "c" 5] ++ .query "c" .counter :: [.counter "c" 7]) := by
      decide +kernel
    have refused : (KeyValue.save (.query "c" .counter) ""
        (KeyValue.backend.applyAll "" [.counter "c" 1, .counter "c" 5] .empty)).1 =
          .error (.badRequest (.missingDelta "c")) := rfl
    have fails : ¬ plainSettings.Succeeds KeyValue.backend brokenBatch
        (KeyValue.backend.applyAll "" [.counter "c" 1] .empty) := by
      intro succeeds
      have accepted := (Attempt.updates ⟨rfl, rfl⟩ received).isSuccess_iff.mp succeeds
      cases accepted
    exact .interrupted _ _ _ _ ⟨rfl, rfl⟩ fails received rfl refused
  have named : plainSettings.Effect KeyValue.backend (postTo "/update/counter/c/1") .empty
      [.counter "c" 1] :=
    .named "counter" "c" "1" _ ⟨rfl, rfl⟩ rfl rfl
  -- The batch stops at its second metric, so the third is never tried.
  have effects := Settings.Effects.cons named (.cons batch (.cons ping (.nil _)))
  exact ⟨KeyValue.isAtomic_backend,
    ((Settings.serveAll_eq_applyAll KeyValue.isAtomic_backend _ _ _).2 _ effects).2⟩

end Server

end Telemetry
