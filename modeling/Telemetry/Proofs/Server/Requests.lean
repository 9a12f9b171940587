import Telemetry.Proofs.Storage.Admission
import Telemetry.Server.Service

namespace Telemetry.Server

open Telemetry Http

/-! Requests one after the other. They change storage by saving metrics and in no other way. -/

variable {State : Type} {backend : Backend State} {Keeps : State → Prop}

theorem saveOne_keeps
    (save : ∀ metric key state, Keeps state → Keeps (backend.save metric key state).2)
    (key : String) (metric : Metric) (response : Response) {state : State} (keeps : Keeps state) :
    Keeps (saveOne backend key metric response state).2 :=
  save metric key state keeps

theorem withBody_keeps {respond : State → Response × State} (request : Request) {state : State}
    (keeps : Keeps state) (responds : Keeps (respond state).2) :
    Keeps (withBody request respond state).2 := by
  unfold withBody
  split
  · exact keeps
  · exact responds

theorem Endpoint.respond_keeps
    (save : ∀ metric key state, Keeps state → Keeps (backend.save metric key state).2)
    (endpoint : Endpoint) (key : String) (request : Request) {state : State}
    (keeps : Keeps state) : Keeps (endpoint.respond backend key request state).2 := by
  cases endpoint with
  | listing => exact keeps
  | ping => exact keeps
  | update =>
      refine withBody_keeps request keeps ?_
      unfold saveBody
      split
      · exact keeps
      · exact saveOne_keeps save key _ _ keeps
  | updates =>
      refine withBody_keeps request keeps ?_
      unfold saveBatch
      split
      · exact keeps
      · exact Backend.saveMany_keeps (fun metric _ state => save metric key state) keeps
  | updateNamed kind name value =>
      show Keeps (saveNamed backend key kind name value state).2
      unfold saveNamed
      split
      · exact keeps
      · exact saveOne_keeps save key _ _ keeps
  | lookup => exact withBody_keeps request keeps keeps
  | lookupNamed kind name => exact keeps

theorem Settings.around_keeps (settings : Settings) (request : Request)
    {respond : Request → State → Response × State} {state : State} (keeps : Keeps state)
    (responds : ∀ decoded, Keeps (respond decoded state).2) :
    Keeps (settings.around request respond state).2 := by
  unfold Settings.around
  cases (do settings.admit request; settings.decode request) with
  | ok decoded => exact responds decoded
  | error refusal => exact keeps

theorem Settings.serve_keeps
    (save : ∀ metric key state, Keeps state → Keeps (backend.save metric key state).2)
    (settings : Settings) (request : Request) {state : State} (keeps : Keeps state) :
    Keeps (settings.serve backend request state).2 := by
  unfold Settings.serve
  split
  · exact settings.around_keeps request keeps fun _ => keeps
  · next endpoint _ =>
      split
      · exact settings.around_keeps request keeps fun decoded =>
          endpoint.respond_keeps save settings.key decoded keeps
      · exact settings.around_keeps request keeps fun _ => keeps

/-- The request is a POST to an endpoint. -/
def PostsTo (request : Request) (endpoint : Endpoint) : Prop :=
  request.method = "POST" ∧ Endpoint.ofPath? request.path = some endpoint

theorem Settings.serve_post {request : Request} {endpoint : Endpoint}
    (posts : PostsTo request endpoint) (writes : endpoint.isRead = false) (settings : Settings)
    (backend : Backend State) (state : State) :
    settings.serve backend request state =
      settings.around request (endpoint.respond backend settings.key) state := by
  obtain ⟨isPost, path⟩ := posts
  have taken : endpoint.takes request.method = true := by
    rw [Endpoint.takes, writes, isPost]
    rfl
  have notHead : ¬ request.method = "HEAD" := by
    rw [isPost]
    decide
  unfold Settings.serve
  rw [path]
  simp only [taken, if_true, notHead, if_false]

/-- The state after requests that came one after the other. -/
def Settings.serveAll (settings : Settings) (backend : Backend State) (requests : List Request)
    (state : State) : State :=
  requests.foldl (fun state request => (settings.serve backend request state).2) state

theorem Settings.serveAll_keeps
    (save : ∀ metric key state, Keeps state → Keeps (backend.save metric key state).2)
    (settings : Settings) (requests : List Request) {state : State} (keeps : Keeps state) :
    Keeps (settings.serveAll backend requests state) := by
  induction requests generalizing state with
  | nil => exact keeps
  | cons request requests induction => exact induction (settings.serve_keeps save request keeps)

def plainSettings : Settings := ⟨"", none, none⟩

def postTo (path : String) : Request := ⟨"POST", path, [], []⟩

end Telemetry.Server
