import Telemetry.Proofs.Gzip.Member
import Telemetry.Proofs.Outcome
import Telemetry.Proofs.Server.Requests
import Telemetry.Proofs.Storage.Refinement

namespace Telemetry.Http

open Telemetry

/-! A batch that is posted is answered with success exactly if storage took in all of it, and
nothing that is refused before reaches storage. -/

namespace Response

@[simp] theorem status_addHeader (response : Response) (name value : String) :
    (response.addHeader name value).status = response.status := by
  unfold addHeader
  split <;> rfl

@[simp] theorem status_compressedFor (request : Request) (response : Response) :
    (response.compressedFor request).status = response.status := by
  unfold compressedFor
  by_cases small : response.body.length < leastCompressed
  · rw [if_pos small]
  · rw [if_neg small]
    cases request.takesGzip with
    | false => simp only [Bool.false_eq_true, if_false, status_addHeader]
    | true => simp only [if_true, status_addHeader]

end Response

theorem Refusal.le_status_toResponse (refusal : Refusal) : 400 ≤ refusal.toResponse.status := by
  show 400 ≤ refusal.kind.status
  cases refusal.kind <;> decide

end Telemetry.Http

namespace Telemetry.Server

open Telemetry Http

variable {State : Type} {settings : Settings} {backend : Backend State} {request : Request}
  {state : State}

/-- What comes of a posted batch: a response with its status, and the state of storage. -/
inductive BatchOutcome (settings : Settings) (backend : Backend State) (request : Request)
    (state : State) : Response × State → Prop where
  | refused (response : Response) (failed : 400 ≤ response.status) :
      BatchOutcome settings backend request state (response, state)
  | stored (decoded : Request) (decodes : settings.decode request = .ok decoded)
      (received : List Metric) (reads : Metric.listOfWire decoded.body = .ok received)
      (saved : (backend.saveMany settings.key received state).1 = .ok ())
      (response : Response) (succeeded : response.status = 200) :
      BatchOutcome settings backend request state
        (response, (backend.saveMany settings.key received state).2)
  | interrupted (decoded : Request) (decodes : settings.decode request = .ok decoded)
      (received : List Metric) (reads : Metric.listOfWire decoded.body = .ok received)
      (failure : Failure)
      (refusal : (backend.saveMany settings.key received state).1 = .error failure)
      (response : Response) (failed : 400 ≤ response.status) :
      BatchOutcome settings backend request state
        (response, (backend.saveMany settings.key received state).2)

theorem BatchOutcome.ofDecoded {decoded : Request}
    (decodes : settings.decode request = .ok decoded) :
    BatchOutcome settings backend request state
      (Endpoint.updates.respond backend settings.key decoded state) := by
  show BatchOutcome settings backend request state
    (withBody decoded (saveBatch backend settings.key decoded) state)
  unfold withBody
  split
  · exact .refused _ (by decide)
  · unfold saveBatch
    split
    · next refusal unread => exact .refused _ refusal.le_status_toResponse
    · next received read =>
        have reads : Metric.listOfWire decoded.body = .ok received := by
          unfold readBody at read
          obtain ⟨admitted, -, read⟩ := exists_of_bind_eq_ok read
          split at read
          · next body => rw [body, ← Except.ok.inj read]
          · cases read
        simp only []
        cases result : (backend.saveMany settings.key received state).1 with
        | ok saved => exact .stored decoded decodes received reads result _ rfl
        | error failure =>
            exact .interrupted decoded decodes received reads failure result _
              (Refusal.le_status_toResponse _)

theorem BatchOutcome.compressed {response : Response} {next : State}
    (outcome : BatchOutcome settings backend request state (response, next)) :
    BatchOutcome settings backend request state (response.compressedFor request, next) := by
  cases outcome with
  | refused response failed =>
      exact .refused _ ((Response.status_compressedFor request response).symm ▸ failed)
  | stored decoded decodes received reads saved response succeeded =>
      exact .stored decoded decodes received reads saved _
        ((Response.status_compressedFor request response).trans succeeded)
  | interrupted decoded decodes received reads failure refusal response failed =>
      exact .interrupted decoded decodes received reads failure refusal _
        ((Response.status_compressedFor request response).symm ▸ failed)

theorem Settings.serve_updates (isPost : request.method = "POST")
    (path : Endpoint.ofPath? request.path = some .updates) :
    BatchOutcome settings backend request state (settings.serve backend request state) := by
  rw [Settings.serve_post ⟨isPost, path⟩ rfl]
  unfold Settings.around
  cases admission : settings.admit request with
  | error refusal => exact (BatchOutcome.refused _ refusal.le_status_toResponse).compressed
  | ok admitted =>
      cases decodes : settings.decode request with
      | error refusal => exact (BatchOutcome.refused _ refusal.le_status_toResponse).compressed
      | ok decoded => exact (BatchOutcome.ofDecoded decodes).compressed

/-- A compressed body is decoded to what was compressed, or to what the server's key makes of
that. -/
theorem Settings.body_of_decode {decoded : Request} {clear : Bytes}
    (encoding : request.header? "content-encoding" = some "gzip")
    (body : request.body = Gzip.compress clear)
    (decodes : settings.decode request = .ok decoded) :
    decoded.body = clear ∨
      ∃ key ∈ settings.decryptor, (key.decrypt clear).toOption = some decoded.body := by
  have gzipped : isGzipped request = true := by
    rw [isGzipped, encoding]
    decide
  rw [Settings.decode, gzipped, body, Bool.true_or, if_pos rfl, decodeBody] at decodes
  simp only [if_true, Gzip.decompress_compress] at decodes
  split at decodes
  · cases decodes
  · cases holds : settings.decryptor with
    | none =>
        rw [holds] at decodes
        rw [← Except.ok.inj decodes]
        exact .inl rfl
    | some key =>
        rw [holds] at decodes
        simp only [Except.mapError, bind, Except.bind, pure, Except.pure] at decodes
        rw [← Except.ok.inj decodes]
        cases opened : (key.decrypt clear).toOption with
        | none => exact .inl rfl
        | some content => exact .inr ⟨key, rfl, opened⟩

end Telemetry.Server
