import Telemetry.Proofs.Network.Subnet
import Telemetry.Proofs.Server.Batch
import Telemetry.Storage.KeyValue
import Telemetry.Storage.Table

namespace Telemetry.Server

open Telemetry Http

/-! A server that trusts a subnet. Whoever is not of it learns that and nothing else, and changes
nothing; whoever is of it finds the server that it would be without one. -/

variable {State : Type} {settings : Settings} {subnet : Subnet} {backend : Backend State}
  {request other : Request} {state : State}

/-- A request says where it is from in its first header for that, blanks around it aside. -/
def Claims (request : Request) (address : Address) : Prop :=
  ∃ value text, request.headers.lookup "x-real-ip" = some value ∧
    (∀ byte ∈ value, isTextByte byte = true) ∧ Bytes.toText? value = some text ∧
    Address.ofText? (Text.trim text) = some address

def IsTrusted (subnet : Subnet) (request : Request) : Prop :=
  ∃ address, Claims request address ∧ subnet.Spans address

theorem claimedAddress?_eq_some_iff {address : Address} :
    claimedAddress? request = some address ↔ Claims request address := by
  have name : lower realIpHeader = "x-real-ip" := by decide
  rw [claimedAddress?, name, Request.header?, Claims]
  cases request.headers.lookup "x-real-ip" with
  | none => simp
  | some value =>
      by_cases isText : value.all isTextByte = true
      · have allText := List.all_eq_true.mp isText
        simp only [isText, if_true, Option.bind_eq_some_iff]
        constructor
        · rintro ⟨text, reads, parses⟩
          exact ⟨value, text, rfl, allText, reads, parses⟩
        · rintro ⟨_, text, ⟨⟩, _, reads, parses⟩
          exact ⟨text, reads, parses⟩
      · have notText := isText
        rw [List.all_eq_true] at notText
        simp [isText, notText]

/-- What a sender from outside the subnet is told. -/
def turnedAway : Option Address → Refusal
  | none => ⟨.forbidden, s!"missing or invalid {realIpHeader} header"⟩
  | some address =>
    let address := address.text
    ⟨.forbidden, s!"{address} is not in the trusted subnet"⟩

theorem kind_turnedAway (address : Option Address) : (turnedAway address).kind = .forbidden := by
  cases address <;> rfl

theorem Settings.admit_of_isTrusted (gated : settings.subnet = some subnet)
    (trusted : IsTrusted subnet request) : settings.admit request = .ok () := by
  obtain ⟨address, claims, spans⟩ := trusted
  unfold Settings.admit
  rw [gated, claimedAddress?_eq_some_iff.mpr claims]
  simp [(subnet.contains_iff address).mpr spans]

theorem Settings.admit_of_not_isTrusted (gated : settings.subnet = some subnet)
    (untrusted : ¬ IsTrusted subnet request) :
    settings.admit request = .error (turnedAway (claimedAddress? request)) := by
  unfold Settings.admit
  rw [gated]
  cases claimed : claimedAddress? request with
  | none => rfl
  | some address =>
      have outside : subnet.contains address = false := by
        rw [← Bool.not_eq_true, subnet.contains_iff]
        exact fun spans => untrusted ⟨address, claimedAddress?_eq_some_iff.mp claimed, spans⟩
      simp only [outside, Bool.false_eq_true, if_false]
      rfl

@[simp] theorem body_addHeader (response : Response) (name value : String) :
    (response.addHeader name value).body = response.body := by
  unfold Response.addHeader
  split <;> rfl

theorem compressedFor_congr (accepts : request.headerTexts "accept-encoding" =
    other.headerTexts "accept-encoding") (response : Response) :
    response.compressedFor request = response.compressedFor other := by
  have takesGzip : request.takesGzip = other.takesGzip := by
    rw [Request.takesGzip, Request.takesGzip, preferences, preferences, accepts]
  rw [Response.compressedFor, Response.compressedFor, takesGzip]

def answersHead (path : String) : Bool :=
  (Endpoint.ofPath? path).any fun endpoint => endpoint.takes "HEAD"

theorem Settings.around_refused {refusal : Refusal}
    (refused : settings.admit request = .error refusal)
    (respond : Request → State → Response × State) (state : State) :
    settings.around request respond state = (refusal.toResponse.compressedFor request, state) := by
  rw [around, refused]
  rfl

/-- A request that is not admitted has the same answer at every path, but for the body, which the
head of a response is without. -/
theorem Settings.serve_refused {refusal : Refusal}
    (refused : settings.admit request = .error refusal) (backend : Backend State) (state : State) :
    (settings.serve backend request state).1.status = refusal.kind.status ∧
      (settings.serve backend request state).1.body =
        (if request.method = "HEAD" ∧ answersHead request.path = true then []
          else (refusal.toResponse.compressedFor request).body) ∧
      (settings.serve backend request state).2 = state := by
  have status : refusal.toResponse.status = refusal.kind.status := rfl
  unfold serve answersHead
  cases Endpoint.ofPath? request.path with
  | none => simp [around_refused refused, status]
  | some endpoint =>
      simp only [around_refused refused, Option.any_some]
      by_cases isHead : request.method = "HEAD"
      · by_cases taken : endpoint.takes "HEAD" = true
        · simp [isHead, taken, status]
        · simp [isHead, taken, status]
      · by_cases taken : endpoint.takes request.method = true
        · simp [isHead, taken, status]
        · simp [isHead, taken, status]

theorem Settings.serve_admitted (admitted : settings.admit request = .ok ())
    (backend : Backend State) (state : State) :
    settings.serve backend request state =
      { settings with subnet := none }.serve backend request state := by
  have around : ∀ respond : Request → State → Response × State,
      settings.around request respond state =
        { settings with subnet := none }.around request respond state := fun respond => by
    rw [Settings.around, Settings.around, admitted]
    rfl
  simp only [serve, around]

/-- The gate is exact and says nothing of the server. A request that does not say that it is from
the subnet is forbidden and changes nothing; its answer depends on its method, on where it says it
is from and on the encodings that it takes, but on no path, body, storage or key. Any other request
is served as if there were no subnet. -/
theorem Settings.serve_gated (backend : Backend State) (gated : settings.subnet = some subnet)
    (request : Request) (state : State) :
    (¬ IsTrusted subnet request →
      (settings.serve backend request state).1.status = 403 ∧
        (settings.serve backend request state).2 = state ∧
        ∀ {Elsewhere : Type} (elsewhere : Backend Elsewhere) (others : Settings) (other : Request)
          (otherState : Elsewhere), others.subnet = some subnet →
          other.method = request.method →
          (request.method = "HEAD" → answersHead other.path = answersHead request.path) →
          other.headers.lookup "x-real-ip" = request.headers.lookup "x-real-ip" →
          other.headerTexts "accept-encoding" = request.headerTexts "accept-encoding" →
          (others.serve elsewhere other otherState).1.status =
              (settings.serve backend request state).1.status ∧
            (others.serve elsewhere other otherState).1.body =
              (settings.serve backend request state).1.body) ∧
    (IsTrusted subnet request → settings.serve backend request state =
      { settings with subnet := none }.serve backend request state) := by
  refine ⟨fun untrusted => ?_, fun trusted =>
    settings.serve_admitted (settings.admit_of_isTrusted gated trusted) backend state⟩
  obtain ⟨status, body, same⟩ :=
    settings.serve_refused (settings.admit_of_not_isTrusted gated untrusted) backend state
  refine ⟨by rw [status, kind_turnedAway]; rfl, same, ?_⟩
  intro Elsewhere elsewhere others other otherState alsoGated method heads origin accepts
  have claims : ∀ address, Claims other address ↔ Claims request address := fun address => by
    rw [Claims, Claims, origin]
  have alsoUntrusted : ¬ IsTrusted subnet other := fun ⟨address, claimed, spans⟩ =>
    untrusted ⟨address, (claims address).mp claimed, spans⟩
  have claimed : claimedAddress? other = claimedAddress? request := by
    refine Option.ext fun address => ?_
    rw [claimedAddress?_eq_some_iff, claimedAddress?_eq_some_iff, claims]
  obtain ⟨otherStatus, otherBody, _⟩ := others.serve_refused
    (others.admit_of_not_isTrusted alsoGated alsoUntrusted) elsewhere otherState
  refine ⟨by rw [otherStatus, status, claimed], ?_⟩
  rw [otherBody, body, claimed, method, compressedFor_congr accepts]
  by_cases isHead : request.method = "HEAD"
  · rw [heads isHead]
  · simp [isHead]

def privateRange : Subnet := ⟨.v4 (Address.ofOctets 10 0 0 0), 8, by decide⟩

def privateSettings : Settings := ⟨"", none, some privateRange⟩

def claiming (address : String) (request : Request) : Request :=
  { request with headers := [("x-real-ip", Bytes.ofText address)] }

theorem not_isTrusted_of_headers_eq_nil (subnet : Subnet) (unheaded : request.headers = []) :
    ¬ IsTrusted subnet request := by
  rintro ⟨address, ⟨value, text, present, _⟩, _⟩
  rw [unheaded] at present
  cases present

theorem isTrusted_privateRange (request : Request) :
    IsTrusted privateRange (claiming "10.1.2.3" request) := by
  refine ⟨.v4 (Address.ofOctets 10 1 2 3), ⟨Bytes.ofText "10.1.2.3", "10.1.2.3", rfl, ?_, ?_, ?_⟩,
    rfl, ?_⟩
  · exact List.all_eq_true.mp (by decide)
  · exact Bytes.toText?_ofText "10.1.2.3"
  · decide
  · decide

/-- Another server behind the same gate, with a key and another storage. -/
def keyedSettings : Settings := ⟨"secret", none, some privateRange⟩

theorem serve_gated_privateSettings :
    privateSettings.subnet = some privateRange ∧
      ((privateSettings.serve KeyValue.backend (postTo "/update/") .empty).1.status = 403 ∧
        (privateSettings.serve KeyValue.backend (postTo "/update/") .empty).2 = .empty) ∧
      ((keyedSettings.serve Table.backend (postTo "/value/") .empty).1.status =
          (privateSettings.serve KeyValue.backend (postTo "/update/") .empty).1.status ∧
        (keyedSettings.serve Table.backend (postTo "/value/") .empty).1.body =
          (privateSettings.serve KeyValue.backend (postTo "/update/") .empty).1.body) ∧
      privateSettings.serve KeyValue.backend (claiming "10.1.2.3" (postTo "/update/")) .empty =
        plainSettings.serve KeyValue.backend (claiming "10.1.2.3" (postTo "/update/")) .empty := by
  have outside := (privateSettings.serve_gated KeyValue.backend rfl (postTo "/update/") .empty).1
    (not_isTrusted_of_headers_eq_nil privateRange rfl)
  obtain ⟨status, unchanged, elsewhere⟩ := outside
  have isPost : (postTo "/update/").method ≠ "HEAD" := by decide
  have same := elsewhere Table.backend keyedSettings (postTo "/value/") .empty rfl rfl
    (fun isHead => absurd isHead isPost) rfl rfl
  have inside := (privateSettings.serve_gated KeyValue.backend rfl
    (claiming "10.1.2.3" (postTo "/update/")) .empty).2 (isTrusted_privateRange _)
  exact ⟨rfl, ⟨status, unchanged⟩, same, inside⟩

def headOf (path : String) : Request := ⟨"HEAD", path, [], []⟩

/-- The head of a response has no body where there is a response; where there is none but for a
POST, the refusal is sent whole. -/
theorem not_forall_sameBody :
    ¬ ∀ request other : Request,
      (Endpoint.ofPath? request.path).isSome → (Endpoint.ofPath? other.path).isSome →
      ¬ IsTrusted privateRange request → ¬ IsTrusted privateRange other →
      other.method = request.method → other.headers = request.headers →
      (privateSettings.serve KeyValue.backend other .empty).1.body =
        (privateSettings.serve KeyValue.backend request .empty).1.body := by
  intro sameBody
  have untrusted : ∀ path, ¬ IsTrusted privateRange (headOf path) :=
    fun path => not_isTrusted_of_headers_eq_nil privateRange rfl
  have same := sameBody (headOf "/") (headOf "/update/") (by decide) (by decide) (untrusted _)
    (untrusted _) rfl rfl
  have refused : ∀ path, privateSettings.admit (headOf path) = .error (turnedAway none) :=
    fun path => rfl
  rw [(privateSettings.serve_refused (refused "/") KeyValue.backend .empty).2.1,
    (privateSettings.serve_refused (refused "/update/") KeyValue.backend .empty).2.1,
    if_neg (by decide), if_pos (by decide)] at same
  revert same
  decide

end Telemetry.Server
