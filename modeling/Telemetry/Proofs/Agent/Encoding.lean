import Mathlib.NumberTheory.LucasLehmer
import Telemetry.Agent.Client
import Telemetry.Agent.Encoder
import Telemetry.Proofs.Gzip.Size
import Telemetry.Proofs.Metric.Wire
import Telemetry.Proofs.Rsa.Block
import Telemetry.Proofs.Server.Requests

namespace Telemetry

open Telemetry Http Server

/-! From the text of a metric to a body and back. The agent seals and compresses, the server
undoes both in the other order; each passes on as it is what it cannot seal or open. -/

namespace Rsa

variable {key : PrivateKey} {text : Bytes}

/-- Text that begins with an octet other than zero, as JSON does. -/
def IsText (text : Bytes) : Prop := ∃ byte tail, text = byte :: tail ∧ byte ≠ 0

theorem isText_toWire (metric : Metric) : IsText metric.toWire :=
  ⟨_, _, metric.toWire_eq, by decide⟩

theorem isText_listToWire (metrics : List Metric) : IsText (Metric.listToWire metrics) :=
  ⟨_, _, rfl, by decide⟩

/-- The key does not open a text. It opens none that is longer than the key. -/
def PrivateKey.Leaves (key : PrivateKey) (text : Bytes) : Prop :=
  text.length ≤ key.toPublic.size → ∃ failure, key.decrypt text = .error failure

theorem PrivateKey.Leaves.exists_failure (leaves : key.Leaves text) (isText : IsText text) :
    ∃ failure, key.decrypt text = .error failure := by
  by_cases short : text.length ≤ key.toPublic.size
  · exact leaves short
  · obtain ⟨byte, tail, rfl, nonzero⟩ := isText
    refine ⟨_, key.decrypt_of_long ?_⟩
    rw [List.dropWhile_cons_of_neg (by simpa using nonzero)]
    exact not_le.mp short

end Rsa

namespace Server

variable {decryptor : Option Rsa.PrivateKey} {settings : Settings} {request : Request}
  {text packed : Bytes}

/-- What a server that may have a key makes of a text. -/
def openBody (decryptor : Option Rsa.PrivateKey) (text : Bytes) : Bytes :=
  match decryptor with
  | none => text
  | some key => (key.decrypt text).toOption.getD text

theorem openBody_of_leaves (isText : Rsa.IsText text)
    (leaves : ∀ key, decryptor = some key → key.Leaves text) : openBody decryptor text = text := by
  cases decryptor with
  | none => rfl
  | some key =>
      obtain ⟨failure, closed⟩ := (leaves key rfl).exists_failure isText
      rw [openBody, closed]
      rfl

theorem Settings.decode_gzipped (gzipped : isGzipped request = true)
    (short : request.body.length ≤ encodedLimit)
    (unpacks : Gzip.decompress request.body = .ok packed) :
    settings.decode request =
      .ok { request with body := openBody settings.decryptor packed } := by
  have decoded : decodeBody settings.decryptor true request.body =
      .ok (openBody settings.decryptor packed) := by
    rw [decodeBody, if_neg (not_lt.mpr short), unpacks]
    cases settings.decryptor <;> rfl
  rw [Settings.decode, gzipped, Bool.true_or, if_pos rfl, decoded]
  rfl

/-- A body arrives as a text: that is what a request with the body, said to be compressed, is
decoded to, and what the endpoint is given that the request is posted to. -/
structure Settings.Receives (settings : Settings) (body text : Bytes) : Prop where
  decode : ∀ request, isGzipped request = true → request.body = body →
    settings.decode request = .ok { request with body := text }
  serve : ∀ {State : Type} (backend : Backend State) (request : Request) (endpoint : Endpoint)
    (state : State), isGzipped request = true → request.body = body → PostsTo request endpoint →
      endpoint.isRead = false → settings.admit request = .ok () →
        settings.serve backend request state =
          let (response, state) :=
            endpoint.respond backend settings.key { request with body := text } state
          (response.compressedFor request, state)

theorem Settings.receives_of_decompress {body : Bytes} (short : body.length ≤ encodedLimit)
    (unpacks : Gzip.decompress body = .ok packed)
    (opens : openBody settings.decryptor packed = text) : settings.Receives body text := by
  have decode : ∀ request, isGzipped request = true → request.body = body →
      settings.decode request = .ok { request with body := text } := by
    rintro request gzipped rfl
    rw [Settings.decode_gzipped gzipped short unpacks, opens]
  refine ⟨decode, ?_⟩
  intro State backend request endpoint state gzipped isBody posts writes admitted
  rw [settings.serve_post posts writes, Settings.around, admitted, decode request gzipped isBody]
  rfl

end Server

namespace Client

theorem encoding_of_request? {client : Client} {mode : DeliveryMode} {body : Bytes}
    {request : Request} (made : client.request? mode body = some request) :
    request.header? "content-encoding" = some "gzip" ∧ request.body = body := by
  unfold request? Request.ofParts? at made
  obtain ⟨path, -, made⟩ := Option.bind_eq_some_iff.mp made
  split at made
  · rw [← Option.some.inj made]
    refine ⟨?_, rfl⟩
    have found : ([("content-type", Bytes.ofText "application/json"),
        ("content-encoding", Bytes.ofText "gzip"),
        ("x-real-ip", Bytes.ofText client.host.text)].map fun header =>
          (lower header.1, header.2)).lookup "content-encoding" = some (Bytes.ofText "gzip") := rfl
    have isText : (Bytes.ofText "gzip").all isTextByte = true := by decide
    show Request.header? ⟨_, _, _, _⟩ _ = _
    rw [Request.header?, found]
    simp only [isText, if_true, Bytes.toText?_ofText]
  · cases made

end Client

namespace Encoder

variable {encoder : Encoder} {decryptor : Option Rsa.PrivateKey} {text : Bytes}

/-- There is no key that could seal the text: the agent has none, or the text is too long for it. -/
def SendsClear (encoder : Encoder) (text : Bytes) : Prop :=
  ∀ key, encoder.encryptor = some key → ¬ key.Takes text

/-- A server can read what an agent sends it if it has the other half of the agent's key. One that
has a key may also be sent bodies that nobody has sealed. -/
inductive IsMatchedBy (encoder : Encoder) (decryptor : Option Rsa.PrivateKey) : Prop where
  | unsealed (unkeyed : encoder.encryptor = none)
  | sealed (key : Rsa.PrivateKey) (seals : encoder.encryptor = some key.toPublic)
      (isKey : decryptor = some key) (opens : key.Opens)

theorem sealBody_of_sendsClear (clear : encoder.SendsClear text) (filler : Bytes) :
    encoder.sealBody filler text = text := by
  rw [sealBody]
  cases keyed : encoder.encryptor with
  | none => rfl
  | some key =>
      simp only [key.encrypt_of_not_takes (clear key keyed)]
      rfl

theorem openBody_sealBody (matched : encoder.IsMatchedBy decryptor)
    (isText : Rsa.IsText text)
    (leaves : encoder.SendsClear text → ∀ key, decryptor = some key → key.Leaves text)
    (filler : Bytes) : openBody decryptor (encoder.sealBody filler text) = text := by
  by_cases clear : encoder.SendsClear text
  · rw [sealBody_of_sendsClear clear]
    exact openBody_of_leaves isText (leaves clear)
  · simp only [SendsClear, not_forall, not_not] at clear
    obtain ⟨sealer, keyed, takes⟩ := clear
    cases matched with
    | unsealed unkeyed =>
        rw [unkeyed] at keyed
        cases keyed
    | sealed key seals isKey opens =>
        obtain rfl : key.toPublic = sealer := Option.some.inj (seals.symm.trans keyed)
        obtain ⟨sealedText, encrypted⟩ := key.toPublic.exists_encrypt takes filler
        simp only [sealBody, seals, isKey, openBody, encrypted, Except.toOption, Option.getD_some,
          opens filler text sealedText encrypted]

/-- What an agent encodes arrives as the text that it has written: sealed or in clear, alone or in a
batch, with or without a key on the server's side. -/
theorem receives_encoded (encoder : Encoder) (settings : Settings)
    (matched : encoder.IsMatchedBy settings.decryptor) :
    (∀ filler metric signed, Signature.attach metric encoder.key = .ok signed →
      (encoder.SendsClear signed.toWire →
        ∀ key, settings.decryptor = some key → key.Leaves signed.toWire) →
      ∃ body, encoder.encodeOne filler metric = .ok body ∧
        (body.length ≤ encodedLimit → settings.Receives body signed.toWire)) ∧
    ∀ metrics signed,
      metrics.mapM (fun metric => Signature.attach metric encoder.key) = .ok signed →
      (∀ key, settings.decryptor = some key → key.Leaves (Metric.listToWire signed)) →
      ∃ body, encoder.encodeAll metrics = .ok body ∧
        (body.length ≤ encodedLimit → settings.Receives body (Metric.listToWire signed)) := by
  refine ⟨fun filler metric signed attached leaves => ?_, fun metrics signed attached leaves => ?_⟩
  · refine ⟨Gzip.compress (encoder.sealBody filler signed.toWire), ?_, fun short => ?_⟩
    · rw [encodeOne, attached]
      rfl
    · exact Settings.receives_of_decompress short (Gzip.decompress_compress _)
        (openBody_sealBody matched (Rsa.isText_toWire signed) leaves filler)
  · refine ⟨Gzip.compress (Metric.listToWire signed), ?_, fun short => ?_⟩
    · rw [encodeAll, attached]
      rfl
    · exact Settings.receives_of_decompress short (Gzip.decompress_compress _)
        (openBody_of_leaves (Rsa.isText_listToWire signed) leaves)

/-- A key whose primes are Mersenne numbers. -/
def mersenneKey : Rsa.PrivateKey :=
  let first := 1 <<< 127 - 1
  let second := 1 <<< 521 - 1
  ⟨first * second, 13, (9 * (first - 1) * (second - 1) + 1) / 13, [first, second]⟩

theorem isGenuine_mersenneKey : mersenneKey.IsGenuine where
  sound := by decide +kernel
  prime prime member := by
    have first : 1 <<< 127 - 1 = mersenne 127 := by decide +kernel
    have second : 1 <<< 521 - 1 = mersenne 521 := by decide +kernel
    rcases List.mem_pair.mp member with isFirst | isSecond
    · rw [isFirst, first]
      exact lucas_lehmer_sufficiency 127 (by decide) (by norm_num)
    · rw [isSecond, second]
      exact lucas_lehmer_sufficiency 521 (by decide) (by norm_num)
  distinct := by decide +kernel

theorem receives_encoded_mersenneKey :
    (∃ body, encodeOne ⟨"", some mersenneKey.toPublic⟩ [] (.counter "c" 1) = .ok body ∧
      Settings.Receives ⟨"", some mersenneKey, none⟩ body (Metric.counter "c" 1).toWire) ∧
    ∃ body, encodeAll ⟨"", some mersenneKey.toPublic⟩
        [.counter "c" 1, .counter "c" 2, .counter "c" 3] = .ok body ∧
      Settings.Receives ⟨"", some mersenneKey, none⟩ body
        (Metric.listToWire [.counter "c" 1, .counter "c" 2, .counter "c" 3]) := by
  have matched : IsMatchedBy ⟨"", some mersenneKey.toPublic⟩ (some mersenneKey) :=
    .sealed mersenneKey rfl rfl isGenuine_mersenneKey.opens
  obtain ⟨single, batch⟩ := receives_encoded ⟨"", some mersenneKey.toPublic⟩
    ⟨"", some mersenneKey, none⟩ matched
  constructor
  · have takes : mersenneKey.toPublic.Takes (Metric.counter "c" 1).toWire := by
      unfold Rsa.PublicKey.Takes
      decide +kernel
    obtain ⟨body, encoded, receives⟩ := single [] (.counter "c" 1) _ rfl fun clear =>
      absurd takes (clear mersenneKey.toPublic rfl)
    refine ⟨body, encoded, receives ?_⟩
    rw [← Except.ok.inj encoded]
    exact (Gzip.length_compress_le _).trans (by decide +kernel)
  · obtain ⟨body, encoded, receives⟩ :=
      batch [.counter "c" 1, .counter "c" 2, .counter "c" 3] _ rfl <| by
        rintro key ⟨⟩ short
        exact absurd short (by decide +kernel)
    refine ⟨body, encoded, receives ?_⟩
    rw [← Except.ok.inj encoded]
    exact (Gzip.length_compress_le _).trans (by decide +kernel)

end Encoder

end Telemetry
