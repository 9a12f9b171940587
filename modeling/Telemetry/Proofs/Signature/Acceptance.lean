import Telemetry.Proofs.Metric.Canonical
import Telemetry.Proofs.Signature

namespace Telemetry.Signature

open Telemetry

/-! Which signatures are accepted on which metrics: that of the metric's own canonical text, and so
no signature of a metric that differs in what its text tells. -/

/-- Under a key, the only signature that is accepted is that of the canonical text, its letters in
either case. -/
theorem verify_iff {metric : Metric} (valid : metric.validate = .ok ()) (key : String) :
    (verify metric key = .ok () ↔
      key = "" ∨ metric.hash = none ∨ metric.hash = some "" ∨
        ∃ hash text, metric.hash = some hash ∧ metric.canonical = .ok text ∧
          hash.toLower = sign text key) ∧
      (∀ failure, verify metric key = .error failure →
        ∃ hash, metric.hash = some hash ∧ failure = .badRequest
          (if Hex.IsPairs hash then .wrongSignature metric.id
            else .malformedSignature metric.id)) ∧
      ∃ signed, attach metric key = .ok signed ∧ IsSigned metric signed ∧
        verify signed key = .ok () := by
  obtain ⟨text, canonical⟩ := canonical_of_validate valid
  obtain ⟨signed, attached⟩ := attach_of_validate valid key
  refine ⟨?_, fun failure refused => failure_of_verify canonical refused, signed, attached,
    isSigned_of_attach attached, verify_attach attached canonical⟩
  simp only [verify_eq_ok_iff canonical, canonical, Except.ok.injEq, exists_and_left,
    exists_eq_left']

/-- A counter with a signature in capitals. -/
def signedInCapitals : Metric :=
  { Metric.counter "PollCount" 1 with
    hash := some "47B1111496E05161480C11EF38A015C67F4B5DE9BDE1B7E355E92E817630BB1D" }

theorem verify_iff_capitals :
    signedInCapitals.validate = .ok () ∧ verify signedInCapitals "k" = .ok () := by
  have valid : signedInCapitals.validate = .ok () := rfl
  have sameText : "47B1111496E05161480C11EF38A015C67F4B5DE9BDE1B7E355E92E817630BB1D".toLower =
      sign "PollCount:counter:1" "k" := by
    decide +kernel
  exact ⟨valid, (verify_iff valid "k").1.mpr (.inr (.inr (.inr ⟨_, _, rfl, rfl, sameText⟩)))⟩

/-- Canonical texts are the same only for metrics of one kind, one id and one figure. So a signature
is refused on every metric that differs in one of these, unless the digests of the two texts
collide. -/
theorem canonical_unambiguous {metric other : Metric} (valid : metric.validate = .ok ())
    (otherValid : other.validate = .ok ()) :
    (metric.canonical = other.canonical ↔ metric.SignedAlike other) ∧
      ∀ key signed, key ≠ "" → attach metric key = .ok signed → ¬ metric.SignedAlike other →
        (∀ text otherText, metric.canonical = .ok text → other.canonical = .ok otherText →
          Hmac.digest (Bytes.ofText key) (Bytes.ofText text) =
            Hmac.digest (Bytes.ofText key) (Bytes.ofText otherText) → text = otherText) →
        verify { other with hash := signed.hash } key =
          .error (.badRequest (.wrongSignature other.id)) := by
  have alike_iff := Metric.canonical_eq_iff valid otherValid
  refine ⟨alike_iff, fun key signed keyed attached unlike noCollision => ?_⟩
  obtain ⟨text, canonical⟩ := canonical_of_validate valid
  obtain ⟨otherText, otherCanonical⟩ := canonical_of_validate otherValid
  rw [attach_eq keyed canonical] at attached
  obtain rfl := Except.ok.inj attached
  have moved : Metric.canonical { other with hash := some (sign text key) } = .ok otherText :=
    otherCanonical
  have different : sign otherText key ≠ sign text key := by
    intro same
    have sameText := noCollision text otherText canonical otherCanonical
      (digest_eq_of_sign_eq same).symm
    apply unlike
    rw [← alike_iff, canonical, otherCanonical, sameText]
  exact (verify_signed keyed rfl moved).trans (if_neg different)

theorem canonical_unambiguous_colons :
    (Metric.counter "a:counter:1" 2).validate = .ok () ∧
      (Metric.counter "a" 1).validate = .ok () ∧
      ∃ signed, attach (.counter "a:counter:1" 2) "k" = .ok signed ∧
        verify { Metric.counter "a" 1 with hash := signed.hash } "k" =
          .error (.badRequest (.wrongSignature "a")) := by
  have valid : (Metric.counter "a:counter:1" 2).validate = .ok () := rfl
  have otherValid : (Metric.counter "a" 1).validate = .ok () := rfl
  have unlike : ¬ (Metric.counter "a:counter:1" 2).SignedAlike (.counter "a" 1) :=
    fun alike => absurd alike.id (by decide)
  have different : Hmac.digest (Bytes.ofText "k") (Bytes.ofText "a:counter:1:counter:2") ≠
      Hmac.digest (Bytes.ofText "k") (Bytes.ofText "a:counter:1") := by
    decide +kernel
  refine ⟨valid, otherValid, _, rfl,
    (canonical_unambiguous valid otherValid).2 "k" _ (by decide) rfl unlike ?_⟩
  intro text otherText canonical otherCanonical same
  obtain rfl := Except.ok.inj canonical
  obtain rfl := Except.ok.inj otherCanonical
  exact absurd same different

end Telemetry.Signature
