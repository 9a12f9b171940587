import Mathlib.Data.List.Forall2
import Telemetry.Proofs.Hex
import Telemetry.Proofs.Outcome
import Telemetry.Signature

namespace Telemetry.Signature

open Telemetry

/-! Signing touches the signature alone, and every valid metric can be signed. What is accepted
under a key is the signature of the canonical text, its letters in either case. -/

theorem canonical_of_validate {metric : Metric} (valid : metric.validate = .ok ()) :
    ∃ text, metric.canonical = .ok text := by
  unfold Metric.validate at valid
  cases kind : metric.kind with
  | gauge =>
      cases holds : metric.value with
      | none => simp [kind, holds] at valid
      | some value =>
          refine ⟨metric.id ++ ":gauge:" ++ Decimal.sixPlaces value, ?_⟩
          simp only [Metric.canonical, kind, holds]
  | counter =>
      cases holds : metric.delta with
      | none => simp [kind, holds] at valid
      | some delta =>
          refine ⟨metric.id ++ ":counter:" ++ Decimal.intText delta.toInt, ?_⟩
          simp only [Metric.canonical, kind, holds]
  | unknown name => simp [kind] at valid

def IsSigned (metric signed : Metric) : Prop := ∃ hash, signed = { metric with hash := hash }

theorem isSigned_of_attach {metric signed : Metric} {key : String}
    (attached : attach metric key = .ok signed) : IsSigned metric signed := by
  unfold attach at attached
  split at attached
  · exact ⟨metric.hash, (Except.ok.inj attached).symm⟩
  · obtain ⟨text, -, signs⟩ := exists_of_bind_eq_ok attached
    exact ⟨_, (Except.ok.inj signs).symm⟩

theorem attach_of_validate {metric : Metric} (valid : metric.validate = .ok ()) (key : String) :
    ∃ signed, attach metric key = .ok signed := by
  obtain ⟨text, canonical⟩ := canonical_of_validate valid
  unfold attach
  split
  · exact ⟨metric, rfl⟩
  · rw [canonical]
    exact ⟨_, rfl⟩

theorem mapM_attach {metrics : List Metric} (valid : ∀ metric ∈ metrics, metric.validate = .ok ())
    (key : String) :
    ∃ signed, metrics.mapM (attach · key) = .ok signed ∧ List.Forall₂ IsSigned metrics signed := by
  induction metrics with
  | nil => exact ⟨[], rfl, .nil⟩
  | cons metric metrics induction =>
      obtain ⟨first, attached⟩ := attach_of_validate (valid metric (by simp)) key
      obtain ⟨rest, restAttached, restSigned⟩ :=
        induction fun other member => valid other (by simp [member])
      refine ⟨first :: rest, ?_, .cons (isSigned_of_attach attached) restSigned⟩
      rw [List.mapM_cons, attached, restAttached]
      rfl

theorem toLower_sign (text key : String) : (sign text key).toLower = sign text key :=
  Hex.decode_eq_some_iff.mp (Hex.decode_encode _)

theorem digest_eq_of_sign_eq {text other key : String} (same : sign text key = sign other key) :
    Hmac.digest (Bytes.ofText key) (Bytes.ofText text) =
      Hmac.digest (Bytes.ofText key) (Bytes.ofText other) := by
  have decoded := congrArg Hex.decode same
  rw [sign, sign, Hex.decode_encode, Hex.decode_encode] at decoded
  exact Option.some.inj decoded

theorem sign_ne_empty (text key : String) : sign text key ≠ "" := by
  intro empty
  have decoded : Hex.decode (sign text key) =
      some (Hmac.digest (Bytes.ofText key) (Bytes.ofText text)) := Hex.decode_encode _
  have nothing : Hex.decode "" = some [] := rfl
  rw [empty, nothing] at decoded
  have length := congrArg List.length (Option.some.inj decoded)
  rw [Hmac.length_digest] at length
  cases length

section

variable {key text hash : String} {metric : Metric}

theorem attach_eq (keyed : key ≠ "") (canonical : metric.canonical = .ok text) :
    attach metric key = .ok { metric with hash := some (sign text key) } := by
  rw [attach, if_neg keyed, canonical]
  rfl

theorem verify_unkeyed (metric : Metric) : verify metric "" = .ok () := by
  unfold verify
  split
  · rfl
  · rfl

theorem verify_unsigned (unsigned : metric.hash = none ∨ metric.hash = some "") (key : String) :
    verify metric key = .ok () := by
  have absent : metric.signature = none := by
    rcases unsigned with none | empty
    · rw [Metric.signature, none]
      rfl
    · rw [Metric.signature, empty]
      rfl
  rw [verify, absent]

theorem verify_eq (keyed : key ≠ "") (signed : metric.hash = some hash) (written : hash ≠ "")
    (canonical : metric.canonical = .ok text) :
    verify metric key =
      if hash.toLower = sign text key then .ok ()
      else .error (.badRequest
        (if Hex.IsPairs hash then .wrongSignature metric.id
          else .malformedSignature metric.id)) := by
  have read : ∀ provided, Hex.decode hash = some provided ↔ hash.toLower = Hex.encode provided :=
    fun provided => Hex.decode_eq_some_iff
  have present : metric.signature = some hash := by
    rw [Metric.signature, signed]
    exact Option.filter_some_pos (decide_eq_true written)
  unfold verify
  simp only [present, if_neg keyed]
  cases decoded : Hex.decode hash with
  | none =>
      have notPairs : ¬ Hex.IsPairs hash := by
        rw [← Hex.isSome_decode, decoded]
        exact Bool.false_ne_true
      have different : hash.toLower ≠ sign text key := by
        intro same
        rw [(read _).mpr same] at decoded
        cases decoded
      rw [if_neg notPairs, if_neg different]
  | some provided =>
      have pairs : Hex.IsPairs hash := by
        rw [← Hex.isSome_decode, decoded]
        rfl
      have sameDigest : hash.toLower = sign text key ↔
          provided = Hmac.digest (Bytes.ofText key) (Bytes.ofText text) := by
        rw [sign, ← read, decoded, Option.some.injEq]
      simp only [canonical, bind, Except.bind, if_pos pairs, sameDigest]

/-- A signature over one text, checked against another. -/
theorem verify_signed {seen : String} (keyed : key ≠ "")
    (signed : metric.hash = some (sign text key)) (canonical : metric.canonical = .ok seen) :
    verify metric key = if sign seen key = sign text key then .ok ()
      else .error (.badRequest (.wrongSignature metric.id)) := by
  have pairs : Hex.IsPairs (sign text key) := by
    rw [← Hex.isSome_decode, sign, Hex.decode_encode]
    rfl
  rw [verify_eq keyed signed (sign_ne_empty text key) canonical, toLower_sign, if_pos pairs]
  simp only [@eq_comm _ (sign seen key)]

theorem verify_eq_ok_iff (canonical : metric.canonical = .ok text) :
    verify metric key = .ok () ↔
      key = "" ∨ metric.hash = none ∨ metric.hash = some "" ∨
        ∃ hash, metric.hash = some hash ∧ hash.toLower = sign text key := by
  by_cases keyed : key = ""
  · rw [keyed]
    exact iff_of_true (verify_unkeyed metric) (.inl rfl)
  · cases signed : metric.hash with
    | none => exact iff_of_true (verify_unsigned (.inl signed) key) (.inr (.inl rfl))
    | some hash =>
        by_cases written : hash = ""
        · rw [written] at signed ⊢
          exact iff_of_true (verify_unsigned (.inr signed) key) (.inr (.inr (.inl rfl)))
        · rw [verify_eq keyed signed written canonical]
          by_cases same : hash.toLower = sign text key
          · rw [if_pos same]
            exact iff_of_true rfl (.inr (.inr (.inr ⟨hash, rfl, same⟩)))
          · rw [if_neg same]
            refine iff_of_false (by simp) ?_
            simp [keyed, written, same]

theorem failure_of_verify {failure : Failure} (canonical : metric.canonical = .ok text)
    (refused : verify metric key = .error failure) :
    ∃ hash, metric.hash = some hash ∧ failure = .badRequest
      (if Hex.IsPairs hash then .wrongSignature metric.id else .malformedSignature metric.id) := by
  have notAccepted : ¬ verify metric key = .ok () := by
    rw [refused]
    exact fun accepted => nomatch accepted
  rw [verify_eq_ok_iff canonical, not_or, not_or, not_or] at notAccepted
  obtain ⟨keyed, present, written, different⟩ := notAccepted
  obtain ⟨hash, signed⟩ := Option.ne_none_iff_exists'.mp present
  rw [signed, Option.some.injEq] at written
  rw [verify_eq keyed signed written canonical,
    if_neg fun same => different ⟨hash, signed, same⟩] at refused
  exact ⟨hash, signed, (Except.error.inj refused).symm⟩

theorem verify_attach {signed : Metric} (attached : attach metric key = .ok signed)
    (canonical : metric.canonical = .ok text) : verify signed key = .ok () := by
  by_cases keyed : key = ""
  · rw [keyed]
    exact verify_unkeyed signed
  · rw [attach_eq keyed canonical] at attached
    obtain rfl := Except.ok.inj attached
    have stillCanonical : Metric.canonical { metric with hash := some (sign text key) } =
        .ok text := canonical
    rw [verify_signed keyed rfl stillCanonical, if_pos rfl]

end

end Telemetry.Signature
