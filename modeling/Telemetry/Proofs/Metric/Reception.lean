import Telemetry.Proofs.Json.Exact
import Telemetry.Proofs.Metric.Wire
import Telemetry.Proofs.Signature
import Telemetry.Storage.Backend

namespace Telemetry

open Telemetry

/-! A signed metric on its way to a server. The signature covers the double that was sent and is
checked against the double that was read, so it holds where both have the same six places. -/

namespace Metric

/-- What an agent has to report, not yet signed. -/
inductive IsSample : Metric → Prop where
  | gauge (id : String) {value : Binary64} (finite : value.isFinite = true) :
      IsSample (.gauge id value)
  | counter (id : String) (delta : Int64) : IsSample (.counter id delta)

namespace IsSample

variable {sample : Metric}

theorem validate (isSample : sample.IsSample) : sample.validate = .ok () := by
  cases isSample <;> rfl

theorem validate_received (isSample : sample.IsSample) : sample.received.validate = .ok () := by
  cases isSample with
  | gauge id finite =>
      rw [Metric.received_gauge id finite]
      rfl
  | counter id delta => rfl

theorem received_counter (isSample : sample.IsSample) (isCounter : sample.kind = .counter) :
    sample.received = sample := by
  cases isSample with
  | gauge id finite => cases isCounter
  | counter id delta => rfl

theorem received_of_isShort (isSample : sample.IsSample) {value : Binary64}
    (holds : sample.value = some value) (short : Json.IsShort (Json.spelled value)) :
    sample.received = sample := by
  cases isSample with
  | gauge id finite =>
      obtain rfl := Option.some.inj holds
      rw [Metric.received_gauge id finite, Json.reread_of_isShort finite short]
  | counter id delta => cases holds

end IsSample

end Metric

namespace Signature

variable {key text seen : String} {metric sample sent : Metric}

/-- What becomes of a metric that was signed, sent and read. -/
structure Arrives (key : String) (sample sent : Metric) : Prop where
  attached : attach sample key = .ok sent
  alone : Metric.ofWire sent.toWire = .ok sent.received
  judged : ∃ text seen, sample.canonical = .ok text ∧ sample.received.canonical = .ok seen ∧
    sent.received.admit key = if sign seen key = sign text key then .ok ()
      else .error (.badRequest (.wrongSignature sample.id))
  counter : sample.kind = .counter → sent.received.admit key = .ok ()
  short : ∀ value, sample.value = some value → Json.IsShort (Json.spelled value) →
    sent.received.admit key = .ok ()

theorem exists_arrives (keyed : key ≠ "") (isSample : sample.IsSample) :
    ∃ sent, Arrives key sample sent := by
  obtain ⟨text, canonical⟩ := canonical_of_validate isSample.validate
  obtain ⟨seen, canonicalSeen⟩ := canonical_of_validate isSample.validate_received
  have received : ({ sample with hash := some (sign text key) } : Metric).received =
      { sample.received with hash := some (sign text key) } := rfl
  have judged : Metric.admit ({ sample with hash := some (sign text key) } : Metric).received key =
      if sign seen key = sign text key then .ok ()
        else .error (.badRequest (.wrongSignature sample.id)) := by
    have valid : ({ sample.received with hash := some (sign text key) } : Metric).validate =
        .ok () := isSample.validate_received
    rw [received, Metric.admit, valid]
    exact verify_signed keyed rfl canonicalSeen
  -- Where the metric is read as it was, both texts are the same.
  have steady : sample.received = sample →
      Metric.admit ({ sample with hash := some (sign text key) } : Metric).received key =
        .ok () := by
    intro same
    rw [same, canonical] at canonicalSeen
    rw [judged, Except.ok.inj canonicalSeen, if_pos rfl]
  exact ⟨{ sample with hash := some (sign text key) }, attach_eq keyed canonical,
    Metric.ofWire_toWire _, ⟨text, seen, canonical, canonicalSeen, judged⟩,
    fun isCounter => steady (isSample.received_counter isCounter),
    fun value holds isShort => steady (isSample.received_of_isShort holds isShort)⟩

/-- Signed samples are read alone and in a batch. Each is accepted under the key it was signed with
if the text that is read has the signature of the text that was signed: always where it is a counter
or a gauge with a short numeral. -/
theorem admit_of_wire (keyed : key ≠ "") {samples : List Metric}
    (each : ∀ sample ∈ samples, sample.IsSample) :
    ∃ sent, samples.mapM (attach · key) = .ok sent ∧
      Metric.listOfWire (Metric.listToWire sent) = .ok (sent.map Metric.received) ∧
      List.Forall₂ (Arrives key) samples sent := by
  suffices arrive : ∃ sent, samples.mapM (attach · key) = .ok sent ∧
      List.Forall₂ (Arrives key) samples sent by
    obtain ⟨sent, attached, arrives⟩ := arrive
    exact ⟨sent, attached, Metric.listOfWire_listToWire sent, arrives⟩
  induction samples with
  | nil => exact ⟨[], rfl, .nil⟩
  | cons sample samples induction =>
      obtain ⟨first, arrives⟩ := exists_arrives keyed (each sample (by simp))
      obtain ⟨others, attached, othersArrive⟩ :=
        induction fun other member => each other (List.mem_cons_of_mem _ member)
      refine ⟨first :: others, ?_, .cons arrives othersArrive⟩
      rw [List.mapM_cons, arrives.attached, attached]
      rfl

def half : Binary64 := ⟨0x3FE0000000000000⟩

theorem admit_of_wire_half : "k" ≠ "" ∧
    (∀ sample ∈ [Metric.counter "c" 5, .gauge "g" half], sample.IsSample) ∧
    ∃ sent, [Metric.counter "c" 5, .gauge "g" half].mapM (attach · "k") = .ok sent ∧
      Metric.listOfWire (Metric.listToWire sent) = .ok (sent.map Metric.received) ∧
      ∀ metric ∈ sent, metric.received.admit "k" = .ok () := by
  have keyed : "k" ≠ "" := by decide
  have each : ∀ sample ∈ [Metric.counter "c" 5, .gauge "g" half], sample.IsSample := by
    intro sample member
    rcases List.mem_cons.mp member with rfl | other
    · exact .counter "c" 5
    · rw [List.mem_singleton.mp other]
      exact .gauge "g" (by decide)
  obtain ⟨sent, attached, read, arrive⟩ := admit_of_wire keyed each
  refine ⟨keyed, each, sent, attached, read, ?_⟩
  cases arrive with
  | cons first others =>
      cases others with
      | cons second none =>
          cases none
          have isShort : Json.IsShort (Json.spelled half) := by decide +kernel
          exact List.forall_mem_cons.mpr ⟨first.counter rfl,
            List.forall_mem_singleton.mpr (second.short half rfl isShort)⟩

/-- The greatest odd number that is a double. -/
def greatestOdd : Binary64 := ⟨0x433FFFFFFFFFFFFF⟩

/-- The even number below it. -/
def belowGreatestOdd : Binary64 := ⟨0x433FFFFFFFFFFFFE⟩

theorem canonical_gauge (id : String) (value : Binary64) :
    (Metric.gauge id value).canonical = .ok (id ++ ":gauge:" ++ Decimal.sixPlaces value) := rfl

theorem received_greatestOdd (id : String) :
    (Metric.gauge id greatestOdd).received = .gauge id belowGreatestOdd := by
  have read : Json.reread greatestOdd = belowGreatestOdd := by decide +kernel
  rw [Metric.received_gauge id (by decide), read]

theorem not_forall_admit_of_wire :
    ¬ ∀ key ≠ "", ∀ sample : Metric, sample.IsSample → ∀ sent, attach sample key = .ok sent →
      ∃ received, Metric.ofWire sent.toWire = .ok received ∧ received.admit key = .ok () := by
  intro survives
  have isSample : (Metric.gauge "g" greatestOdd).IsSample := .gauge "g" (by decide)
  obtain ⟨sent, arrives⟩ := exists_arrives (by decide : "k" ≠ "") isSample
  obtain ⟨received, read, admitted⟩ := survives "k" (by decide) _ isSample sent arrives.attached
  obtain ⟨text, seen, canonical, canonicalSeen, judged⟩ := arrives.judged
  rw [received_greatestOdd] at canonicalSeen
  obtain rfl := Except.ok.inj (canonical.symm.trans (canonical_gauge "g" greatestOdd))
  obtain rfl := Except.ok.inj (canonicalSeen.symm.trans (canonical_gauge "g" belowGreatestOdd))
  have different : sign ("g" ++ ":gauge:" ++ Decimal.sixPlaces belowGreatestOdd) "k" ≠
      sign ("g" ++ ":gauge:" ++ Decimal.sixPlaces greatestOdd) "k" := by
    decide +kernel
  rw [arrives.alone] at read
  rw [← Except.ok.inj read, judged, if_neg different] at admitted
  cases admitted

end Signature

end Telemetry
