import Telemetry.Shutdown

namespace Telemetry

open Telemetry

/-! What the listeners of a signal hear over time, whatever becomes of its trigger and whoever else
begins to listen. -/

namespace Shutdown

variable {shutdown next later : Shutdown} {index number : Nat}

inductive Step (shutdown : Shutdown) : Shutdown → Prop where
  | fire : Step shutdown shutdown.fire.2
  | dropTrigger : Step shutdown shutdown.dropTrigger
  | subscribe (number : Nat) (next : Shutdown)
      (subscribed : shutdown.subscribe = some (number, next)) : Step shutdown next
  | duplicate (index number : Nat) (next : Shutdown)
      (duplicated : shutdown.duplicate index = some (number, next)) : Step shutdown next
  | detach : Step shutdown (shutdown.add .detached).2

inductive Reachable (start : Shutdown) : Shutdown → Prop where
  | start : Reachable start start
  | step {shutdown next : Shutdown} (reachable : Reachable start shutdown)
      (step : Step shutdown next) : Reachable start next

theorem add_of_subscribe (subscribed : shutdown.subscribe = some (number, next)) :
    shutdown.add .attached = (number, next) := by
  unfold subscribe at subscribed
  split at subscribed
  · exact Option.some.inj subscribed
  · cases subscribed

theorem add_of_duplicate (duplicated : shutdown.duplicate index = some (number, next)) :
    ∃ listener, shutdown.listeners[index]? = some listener ∧
      shutdown.add listener = (number, next) :=
  Option.map_eq_some_iff.mp duplicated

/-- However somebody comes to listen, that is all that changes. -/
theorem Step.eq_or (step : Step shutdown next) :
    next = shutdown.fire.2 ∨ next = shutdown.dropTrigger ∨
      ∃ listener, next = (shutdown.add listener).2 := by
  cases step with
  | fire => exact .inl rfl
  | dropTrigger => exact .inr (.inl rfl)
  | subscribe number next subscribed =>
      exact .inr (.inr ⟨.attached, (congrArg Prod.snd (add_of_subscribe subscribed)).symm⟩)
  | duplicate index number next duplicated =>
      obtain ⟨listener, _, added⟩ := add_of_duplicate duplicated
      exact .inr (.inr ⟨listener, (congrArg Prod.snd added).symm⟩)
  | detach => exact .inr (.inr ⟨.detached, rfl⟩)

theorem Step.listeners_prefix (step : Step shutdown next) :
    shutdown.listeners <+: next.listeners := by
  rcases step.eq_or with rfl | rfl | ⟨listener, rfl⟩
  · exact List.prefix_rfl
  · exact List.prefix_rfl
  · exact List.prefix_append _ _

theorem Step.isFired (step : Step shutdown next) (fired : shutdown.isFired = true) :
    next.isFired = true := by
  rcases step.eq_or with rfl | rfl | ⟨listener, rfl⟩
  · rw [Shutdown.fire, fired, Bool.true_or]
  · exact fired
  · exact fired

/-- Without its trigger a signal stays as it is. -/
theorem Step.of_lost (step : Step shutdown next) (lost : shutdown.hasTrigger = false) :
    next.hasTrigger = false ∧ next.isFired = shutdown.isFired := by
  rcases step.eq_or with rfl | rfl | ⟨listener, rfl⟩
  · exact ⟨lost, by rw [Shutdown.fire, lost, Bool.or_false]⟩
  · exact ⟨rfl, rfl⟩
  · exact ⟨lost, rfl⟩

namespace Reachable

theorem trans (first : Reachable shutdown next) (second : Reachable next later) :
    Reachable shutdown later := by
  induction second with
  | start => exact first
  | step reachable step induction => exact induction.step step

theorem listeners_prefix (reachable : Reachable shutdown later) :
    shutdown.listeners <+: later.listeners := by
  induction reachable with
  | start => exact List.prefix_rfl
  | step reachable step induction => exact induction.trans step.listeners_prefix

theorem isFired (reachable : Reachable shutdown later) (fired : shutdown.isFired = true) :
    later.isFired = true := by
  induction reachable with
  | start => exact fired
  | step reachable step induction => exact step.isFired induction

theorem isFired_of_lost (reachable : Reachable shutdown later)
    (lost : shutdown.hasTrigger = false) :
    later.hasTrigger = false ∧ later.isFired = shutdown.isFired := by
  induction reachable with
  | start => exact ⟨lost, rfl⟩
  | step reachable step induction =>
      obtain ⟨stillLost, same⟩ := step.of_lost induction.1
      exact ⟨stillLost, same.trans induction.2⟩

theorem hears?_eq (reachable : Reachable shutdown later) {listener : Listener}
    (present : shutdown.listeners[index]? = some listener) :
    later.hears? index = some (listener = .attached && later.isFired) := by
  obtain ⟨bound, rfl⟩ := List.getElem?_eq_some_iff.mp present
  rw [Shutdown.hears?, List.prefix_iff_getElem?.mp reachable.listeners_prefix index bound,
    Option.map_some]

/-- Who has heard the signal once hears it ever after. -/
theorem hears? (reachable : Reachable shutdown later) (heard : shutdown.hears? index = some true) :
    later.hears? index = some true := by
  obtain ⟨listener, present, hears⟩ := Option.map_eq_some_iff.mp heard
  rw [Bool.and_eq_true] at hears
  rw [reachable.hears?_eq present, hears.1, reachable.isFired hears.2, Bool.and_true]

theorem hears?_add {listener : Listener} (reachable : Reachable (shutdown.add listener).2 later) :
    later.hears? (shutdown.add listener).1 = some (listener = .attached && later.isFired) :=
  reachable.hears?_eq List.getElem?_concat_length

theorem hears?_of_subscribe (subscribed : shutdown.subscribe = some (number, next))
    (reachable : Reachable next later) : later.hears? number = some later.isFired := by
  obtain ⟨rfl, rfl⟩ := Prod.mk.inj (add_of_subscribe subscribed)
  exact reachable.hears?_add

theorem hears?_of_duplicate (duplicated : shutdown.duplicate index = some (number, next))
    (reachable : Reachable next later) : later.hears? number = later.hears? index := by
  obtain ⟨listener, present, added⟩ := add_of_duplicate duplicated
  obtain ⟨rfl, rfl⟩ := Prod.mk.inj added
  have duplicating : Reachable shutdown later :=
    (start.step (.duplicate index _ _ duplicated)).trans reachable
  rw [duplicating.hears?_eq present]
  exact reachable.hears?_add

end Reachable

/-- The signal that a system and those it has made so many copies for listen to. -/
def shared (isFired : Bool) (copies : Nat) : Shutdown :=
  ⟨isFired, true, List.replicate (copies + 1) .attached⟩

@[simp] theorem fire_shared (isFired : Bool) (copies : Nat) :
    (shared isFired copies).fire = (true, shared true copies) := by
  rw [fire, shared, Bool.or_true]
  rfl

theorem hears?_shared {isFired : Bool} {copies : Nat} (present : index ≤ copies) :
    (shared isFired copies).hears? index = some isFired := by
  have attached : (shared isFired copies).listeners[index]? = some .attached :=
    List.getElem?_replicate_of_lt (Nat.lt_succ_of_le present)
  rw [Reachable.start.hears?_eq attached]
  rfl

theorem reachable_shared (copies : Nat) : Reachable .start (shared false copies) := by
  induction copies with
  | zero => exact .start
  | succ copies induction =>
      refine induction.step (.duplicate 0 (copies + 1) _ ?_)
      rw [duplicate, shared, List.getElem?_replicate_of_lt (Nat.succ_pos copies), Option.map_some,
        add, List.length_replicate, shared, List.replicate_succ' (n := copies + 1)]

end Shutdown

end Telemetry
