import Telemetry.Proofs.Network.Address
import Telemetry.Network.Subnet
import Telemetry.Proofs.Text.Blank

namespace Telemetry

open Telemetry

/-! The addresses of a range are those of its family that share its first bits, and a range is read
back from its text. -/

namespace Address

/-- The bit at a place, counted from the front. -/
def bit : Address → Nat → Bool
  | .v4 bits, index => bits.getMsbD index
  | .v6 bits, index => bits.getMsbD index

end Address

namespace Subnet

def Spans (subnet : Subnet) (address : Address) : Prop :=
  address.width = subnet.network.width ∧
    ∀ index < subnet.length, subnet.network.bit index = address.bit index

theorem getMsbD_mask {width length : Nat} (fits : length ≤ width) (index : Nat) :
    (mask width length).getMsbD index = decide (index < length) := by
  unfold mask
  split
  · next none => simp [none]
  · simp only [BitVec.getMsbD_shiftLeft, BitVec.getMsbD_allOnes, decide_eq_decide]
    omega

theorem and_mask_eq_iff {width length : Nat} (fits : length ≤ width) (first second : BitVec width) :
    first &&& mask width length = second &&& mask width length ↔
      ∀ index < length, first.getMsbD index = second.getMsbD index := by
  constructor
  · intro same index isFirst
    have sameBit := congrArg (fun bits => bits.getMsbD index) same
    simpa [getMsbD_mask fits, isFirst] using sameBit
  · intro same
    refine BitVec.eq_of_getMsbD_eq fun index _ => ?_
    rw [BitVec.getMsbD_and, BitVec.getMsbD_and, getMsbD_mask fits]
    by_cases isFirst : index < length
    · rw [same index isFirst]
    · simp [isFirst]

theorem contains_iff (subnet : Subnet) (address : Address) :
    subnet.contains address = true ↔ subnet.Spans address := by
  obtain ⟨network, length, fits⟩ := subnet
  cases network with
  | v4 network =>
      cases address with
      | v4 bits =>
          have fits : length ≤ 32 := fits
          simp [contains, Spans, Address.width, Address.bit, and_mask_eq_iff fits]
      | v6 bits => simp [contains, Spans, Address.width]
  | v6 network =>
      cases address with
      | v4 bits => simp [contains, Spans, Address.width]
      | v6 bits =>
          have fits : length ≤ 128 := fits
          simp [contains, Spans, Address.width, Address.bit, and_mask_eq_iff fits]

/-! The same mask by operations that refuse what is out of their range. -/

def difference? (number other : Nat) : Option Nat :=
  if other ≤ number then some (number - other) else none

def shifted? {width : Nat} (bits : BitVec width) (places : Nat) : Option (BitVec width) :=
  if places < width then some (bits <<< places) else none

def mask? (width length : Nat) : Option (BitVec width) :=
  if length = 0 then some 0
  else (difference? width length).bind (shifted? (BitVec.allOnes width))

def contains? (subnet : Subnet) (address : Address) : Option Bool :=
  match subnet.network, address with
  | .v4 network, .v4 bits =>
    (mask? 32 subnet.length).map fun mask => decide (network &&& mask = bits &&& mask)
  | .v6 network, .v6 bits =>
    (mask? 128 subnet.length).map fun mask => decide (network &&& mask = bits &&& mask)
  | _, _ => some false

theorem mask?_eq {width length : Nat} (fits : length ≤ width) :
    mask? width length = some (mask width length) := by
  unfold mask? mask
  split
  · rfl
  · next some =>
      have places : width - length < width := by omega
      simp [difference?, shifted?, fits, places]

theorem contains?_eq (subnet : Subnet) (address : Address) :
    subnet.contains? address = some (subnet.contains address) := by
  obtain ⟨network, length, fits⟩ := subnet
  cases network with
  | v4 network =>
      cases address with
      | v4 bits =>
          have fits : length ≤ 32 := fits
          simp [contains?, contains, mask?_eq fits]
      | v6 bits => rfl
  | v6 network =>
      cases address with
      | v4 bits => rfl
      | v6 bits =>
          have fits : length ≤ 128 := fits
          simp [contains?, contains, mask?_eq fits]

/-- A text with an address in front of its first slash and a number of bits behind it, blanks around
it aside. -/
def Writes (text : String) (network : Address) (length : Nat) : Prop :=
  ∃ before behind, Text.trimChars text.toList = before ++ '/' :: behind ∧ '/' ∉ before ∧
    Address.ofText? (String.ofList before) = some network ∧
    Decimal.readNat? 255 behind = some length

theorem Writes.eq {text : String} {network other : Address} {length otherLength : Nat}
    (writes : Writes text network length) (otherWrites : Writes text other otherLength) :
    network = other ∧ length = otherLength := by
  obtain ⟨before, behind, shape, plain, readsNetwork, readsLength⟩ := writes
  obtain ⟨otherBefore, otherBehind, otherShape, otherPlain, readsOther, readsOtherLength⟩ :=
    otherWrites
  have splits := Text.splitOnce?_eq_some_iff.mpr ⟨shape, plain⟩
  rw [Text.splitOnce?_eq_some_iff.mpr ⟨otherShape, otherPlain⟩] at splits
  obtain ⟨rfl, rfl⟩ := Prod.mk.inj (Option.some.inj splits)
  exact ⟨Option.some.inj (readsNetwork.symm.trans readsOther),
    Option.some.inj (readsLength.symm.trans readsOtherLength)⟩

theorem ofText_of_writes {text : String} {network : Address} {length : Nat}
    (writes : Writes text network length) (fits : length ≤ network.width) :
    ofText text = .ok ⟨network, length, fits⟩ := by
  obtain ⟨before, behind, shape, plain, readsNetwork, readsLength⟩ := writes
  have splits := Text.splitOnce?_eq_some_iff.mpr ⟨shape, plain⟩
  simp only [ofText, splits, readsNetwork, readsLength, dif_pos fits]

theorem writes_of_ofText {text : String} {subnet : Subnet} (accepted : ofText text = .ok subnet) :
    Writes text subnet.network subnet.length := by
  unfold ofText at accepted
  split at accepted
  · cases accepted
  · next before behind splits =>
      obtain ⟨shape, plain⟩ := Text.splitOnce?_eq_some_iff.mp splits
      dsimp only at accepted
      split at accepted
      · cases accepted
      · next network readsNetwork =>
          split at accepted
          · cases accepted
          · next length readsLength =>
              split at accepted
              · obtain rfl := Except.ok.inj accepted
                exact ⟨before, behind, shape, plain, readsNetwork, readsLength⟩
              · cases accepted

theorem readNat?_digits {number limit : Nat} (small : number ≤ limit) :
    Decimal.readNat? limit (Decimal.digits number) = some number := by
  have isDigit : ∀ c ∈ Decimal.digits number, Decimal.isDigit c = true :=
    fun c member => Decimal.isDigit_of_mem_digits member
  unfold Decimal.readNat?
  split
  · next rest begins =>
      have plus := isDigit '+' (begins ▸ List.mem_cons_self)
      cases plus
  · simp [Decimal.digits_ne_nil, List.all_eq_true.mpr isDigit, Decimal.ofDigits_digits, small]

theorem writes_text (subnet : Subnet) : Writes subnet.text subnet.network subnet.length := by
  have shape : subnet.text.toList =
      subnet.network.text.toList ++ '/' :: Decimal.digits subnet.length := by
    simp [text, Decimal.natText]
  have visible : ∀ c ∈ subnet.text.toList, Text.isBlank c = false := by
    intro c member
    rw [shape] at member
    rcases List.mem_append.mp member with inAddress | behind
    · exact (Address.plain_of_mem_text inAddress).1
    · rcases List.mem_cons.mp behind with rfl | digit
      · decide
      · exact (Address.plain_of_isHexDigit
          (Address.isHexDigit_of_isDigit (Decimal.isDigit_of_mem_digits digit))).1
  have small : subnet.length ≤ 255 := by
    have fits := subnet.length_le
    cases network : subnet.network with
    | v4 bits =>
        rw [network, Address.width] at fits
        omega
    | v6 bits =>
        rw [network, Address.width] at fits
        omega
  refine ⟨_, _, (Text.trimChars_eq_self visible).trans shape, ?_, ?_, readNat?_digits small⟩
  · exact fun member => (Address.plain_of_mem_text member).2 rfl
  · rw [String.ofList_toList]
    exact Address.ofText?_text subnet.network

/-- A text is accepted if the number of bits it writes is at most that of its address. The range
that it stands for is all addresses of that family which share those bits, and this is found out
with no difference and no shift out of range; the range is read back from its own text. -/
theorem ofText_exact (text : String) :
    (∀ network length, Writes text network length →
      ((∃ subnet, ofText text = .ok subnet) ↔ length ≤ network.width)) ∧
    ∀ subnet, ofText text = .ok subnet →
      Writes text subnet.network subnet.length ∧
      subnet.length ≤ subnet.network.width ∧
      (∀ address, subnet.contains? address = some (subnet.contains address) ∧
        (subnet.contains address = true ↔ subnet.Spans address)) ∧
      ofText subnet.text = .ok subnet := by
  refine ⟨fun network length writes => ⟨?_, fun fits => ⟨_, ofText_of_writes writes fits⟩⟩, ?_⟩
  · rintro ⟨subnet, accepted⟩
    obtain ⟨rfl, rfl⟩ := writes.eq (writes_of_ofText accepted)
    exact subnet.length_le
  · intro subnet accepted
    refine ⟨writes_of_ofText accepted, subnet.length_le, fun address => ?_, ?_⟩
    · exact ⟨subnet.contains?_eq address, subnet.contains_iff address⟩
    · exact ofText_of_writes subnet.writes_text subnet.length_le

/-- All addresses of a family, by one that is none of its first. -/
def everywhere : Subnet := ⟨.v6 (Address.ofGroups [0xFD12, 0, 0, 0, 0, 0, 0, 5]), 0, by decide⟩

theorem ofText_exact_everywhere :
    ofText " fd12::5/0\n" = .ok everywhere ∧
      everywhere.contains (.v6 0) = true ∧ everywhere.contains (.v4 0) = false ∧
      everywhere.contains? (.v6 0) = some true ∧
      ofText everywhere.text = .ok everywhere ∧
      Writes "10.0.0.5/33" (.v4 (Address.ofOctets 10 0 0 5)) 33 ∧
      ¬ ∃ subnet, ofText "10.0.0.5/33" = .ok subnet := by
  have accepted : ofText " fd12::5/0\n" = .ok everywhere := by decide +kernel
  have tooLong : Writes "10.0.0.5/33" (.v4 (Address.ofOctets 10 0 0 5)) 33 :=
    ⟨"10.0.0.5".toList, "33".toList, by decide +kernel, by decide, by decide +kernel,
      by decide +kernel⟩
  obtain ⟨-, -, exactly, again⟩ := (ofText_exact " fd12::5/0\n").2 everywhere accepted
  have inside : everywhere.contains (.v6 0) = true :=
    (exactly (.v6 0)).2.mpr ⟨rfl, fun index none => absurd none (Nat.not_lt_zero index)⟩
  have outside : everywhere.contains (.v4 0) = false := by
    rw [← Bool.not_eq_true, (exactly (.v4 0)).2]
    exact fun ⟨sameWidth, _⟩ => absurd sameWidth (by decide)
  refine ⟨accepted, inside, outside, (exactly (.v6 0)).1.trans (congrArg some inside), again,
    tooLong, ?_⟩
  rw [(ofText_exact "10.0.0.5/33").1 _ _ tooLong]
  decide

end Subnet

end Telemetry
