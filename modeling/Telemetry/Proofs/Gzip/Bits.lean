import Telemetry.Gzip.Bits
import Mathlib.Tactic.Ring

namespace Telemetry.Gzip

open Telemetry

/-! Octets as lists of bits: what has been written bit by bit is read bit by bit. -/

/-- The lowest bits of a number, the lowest first. -/
def lowBits : Nat → Nat → List Nat
  | 0, _ => []
  | width + 1, number => number % 2 :: lowBits width (number / 2)

def highBits : Nat → Nat → List Nat
  | 0, _ => []
  | width + 1, number => number >>> width % 2 :: highBits width number

def octetBits (bytes : Bytes) : List Nat := bytes.flatMap fun byte => lowBits 8 byte.toNat

@[simp] theorem length_lowBits (width number : Nat) : (lowBits width number).length = width := by
  induction width generalizing number with
  | zero => rfl
  | succ width induction => simp [lowBits, induction]

@[simp] theorem length_highBits (width number : Nat) : (highBits width number).length = width := by
  induction width with
  | zero => rfl
  | succ width induction => simp [highBits, induction]

@[simp] theorem octetBits_nil : octetBits [] = [] := rfl

@[simp] theorem octetBits_cons (byte : UInt8) (bytes : Bytes) :
    octetBits (byte :: bytes) = lowBits 8 byte.toNat ++ octetBits bytes := rfl

@[simp] theorem octetBits_append (bytes more : Bytes) :
    octetBits (bytes ++ more) = octetBits bytes ++ octetBits more :=
  List.flatMap_append

@[simp] theorem length_octetBits (bytes : Bytes) :
    (octetBits bytes).length = 8 * bytes.length := by
  induction bytes with
  | nil => rfl
  | cons byte bytes induction =>
      rw [octetBits_cons, List.length_append, length_lowBits, induction, List.length_cons]
      omega

theorem lowBits_add (low high number : Nat) :
    lowBits (low + high) number = lowBits low number ++ lowBits high (number / 2 ^ low) := by
  induction low generalizing number with
  | zero => simp [lowBits]
  | succ low induction =>
      rw [Nat.succ_add, lowBits, induction, lowBits, List.cons_append, Nat.div_div_eq_div_mul,
        Nat.pow_succ']

theorem lowBits_congr {width number other : Nat}
    (same : number % 2 ^ width = other % 2 ^ width) :
    lowBits width number = lowBits width other := by
  induction width generalizing number other with
  | zero => rfl
  | succ width induction =>
      rw [Nat.pow_succ'] at same
      have low : number % 2 = other % 2 := by
        have low := congrArg (· % 2) same
        simpa only [Nat.mod_mul_right_mod] using low
      have high : number / 2 % 2 ^ width = other / 2 % 2 ^ width := by
        have high := congrArg (· / 2) same
        simpa only [Nat.mod_mul_right_div_self] using high
      rw [lowBits, lowBits, low, induction high]

theorem drop_lowBits {width index : Nat} (within : index < width) (number : Nat) :
    (lowBits width number).drop index =
      number >>> index % 2 :: (lowBits width number).drop (index + 1) := by
  induction width generalizing number index with
  | zero => omega
  | succ width induction =>
      cases index with
      | zero => rfl
      | succ index =>
          rw [lowBits, List.drop_succ_cons, List.drop_succ_cons,
            induction (Nat.lt_of_succ_lt_succ within), Nat.shiftRight_succ_inside]

namespace BitSource

/-- These bits are left in a source before those octets. -/
def Holds (source : BitSource) (bits : List Nat) (rest : Bytes) : Prop :=
  ∃ front, source.bytes = front ++ rest ∧ source.used < 8 ∧ (front = [] → source.used = 0) ∧
    (octetBits front).drop source.used = bits

theorem holds_ofBytes (front rest : Bytes) :
    (ofBytes (front ++ rest)).Holds (octetBits front) rest :=
  ⟨front, rfl, Nat.zero_lt_succ 7, fun _ => rfl, rfl⟩

variable {source : BitSource} {bits : List Nat} {rest : Bytes}

theorem Holds.length_le (holds : source.Holds bits rest) :
    bits.length ≤ 8 * source.bytes.length := by
  obtain ⟨front, isFront, -, -, rfl⟩ := holds
  rw [List.length_drop, length_octetBits, isFront, List.length_append]
  omega

theorem Holds.readBit {bit : Nat} (holds : source.Holds (bit :: bits) rest) :
    ∃ next, source.readBit = .ok (bit, next) ∧ next.Holds bits rest := by
  obtain ⟨bytes, used⟩ := source
  obtain ⟨front, rfl, small, -, left⟩ := holds
  cases front with
  | nil => cases used <;> cases left
  | cons byte front =>
      rw [octetBits_cons, List.drop_append_of_le_length (by simpa using small.le),
        drop_lowBits small, List.cons_append] at left
      obtain ⟨rfl, rfl⟩ := List.cons.inj left
      by_cases more : used < 7
      · refine ⟨⟨byte :: front ++ rest, used + 1⟩, ?_, byte :: front, rfl, ?_, nofun, ?_⟩
        · simp [BitSource.readBit, more]
        · exact Nat.succ_lt_succ more
        · have inside : used + 1 ≤ (lowBits 8 byte.toNat).length :=
            (length_lowBits 8 _).symm ▸ small
          rw [octetBits_cons, List.drop_append_of_le_length inside]
      · obtain rfl : used = 7 := by simp only at small; omega
        refine ⟨⟨front ++ rest, 0⟩, rfl, front, rfl, Nat.zero_lt_succ 7, fun _ => rfl, ?_⟩
        rw [List.drop_of_length_le (length_lowBits 8 _).le]
        rfl

theorem Holds.readBits {width number : Nat} (small : number < 2 ^ width)
    (holds : source.Holds (lowBits width number ++ bits) rest) :
    ∃ next, source.readBits width = .ok (number, next) ∧ next.Holds bits rest := by
  induction width generalizing number source with
  | zero =>
      obtain rfl : number = 0 := by simpa using small
      exact ⟨source, rfl, holds⟩
  | succ width induction =>
      rw [lowBits, List.cons_append] at holds
      obtain ⟨middle, low, middleHolds⟩ := holds.readBit
      have smaller : number / 2 < 2 ^ width := by
        rw [Nat.pow_succ] at small
        omega
      obtain ⟨next, high, nextHolds⟩ := induction smaller middleHolds
      refine ⟨next, ?_, nextHolds⟩
      simp only [BitSource.readBits, low, high, bind, Except.bind, pure, Except.pure]
      rw [Nat.mod_add_div]

/-- The octets that follow come next once less than an octet of bits is left. -/
theorem Holds.aligned (holds : source.Holds bits rest) (few : bits.length < 8) :
    source.aligned = rest := by
  obtain ⟨bytes, used⟩ := source
  obtain ⟨front, rfl, small, unused, rfl⟩ := holds
  rw [List.length_drop, length_octetBits] at few
  simp only at small unused few
  match front, unused with
  | [], unused =>
      obtain rfl := unused rfl
      rfl
  | [byte], _ =>
      have begun : used ≠ 0 := by
        rintro rfl
        simp at few
      exact if_neg begun
  | first :: second :: front, _ =>
      simp only [List.length_cons] at few
      omega

end BitSource

namespace BitSink

def bits (sink : BitSink) : List Nat :=
  octetBits sink.done.reverse ++ lowBits sink.count sink.pending

/-- No octet is pending, and no bit beyond those that are counted. -/
structure IsSettled (sink : BitSink) : Prop where
  count : sink.count < 8
  pending : sink.pending < 2 ^ sink.count

theorem isSettled_empty : empty.IsSettled := ⟨by decide, by decide⟩

theorem bits_settle {fuel : Nat} (done : Bytes) {pending count : Nat} (enough : count < 8 * fuel)
    (small : pending < 2 ^ count) :
    (settle fuel done pending count).bits = octetBits done.reverse ++ lowBits count pending ∧
      (settle fuel done pending count).IsSettled := by
  induction fuel generalizing done pending count with
  | zero => omega
  | succ fuel induction =>
      rw [settle]
      split
      · next few => exact ⟨rfl, few, small⟩
      · next full =>
          obtain ⟨more, rfl⟩ := Nat.exists_eq_add_of_le (Nat.le_of_not_lt full)
          have less : pending / 256 < 2 ^ more := by
            rw [Nat.pow_add] at small
            exact Nat.div_lt_of_lt_mul small
          rw [Nat.add_sub_cancel_left]
          obtain ⟨sameBits, settled⟩ :=
            induction (UInt8.ofNat (pending % 256) :: done) (by omega) less
          refine ⟨?_, settled⟩
          have octet : lowBits 8 (UInt8.ofNat (pending % 256)).toNat = lowBits 8 pending := by
            refine lowBits_congr ?_
            rw [UInt8.toNat_ofNat']
            omega
          rw [sameBits, List.reverse_cons, octetBits_append, octetBits_cons, octetBits_nil,
            List.append_nil, octet, lowBits_add, List.append_assoc]
          rfl

variable {sink : BitSink}

theorem IsSettled.writeBits (settled : sink.IsSettled) {width number : Nat}
    (small : number < 2 ^ width) :
    (sink.writeBits width number).bits = sink.bits ++ lowBits width number ∧
      (sink.writeBits width number).IsSettled := by
  obtain ⟨count, pending⟩ := settled
  have bounded : sink.pending + number <<< sink.count < 2 ^ (sink.count + width) := by
    rw [Nat.shiftLeft_eq, Nat.pow_add]
    calc _ < 2 ^ sink.count + number * 2 ^ sink.count := Nat.add_lt_add_right pending _
      _ = (number + 1) * 2 ^ sink.count := by ring
      _ ≤ 2 ^ width * 2 ^ sink.count := Nat.mul_le_mul_right _ small
      _ = _ := Nat.mul_comm _ _
  have enough : sink.count + width < 8 * (width + 1) := by omega
  obtain ⟨sameBits, isSettled⟩ := bits_settle sink.done enough bounded
  refine ⟨?_, isSettled⟩
  have low : lowBits sink.count (sink.pending + number <<< sink.count) =
      lowBits sink.count sink.pending :=
    lowBits_congr (by rw [Nat.shiftLeft_eq, Nat.add_mul_mod_self_right])
  have high : (sink.pending + number <<< sink.count) / 2 ^ sink.count = number := by
    rw [Nat.shiftLeft_eq, Nat.add_mul_div_right _ _ (Nat.two_pow_pos _), Nat.div_eq_of_lt pending,
      Nat.zero_add]
  rw [BitSink.writeBits, sameBits, lowBits_add, low, high, bits, List.append_assoc]

theorem IsSettled.writeCode (settled : sink.IsSettled) (width number : Nat) :
    (sink.writeCode width number).bits = sink.bits ++ highBits width number ∧
      (sink.writeCode width number).IsSettled := by
  induction width generalizing sink with
  | zero => exact ⟨(List.append_nil _).symm, settled⟩
  | succ width induction =>
      have bit : number >>> width % 2 < 2 ^ 1 := Nat.mod_lt _ (by decide)
      obtain ⟨firstBits, firstSettled⟩ := settled.writeBits bit
      obtain ⟨otherBits, otherSettled⟩ := induction firstSettled
      refine ⟨?_, otherSettled⟩
      rw [BitSink.writeCode, otherBits, firstBits, highBits, List.append_assoc, lowBits, lowBits,
        Nat.mod_mod]
      rfl

/-- The last octet is filled up. -/
theorem IsSettled.octetBits_toBytes (settled : sink.IsSettled) :
    ∃ padding, octetBits sink.toBytes = sink.bits ++ padding ∧ padding.length < 8 := by
  obtain ⟨done, pending, count⟩ := sink
  obtain ⟨few, small⟩ := settled
  simp only at few small
  rw [toBytes, bits]
  by_cases none : count = 0
  · subst none
    exact ⟨[], by simp [lowBits], by decide⟩
  · refine ⟨lowBits (8 - count) (pending / 2 ^ count), ?_, by simp; omega⟩
    have octet : pending % 256 = pending := by
      refine Nat.mod_eq_of_lt (small.trans_le ?_)
      exact Nat.pow_le_pow_right (by decide : 0 < 2) few.le
    have whole : lowBits 8 pending =
        lowBits count pending ++ lowBits (8 - count) (pending / 2 ^ count) := by
      rw [← lowBits_add, Nat.add_sub_cancel' few.le]
    simp only [none, if_false, List.reverse_cons, octetBits_append, octetBits_cons, octetBits_nil,
      List.append_nil, List.append_assoc]
    rw [UInt8.toNat_ofNat', octet, whole]

end BitSink

end Telemetry.Gzip
