import Telemetry.Proofs.Gzip.Code

namespace Telemetry.Gzip

open Telemetry

/-! What is packed is read back. A packing is a list of words, one for each octet or copy that goes
on where the last one ended; the writer makes such a list, and the reader follows it. -/

/-- A span reaches up to where the next one begins at most, and the last one to a limit. -/
structure AreSpans (span? : Nat → Option Span) (last limit : Nat) : Prop where
  defined : ∀ index ≤ last, (span? index).isSome
  adjoin : ∀ index < last, ∀ span ∈ span? index, ∀ next ∈ span? (index + 1),
    next.base ≤ span.base + 2 ^ span.extra
  ends : ∀ span ∈ span? last, limit < span.base + 2 ^ span.extra

theorem areSpans_length : AreSpans lengthSpan? 28 258 :=
  ⟨by decide, by decide, by decide⟩

theorem areSpans_distance : AreSpans distanceSpan? 29 farthest :=
  ⟨by decide, by decide, by decide⟩

structure IsWithin (span : Span) (number : Nat) : Prop where
  least : span.base ≤ number
  greatest : number < span.base + 2 ^ span.extra

theorem AreSpans.symbolFor {span? : Nat → Option Span} {last limit number : Nat}
    (spans : AreSpans span? last limit) (bounded : number ≤ limit)
    (least : ∀ span ∈ span? 0, span.base ≤ number) :
    ∃ span, span? (symbolFor span? number last) = some span ∧ IsWithin span number ∧
      symbolFor span? number last ≤ last := by
  suffices downward : ∀ index ≤ last, (∀ span ∈ span? index, number < span.base + 2 ^ span.extra) →
      ∃ span, span? (Gzip.symbolFor span? number index) = some span ∧ IsWithin span number ∧
        Gzip.symbolFor span? number index ≤ last by
    exact downward last le_rfl fun span isSpan => bounded.trans_lt (spans.ends span isSpan)
  intro index within greatest
  induction index with
  | zero =>
      obtain ⟨span, isSpan⟩ := Option.isSome_iff_exists.mp (spans.defined 0 within)
      exact ⟨span, isSpan, ⟨least span isSpan, greatest span isSpan⟩, within⟩
  | succ index induction =>
      obtain ⟨span, isSpan⟩ := Option.isSome_iff_exists.mp (spans.defined _ within)
      rw [Gzip.symbolFor, isSpan]
      simp only
      split
      · next begun => exact ⟨span, isSpan, ⟨begun, greatest span isSpan⟩, within⟩
      · next before =>
          refine induction (Nat.le_of_succ_le within) fun previous isPrevious => ?_
          have adjoin := spans.adjoin index within previous isPrevious span isSpan
          omega

theorem exists_lengthSpan {length : Nat} (shortest : 3 ≤ length) (longest : length ≤ 258) :
    ∃ span, lengthSpan? (symbolFor lengthSpan? length 28) = some span ∧ IsWithin span length ∧
      symbolFor lengthSpan? length 28 ≤ 28 :=
  areSpans_length.symbolFor longest fun _ isSpan => Option.some.inj isSpan ▸ shortest

theorem exists_distanceSpan {distance : Nat} (back : 0 < distance) (near : distance ≤ farthest) :
    ∃ span, distanceSpan? (symbolFor distanceSpan? distance 29) = some span ∧
      IsWithin span distance ∧ symbolFor distanceSpan? distance 29 ≤ 29 :=
  areSpans_distance.symbolFor near fun _ isSpan => Option.some.inj isSpan ▸ back

def extraBits (span? : Option Span) (number : Nat) : List Nat :=
  match span? with
  | some span => lowBits span.extra (number - span.base)
  | none => []

theorem IsWithin.readSpan {span : Span} {number : Nat} (within : IsWithin span number)
    {source : BitSource} {bits : List Nat} {rest : Bytes}
    (holds : source.Holds (extraBits (some span) number ++ bits) rest) :
    ∃ next, Gzip.readSpan (some span) source = .ok (number, next) ∧ next.Holds bits rest := by
  obtain ⟨least, greatest⟩ := within
  have small : number - span.base < 2 ^ span.extra := by omega
  obtain ⟨next, read, nextHolds⟩ := holds.readBits small
  refine ⟨next, ?_, nextHolds⟩
  simp only [Gzip.readSpan, read, bind, Except.bind, pure, Except.pure, Nat.add_sub_cancel' least]

theorem BitSink.IsSettled.writeExtra {sink : BitSink} (settled : sink.IsSettled) {span : Span}
    {number : Nat} (within : IsWithin span number) :
    (Gzip.writeExtra sink (some span) number).bits = sink.bits ++ extraBits (some span) number ∧
      (Gzip.writeExtra sink (some span) number).IsSettled := by
  obtain ⟨least, greatest⟩ := within
  exact settled.writeBits (by omega)

/-- The bits of a copy: the symbols of its length and of its distance, each with what is beyond. -/
def copyBits (length distance : Nat) : List Nat :=
  symbolBits (257 + symbolFor lengthSpan? length 28) ++
    (extraBits (lengthSpan? (symbolFor lengthSpan? length 28)) length ++
      (highBits 5 (symbolFor distanceSpan? distance 29) ++
        extraBits (distanceSpan? (symbolFor distanceSpan? distance 29)) distance))

/-- So many octets are the same as those so far back. -/
structure Repeats (data : Array UInt8) (index length distance : Nat) : Prop where
  inside : index + length ≤ data.size
  shortest : 3 ≤ length
  longest : length ≤ 258
  back : 0 < distance
  near : distance ≤ farthest
  behind : distance ≤ index
  same : ∀ offset < length,
    data.getD (index - distance + offset) 0 = data.getD (index + offset) 0

/-- The bits of what is left of the data from an index on. -/
inductive Packing (data : Array UInt8) : Nat → List Nat → Prop where
  | ended : Packing data data.size (symbolBits endOfBlock)
  | literal {index : Nat} {bits : List Nat} (inside : index < data.size)
      (packing : Packing data (index + 1) bits) :
      Packing data index (symbolBits (data.getD index 0).toNat ++ bits)
  | copied {index length distance : Nat} {bits : List Nat}
      (repeats : Repeats data index length distance)
      (packing : Packing data (index + length) bits) :
      Packing data index (copyBits length distance ++ bits)

variable {data : Array UInt8} {index length distance : Nat} {sink : BitSink}

theorem push_extract (inside : index < data.size) :
    (data.extract 0 index).push (data.getD index 0) = data.extract 0 (index + 1) := by
  rw [Array.getD_eq_getD_getElem?]
  simp [inside]

/-- Octets that are repeated one by one become the data that they repeat. -/
theorem copy_extract (inside : index + length ≤ data.size) (back : 0 < distance)
    (behind : distance ≤ index)
    (same : ∀ offset < length,
      data.getD (index - distance + offset) 0 = data.getD (index + offset) 0) :
    copy distance length (data.extract 0 index) = data.extract 0 (index + length) := by
  induction length generalizing index with
  | zero => rfl
  | succ length induction =>
      have size : (data.extract 0 index).size = index := by
        rw [Array.size_extract]
        omega
      have octet : (data.extract 0 index).getD (index - distance) 0 = data.getD index 0 := by
        have here := same 0 (Nat.succ_pos length)
        rw [Nat.add_zero, Nat.add_zero] at here
        have before : index - distance < index := by omega
        have present : index - distance < data.size := by omega
        rw [← here]
        simp [Array.getD_eq_getD_getElem?, before, present]
      have later : ∀ offset < length,
          data.getD (index + 1 - distance + offset) 0 = data.getD (index + 1 + offset) 0 := by
        intro offset before
        have there := same (offset + 1) (Nat.succ_lt_succ before)
        have left : index + 1 - distance + offset = index - distance + (offset + 1) := by omega
        have right : index + 1 + offset = index + (offset + 1) := by omega
        rw [left, right, there]
      rw [copy, size, if_pos behind, octet, push_extract (by omega),
        induction (by omega) (by omega) later]
      congr 1
      omega

theorem commonLength_le (i j limit : Nat) : commonLength data i j limit ≤ limit := by
  induction limit generalizing i j with
  | zero => exact Nat.le_refl 0
  | succ limit induction =>
      rw [commonLength]
      split
      · exact Nat.succ_le_succ (induction (i + 1) (j + 1))
      · exact Nat.zero_le _

theorem getD_commonLength {i j limit offset : Nat}
    (within : offset < commonLength data i j limit) :
    data.getD (i + offset) 0 = data.getD (j + offset) 0 := by
  induction limit generalizing i j offset with
  | zero => exact absurd within (Nat.not_lt_zero offset)
  | succ limit induction =>
      rw [commonLength] at within
      split at within
      · next same =>
          cases offset with
          | zero => exact same
          | succ offset =>
              have there := induction (Nat.lt_of_succ_lt_succ within)
              rwa [Nat.add_right_comm, Nat.add_right_comm j] at there
      · exact absurd within (Nat.not_lt_zero offset)

theorem length_symbolBits_pos (symbol : Nat) : 0 < (symbolBits symbol).length := by
  rw [symbolBits, length_highBits, fixedWord]
  split_ifs <;> exact Nat.succ_pos _

theorem length_copyBits_pos (length distance : Nat) : 0 < (copyBits length distance).length := by
  have symbol := length_symbolBits_pos (257 + symbolFor lengthSpan? length 28)
  rw [copyBits, List.length_append]
  omega

section

variable {source : BitSource} {bits : List Nat} {rest : Bytes}

theorem readSymbols_literal (fuel : Nat) (out : Array UInt8) (byte : UInt8)
    (holds : source.Holds (symbolBits byte.toNat ++ bits) rest) :
    ∃ next, next.Holds bits rest ∧
      readSymbols fixedLengths fixedDistances (fuel + 1) out source =
        readSymbols fixedLengths fixedDistances fuel (out.push byte) next := by
  have small : byte.toNat < 256 := byte.toNat_lt
  obtain ⟨next, read, nextHolds⟩ :=
    Code.readSymbol_of_decode (decode_symbolBits byte.toNat (by omega)) holds
  refine ⟨next, nextHolds, ?_⟩
  have literal : byte.toNat < endOfBlock := small
  simp only [readSymbols, read, bind, Except.bind, literal, if_true, UInt8.ofNat_toNat]

theorem readSymbols_end (fuel : Nat) (out : Array UInt8)
    (holds : source.Holds (symbolBits endOfBlock ++ bits) rest) :
    ∃ next, next.Holds bits rest ∧
      readSymbols fixedLengths fixedDistances (fuel + 1) out source = .ok (out, next) := by
  obtain ⟨next, read, nextHolds⟩ :=
    Code.readSymbol_of_decode (decode_symbolBits endOfBlock (by decide)) holds
  refine ⟨next, nextHolds, ?_⟩
  simp only [readSymbols, read, bind, Except.bind, Nat.lt_irrefl, if_false, if_true, pure,
    Except.pure]

theorem readSymbols_copy (fuel : Nat) (out : Array UInt8) (shortest : 3 ≤ length)
    (longest : length ≤ 258) (back : 0 < distance) (near : distance ≤ farthest)
    (holds : source.Holds (copyBits length distance ++ bits) rest) :
    ∃ next, next.Holds bits rest ∧
      readSymbols fixedLengths fixedDistances (fuel + 1) out source =
        readSymbols fixedLengths fixedDistances fuel (copy distance length out) next := by
  obtain ⟨lengthSpan, isLength, lengthWithin, lengthIndex⟩ :=
    exists_lengthSpan shortest longest
  obtain ⟨distanceSpan, isDistance, distanceWithin, distanceIndex⟩ :=
    exists_distanceSpan back near
  rw [copyBits, isLength, isDistance] at holds
  simp only [List.append_assoc] at holds
  obtain ⟨first, readLength, holds⟩ :=
    Code.readSymbol_of_decode (decode_symbolBits _ (by omega)) holds
  obtain ⟨second, readMore, holds⟩ := lengthWithin.readSpan holds
  obtain ⟨third, readPlace, holds⟩ :=
    Code.readSymbol_of_decode (decode_distance _ (by omega)) holds
  obtain ⟨next, readFar, holds⟩ := distanceWithin.readSpan holds
  refine ⟨next, holds, ?_⟩
  have beyond : ¬ 257 + symbolFor lengthSpan? length 28 < endOfBlock := by
    unfold endOfBlock
    omega
  have other : 257 + symbolFor lengthSpan? length 28 ≠ endOfBlock := by
    unfold endOfBlock
    omega
  rw [readSymbols]
  simp only [readLength, bind, Except.bind, beyond, other, if_false, Nat.add_sub_cancel_left,
    isLength, readMore, readPlace, isDistance, readFar]

/-- The reader follows a packing to the end of the data. -/
theorem Packing.read {packed : List Nat} (packing : Packing data index packed) {fuel : Nat}
    (enough : packed.length ≤ fuel) (holds : source.Holds (packed ++ bits) rest) :
    ∃ next, next.Holds bits rest ∧
      readSymbols fixedLengths fixedDistances fuel (data.extract 0 index) source =
        .ok (data, next) := by
  -- Every word has a bit at least, so there is fuel for each of them.
  induction packing generalizing fuel source with
  | ended =>
      have some := length_symbolBits_pos endOfBlock
      obtain ⟨fuel, rfl⟩ : ∃ less, fuel = less + 1 := ⟨fuel - 1, by omega⟩
      rw [Array.extract_size]
      exact readSymbols_end fuel data holds
  | @literal index packed inside packing induction =>
      have some := length_symbolBits_pos (data.getD index 0).toNat
      rw [List.length_append] at enough
      obtain ⟨fuel, rfl⟩ : ∃ less, fuel = less + 1 := ⟨fuel - 1, by omega⟩
      rw [List.append_assoc] at holds
      obtain ⟨next, nextHolds, read⟩ :=
        readSymbols_literal fuel (data.extract 0 index) _ holds
      rw [read, push_extract inside]
      exact induction (by omega) nextHolds
  | @copied index length distance packed repeats packing induction =>
      have some := length_copyBits_pos length distance
      rw [List.length_append] at enough
      obtain ⟨fuel, rfl⟩ : ∃ less, fuel = less + 1 := ⟨fuel - 1, by omega⟩
      rw [List.append_assoc] at holds
      obtain ⟨next, nextHolds, read⟩ := readSymbols_copy fuel (data.extract 0 index)
        repeats.shortest repeats.longest repeats.back repeats.near holds
      rw [read, copy_extract repeats.inside repeats.back repeats.behind repeats.same]
      exact induction (by omega) nextHolds

end

theorem BitSink.IsSettled.writeSymbol (settled : sink.IsSettled) (symbol : Nat) :
    (Gzip.writeSymbol sink symbol).bits = sink.bits ++ symbolBits symbol ∧
      (Gzip.writeSymbol sink symbol).IsSettled :=
  settled.writeCode _ _

theorem BitSink.IsSettled.writeCopy (settled : sink.IsSettled) (shortest : 3 ≤ length)
    (longest : length ≤ 258) (back : 0 < distance) (near : distance ≤ farthest) :
    (Gzip.writeCopy sink length distance).bits = sink.bits ++ copyBits length distance ∧
      (Gzip.writeCopy sink length distance).IsSettled := by
  obtain ⟨lengthSpan, isLength, lengthWithin, -⟩ :=
    exists_lengthSpan shortest longest
  obtain ⟨distanceSpan, isDistance, distanceWithin, -⟩ :=
    exists_distanceSpan back near
  unfold Gzip.writeCopy copyBits
  simp only [isLength, isDistance]
  obtain ⟨symbolBits, settled⟩ := settled.writeSymbol (257 + symbolFor lengthSpan? length 28)
  obtain ⟨moreBits, settled⟩ := settled.writeExtra lengthWithin
  obtain ⟨placeBits, settled⟩ := settled.writeCode 5 (symbolFor distanceSpan? distance 29)
  obtain ⟨farBits, settled⟩ := settled.writeExtra distanceWithin
  refine ⟨?_, settled⟩
  rw [farBits, placeBits, moreBits, symbolBits]
  simp only [List.append_assoc]

def Places.AreBehind (places : Places) (index : Nat) : Prop :=
  ∀ hash, places.getD hash 0 ≤ index

theorem Places.AreBehind.set {places : Places} (behind : places.AreBehind index) (hash : Nat)
    {later : Nat} (further : index < later) :
    Places.AreBehind (places.setIfInBounds hash (index + 1)) later := by
  intro other
  have before := behind other
  rw [Array.getD_eq_getD_getElem?] at before ⊢
  rw [Array.getElem?_setIfInBounds]
  split
  · split
    · exact further
    · exact Nat.zero_le _
  · omega

theorem repeats_commonLength {place : Nat} (inside : index < data.size) (behind : place ≤ index)
    (found : ¬ (place = 0 ∨ farthest < index + 1 - place))
    (long : 3 ≤ commonLength data (place - 1) index (min 258 (data.size - index))) :
    Repeats data index (commonLength data (place - 1) index (min 258 (data.size - index)))
      (index + 1 - place) where
  inside := by
    have bound : commonLength data (place - 1) index _ ≤ min 258 (data.size - index) :=
      commonLength_le _ _ _
    omega
  shortest := long
  longest := (commonLength_le _ _ _).trans (Nat.min_le_left _ _)
  back := by omega
  near := by omega
  behind := by omega
  same offset within := by
    have start : index - (index + 1 - place) = place - 1 := by omega
    rw [start]
    exact getD_commonLength within

/-- What the writer adds, up to the end of the block, is a packing. -/
theorem packing_writeSymbols {fuel : Nat} {places : Places} (enough : data.size ≤ index + fuel)
    (inside : index ≤ data.size) (behind : places.AreBehind index) (settled : sink.IsSettled) :
    ∃ packed, Packing data index packed ∧
      (writeSymbol (writeSymbols data fuel index places sink) endOfBlock).bits =
        sink.bits ++ packed ∧
      (writeSymbol (writeSymbols data fuel index places sink) endOfBlock).IsSettled := by
  induction fuel generalizing index places sink with
  | zero =>
      obtain rfl : index = data.size := by omega
      exact ⟨_, .ended, settled.writeSymbol endOfBlock⟩
  | succ fuel induction =>
      rw [writeSymbols]
      by_cases more : index < data.size
      · rw [if_pos more]
        extract_lets hash place later length
        have placeBehind : place ≤ index := behind hash
        by_cases long : 3 ≤ length
        · rw [if_pos long]
          have found : ¬ (place = 0 ∨ farthest < index + 1 - place) := by
            intro none
            simp [length, none] at long
          have isLength : length =
              commonLength data (place - 1) index (min 258 (data.size - index)) := if_neg found
          have repeats := repeats_commonLength more placeBehind found (isLength ▸ long)
          rw [← isLength] at repeats
          obtain ⟨copied, copySettled⟩ := settled.writeCopy repeats.shortest repeats.longest
            repeats.back repeats.near
          obtain ⟨packed, packing, written, isSettled⟩ := induction (by omega) repeats.inside
            (behind.set hash (by omega)) copySettled
          refine ⟨_, .copied repeats packing, ?_, isSettled⟩
          rw [written, copied, List.append_assoc]
        · rw [if_neg long]
          obtain ⟨literal, literalSettled⟩ := settled.writeSymbol (data.getD index 0).toNat
          obtain ⟨packed, packing, written, isSettled⟩ := induction (by omega) more
            (behind.set hash (Nat.lt_succ_self index)) literalSettled
          refine ⟨_, .literal more packing, ?_, isSettled⟩
          rw [written, literal, List.append_assoc]
      · rw [if_neg more]
        obtain rfl : index = data.size := by omega
        exact ⟨_, .ended, settled.writeSymbol endOfBlock⟩

end Telemetry.Gzip
