import Telemetry.Proofs.Gzip.Member

namespace Telemetry.Gzip

open Telemetry

/-! A packing is not much longer than the data: a literal has nine bits at most, and a copy, which
stands for three octets or more, thirty-two. -/

theorem length_symbolBits_le (symbol : Nat) : (symbolBits symbol).length ≤ 9 := by
  rw [symbolBits, length_highBits, fixedWord]
  split_ifs <;> simp

theorem length_extraBits_le {span? : Option Span} {extra : Nat}
    (few : ∀ span ∈ span?, span.extra ≤ extra) (number : Nat) :
    (extraBits span? number).length ≤ extra := by
  cases span? with
  | none => exact Nat.zero_le extra
  | some span =>
      rw [extraBits, length_lowBits]
      exact few span rfl

theorem extra_lengthSpan_le (index : Nat) : ∀ span ∈ lengthSpan? index, span.extra ≤ 5 := by
  unfold lengthSpan?
  grind

theorem extra_distanceSpan_le (index : Nat) : ∀ span ∈ distanceSpan? index, span.extra ≤ 13 := by
  unfold distanceSpan?
  grind

theorem length_copyBits_le (length distance : Nat) : (copyBits length distance).length ≤ 32 := by
  have symbol := length_symbolBits_le (257 + symbolFor lengthSpan? length 28)
  have more := length_extraBits_le (extra_lengthSpan_le (symbolFor lengthSpan? length 28)) length
  have far := length_extraBits_le (extra_distanceSpan_le (symbolFor distanceSpan? distance 29))
    distance
  simp only [copyBits, List.length_append, length_highBits]
  omega

theorem Packing.length_le {data : Array UInt8} {index : Nat} {packed : List Nat}
    (packing : Packing data index packed) : packed.length + 11 * index ≤ 11 * data.size + 9 := by
  induction packing with
  | ended =>
      have symbol := length_symbolBits_le endOfBlock
      omega
  | @literal index packed inside packing induction =>
      have symbol := length_symbolBits_le (data.getD index 0).toNat
      rw [List.length_append]
      omega
  | @copied index length distance packed repeats packing induction =>
      have copied := length_copyBits_le length distance
      have shortest := repeats.shortest
      rw [List.length_append]
      omega

theorem length_deflate_le (data : Bytes) : (deflate data).length ≤ 2 * data.length + 2 := by
  obtain ⟨packed, padding, packing, few, whole⟩ := exists_octetBits_deflate data
  have bound := packing.length_le
  have bits := congrArg List.length whole
  simp only [length_octetBits, List.length_append, length_lowBits] at bits
  rw [List.size_toArray] at bound
  omega

theorem length_member (packed data : Bytes) :
    (member packed data).length = packed.length + 18 := by
  rw [member, List.length_append, List.length_append, length_trailer, Nat.add_right_comm,
    Nat.add_comm]
  rfl

theorem length_compress_le (data : Bytes) : (compress data).length ≤ 2 * data.length + 20 := by
  have packed := length_deflate_le data
  rw [compress, length_member]
  omega

end Telemetry.Gzip
