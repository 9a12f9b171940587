import Telemetry.Gzip.Member
import Telemetry.Proofs.Gzip.Deflate

namespace Telemetry.Gzip

open Telemetry

/-! Compression loses nothing: the one block of a packing reads back, and so does the member around
it. -/

theorem areBehind_replicate (count : Nat) :
    Places.AreBehind (Array.replicate count 0) 0 := by
  intro hash
  rw [Array.getD_eq_getD_getElem?, Array.getElem?_replicate]
  split <;> exact Nat.le_refl 0

/-- The block is marked as the last one and as one of the fixed codes. -/
theorem exists_octetBits_deflate (data : Bytes) :
    ∃ packed padding, Packing data.toArray 0 packed ∧ padding.length < 8 ∧
      octetBits (deflate data) = lowBits 1 1 ++ (lowBits 2 1 ++ (packed ++ padding)) := by
  obtain ⟨lastBits, settled⟩ := BitSink.isSettled_empty.writeBits (by decide : 1 < 2 ^ 1)
  obtain ⟨kindBits, settled⟩ := settled.writeBits (by decide : 1 < 2 ^ 2)
  obtain ⟨packed, packing, written, settled⟩ := packing_writeSymbols
    (Nat.le_of_eq (Nat.zero_add _).symm) (Nat.zero_le _) (areBehind_replicate placeCount) settled
  obtain ⟨padding, filled, few⟩ := settled.octetBits_toBytes
  refine ⟨packed, padding, packing, few, ?_⟩
  rw [deflate, filled, written, kindBits, lastBits]
  simp only [List.append_assoc]
  rfl

theorem inflate_deflate (data rest : Bytes) :
    inflate (deflate data ++ rest) = .ok (data, rest) := by
  obtain ⟨packed, padding, packing, few, whole⟩ := exists_octetBits_deflate data
  have holds := BitSource.holds_ofBytes (deflate data) rest
  rw [whole] at holds
  obtain ⟨afterMark, readMark, holds⟩ := holds.readBits (by decide : 1 < 2 ^ 1)
  obtain ⟨afterKind, readKind, holds⟩ := holds.readBits (by decide : 1 < 2 ^ 2)
  have enough : packed.length ≤ 8 * afterKind.bytes.length + 1 := by
    have bound := holds.length_le
    rw [List.length_append] at bound
    omega
  obtain ⟨next, nextHolds, read⟩ := packing.read enough holds
  rw [Array.extract_zero] at read
  rw [inflate, readBlocks]
  simp only [readMark, readKind, read, bind, Except.bind, pure, Except.pure, if_true,
    nextHolds.aligned few]

theorem length_trailer (data : Bytes) : (trailer data).length = 8 := rfl

theorem skipHeader_header (rest : Bytes) : skipHeader (header ++ rest) = .ok rest := rfl

theorem decompress_compress (data : Bytes) : decompress (compress data) = .ok data := by
  rw [decompress, compress, member, List.append_assoc, skipHeader_header]
  simp only [bind, Except.bind, inflate_deflate]
  have whole : (trailer data).take 8 = trailer data :=
    List.take_of_length_le (Nat.le_of_eq (length_trailer data))
  rw [if_neg (by rw [length_trailer]; decide), if_pos whole]

end Telemetry.Gzip
