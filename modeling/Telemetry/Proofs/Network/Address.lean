import Telemetry.Network.Address
import Telemetry.Proofs.Decimal.Numeral
import Telemetry.Proofs.Hex

namespace Telemetry

open Telemetry

/-! Addresses are read back as they are written, also where a run of zeros is left out and where one
family is written inside the other. -/

namespace Address

open Decimal

section Octets

variable {rest written : List Char}

theorem readOctet_digits {number : Nat} (small : number < 256) (ends : EndsDigits rest) :
    readOctet (digits number ++ rest) = some (number, rest) := by
  have inside : ∀ c ∈ digits number, isDigit c = true := fun _ => isDigit_of_mem_digits
  obtain ⟨taken, left⟩ := Text.takeWhile_run inside ends
  have short : ¬ 3 < (digits number).length :=
    not_lt.mpr (length_digits_le (by omega) (by decide))
  have plain : ¬ ((digits number).head? = some '0' ∧ 1 < (digits number).length) := by
    rintro ⟨zero, long⟩
    by_cases none : number = 0
    · rw [none] at long
      exact absurd long (by decide)
    · obtain ⟨c, more, begins, notZero⟩ := exists_first_digit none
      rw [begins, List.head?_cons] at zero
      exact notZero (Option.some.inj zero)
  have fits : ¬ 255 < number := by omega
  unfold readOctet
  rw [taken, left]
  simp [digits_ne_nil, ofDigits_digits, short, fits, plain]

theorem readOctet_rest {number : Nat} (reads : readOctet written = some (number, rest)) :
    rest = written.dropWhile isDigit := by
  unfold readOctet at reads
  dsimp only at reads
  split at reads
  · cases reads
  · exact (Prod.mk.inj (Option.some.inj reads)).2.symm

theorem readOctet_of_not_isDigit {c : Char} (other : isDigit c = false) (rest : List Char) :
    readOctet (c :: rest) = none := by
  unfold readOctet
  simp [other]

/-- Without a point there is only one octet. -/
theorem read4_of_notMem (plain : '.' ∉ written) : read4 written = none := by
  cases reads : readOctet written with
  | none => simp [read4, reads]
  | some read =>
      obtain ⟨number, rest⟩ := read
      have noDot : readDot rest = none := by
        rw [readOctet_rest reads]
        cases left : written.dropWhile isDigit with
        | nil => rfl
        | cons c tail =>
            have member : c ∈ written :=
              (List.dropWhile_sublist _).subset (left ▸ List.mem_cons_self)
            unfold readDot
            split
            · next same => exact absurd ((List.cons.inj same).1 ▸ member) plain
            · rfl
      simp [read4, reads, noDot]

theorem read4_of_not_isDigit {c : Char} (other : isDigit c = false) (rest : List Char) :
    read4 (c :: rest) = none := by
  simp [read4, readOctet_of_not_isDigit other]

theorem chars4_eq (bits : BitVec 32) : chars4 bits =
    digits (bits.toNat >>> 24) ++ '.' :: (digits (bits.toNat >>> 16 % 256) ++
      '.' :: (digits (bits.toNat >>> 8 % 256) ++ '.' :: digits (bits.toNat % 256))) := by
  simp [chars4, octets]

theorem ofOctets_octets (bits : BitVec 32) :
    ofOctets (bits.toNat >>> 24) (bits.toNat >>> 16 % 256) (bits.toNat >>> 8 % 256)
      (bits.toNat % 256) = bits := by
  have bounded := bits.isLt
  apply BitVec.eq_of_toNat_eq
  rw [ofOctets, BitVec.toNat_ofNat]
  simp only [Nat.shiftRight_eq_div_pow]
  omega

theorem read4_chars4 (bits : BitVec 32) (ends : EndsDigits rest) :
    read4 (chars4 bits ++ rest) = some (bits, rest) := by
  have bounded := bits.isLt
  have first : bits.toNat >>> 24 < 256 := by
    rw [Nat.shiftRight_eq_div_pow]
    omega
  have dot : ∀ tail, EndsDigits ('.' :: tail) := .cons (by decide)
  have octet : ∀ number, number % 256 < 256 := fun number => Nat.mod_lt number (by decide)
  rw [chars4_eq, List.append_assoc, List.cons_append, List.append_assoc, List.cons_append,
    List.append_assoc, List.cons_append, read4]
  simp only [readOctet_digits first (dot _), readOctet_digits (octet _) (dot _),
    readOctet_digits (octet _) ends, readDot, bind, Option.bind, pure, ofOctets_octets]

end Octets

section Groups

variable {rest start : List Char} {group limit : Nat} {groups : List Nat}

/-- A run of hexadecimal digits for a number. -/
structure Spells (width : Nat) (run : List Char) (number : Nat) : Prop where
  ne_nil : run ≠ []
  length_le : run.length ≤ width
  digits : ∀ c ∈ run, isHexDigit c = true
  value : run.foldl (fun n c => n * 16 + (Hex.value? c).getD 0) 0 = number

theorem value?_digit : ∀ nibble : Fin 16, Hex.value? (Hex.digit nibble) = some nibble.val := by
  decide

theorem hexDigits_append (fuel number : Nat) (tail : List Char) :
    Text.hexDigits fuel number tail = Text.hexDigits fuel number [] ++ tail := by
  induction fuel generalizing number tail with
  | zero => rfl
  | succ fuel induction =>
      unfold Text.hexDigits
      split
      · rfl
      · rw [induction, induction (number / 16) [Hex.digit (number % 16)], List.append_assoc]
        rfl

theorem spells_digit {nibble : Nat} (small : nibble < 16) (width : Nat) :
    Spells (width + 1) [Hex.digit nibble] nibble := by
  have value := value?_digit ⟨nibble, small⟩
  dsimp only at value
  constructor
  · simp
  · simp
  · simp [isHexDigit, value]
  · simp [value]

theorem Spells.concat {width number nibble : Nat} {run : List Char}
    (spells : Spells width run number) (small : nibble < 16) :
    Spells (width + 1) (run ++ [Hex.digit nibble]) (number * 16 + nibble) := by
  have value := value?_digit ⟨nibble, small⟩
  dsimp only at value
  constructor
  · simp
  · simpa using spells.length_le
  · intro c member
    rcases List.mem_append.mp member with early | last
    · exact spells.digits c early
    · rw [List.mem_singleton.mp last, isHexDigit, value]
      rfl
  · rw [List.foldl_append, spells.value]
    simp [value]

theorem spells_hexDigits {number : Nat} (fuel : Nat) (small : number < 16 ^ (fuel + 1)) :
    Spells (fuel + 1) (Text.hexDigits (fuel + 1) number []) number := by
  induction fuel generalizing number with
  | zero =>
      rw [Text.hexDigits, if_pos (by omega)]
      exact spells_digit (by omega) 0
  | succ fuel induction =>
      rw [Text.hexDigits]
      split
      · next isDigit => exact spells_digit isDigit (fuel + 1)
      · rw [Nat.pow_succ] at small
        have whole : number / 16 * 16 + number % 16 = number := Nat.div_add_mod' number 16
        have smaller : number / 16 < 16 ^ (fuel + 1) := by omega
        have front := induction smaller
        have spells := front.concat (Nat.mod_lt number (by decide : 0 < 16))
        rw [whole] at spells
        rwa [hexDigits_append]

/-- What goes on with no digit of a group. -/
def EndsGroup (rest : List Char) : Prop := ∀ c ∈ rest.head?, isHexDigit c = false

theorem EndsGroup.cons {c : Char} (other : isHexDigit c = false) (tail : List Char) :
    EndsGroup (c :: tail) := by
  rintro _ ⟨⟩
  exact other

def groupText (group : Nat) : List Char := Text.hexDigits 4 group []

theorem spells_groupText (small : group < 0x10000) : Spells 4 (groupText group) group :=
  spells_hexDigits 3 small

theorem readGroup_groupText (small : group < 0x10000) (ends : EndsGroup rest) :
    readGroup (groupText group ++ rest) = some (group, rest) := by
  have spells := spells_groupText small
  obtain ⟨taken, left⟩ := Text.takeWhile_run spells.digits ends
  have short : ¬ 4 < (groupText group).length := not_lt.mpr spells.length_le
  unfold readGroup
  rw [taken, left]
  simp [spells.ne_nil, short, spells.value]

theorem readGroup_of_endsGroup (ends : EndsGroup rest) : readGroup rest = none := by
  cases rest with
  | nil => rfl
  | cons c tail =>
      unfold readGroup
      simp [ends c rfl]

theorem isHexDigit_of_mem_groupText {c : Char} (small : group < 0x10000)
    (member : c ∈ groupText group) : isHexDigit c = true :=
  (spells_groupText small).digits c member

/-- Groups behind a group. -/
def laterGroups (groups : List Nat) : List Char :=
  groups.flatMap fun group => ':' :: groupText group

theorem groupChars_cons (group : Nat) (groups : List Nat) :
    groupChars (group :: groups) = groupText group ++ laterGroups groups := by
  rw [groupChars, List.map_cons, Json.flatten_intersperse, List.flatMap_map]
  rfl

theorem mem_laterGroups {c : Char} (small : ∀ group ∈ groups, group < 0x10000)
    (member : c ∈ laterGroups groups) : c = ':' ∨ isHexDigit c = true := by
  obtain ⟨group, among, written⟩ := List.mem_flatMap.mp member
  rcases List.mem_cons.mp written with isColon | digit
  · exact .inl isColon
  · exact .inr (isHexDigit_of_mem_groupText (small group among) digit)

theorem mem_groupChars {c : Char} (small : ∀ group ∈ groups, group < 0x10000)
    (member : c ∈ groupChars groups) : c = ':' ∨ isHexDigit c = true := by
  cases groups with
  | nil => cases member
  | cons group groups =>
      rw [groupChars_cons] at member
      rcases List.mem_append.mp member with first | later
      · exact .inr (isHexDigit_of_mem_groupText (small group List.mem_cons_self) first)
      · exact mem_laterGroups (fun other among => small other (.tail _ among)) later

/-- Where groups end: with the text, or with two colons. -/
inductive ClosesGroups : List Char → Prop where
  | nil : ClosesGroups []
  | colons (tail : List Char) (plain : '.' ∉ tail) : ClosesGroups (':' :: ':' :: tail)

theorem ClosesGroups.plain (closes : ClosesGroups rest) : '.' ∉ rest := by
  cases closes with
  | nil => exact List.not_mem_nil
  | colons tail plain => simpa using plain

theorem endsGroup_colon (tail : List Char) : EndsGroup (':' :: tail) := .cons (by decide) tail

theorem ClosesGroups.endsGroup (closes : ClosesGroups rest) : EndsGroup rest := by
  cases closes with
  | nil => rintro c ⟨⟩
  | colons tail plain => exact endsGroup_colon (':' :: tail)

theorem endsGroup_laterGroups (ends : EndsGroup rest) (groups : List Nat) :
    EndsGroup (laterGroups groups ++ rest) := by
  cases groups with
  | nil => exact ends
  | cons group groups => exact endsGroup_colon _

theorem plain_laterGroups (small : ∀ group ∈ groups, group < 0x10000) (plain : '.' ∉ rest) :
    '.' ∉ laterGroups groups ++ rest := by
  intro member
  rcases List.mem_append.mp member with later | behind
  · rcases mem_laterGroups small later with isColon | digit
    · exact absurd isColon (by decide)
    · exact absurd digit (by decide)
  · exact plain behind

theorem plain_groupText (small : group < 0x10000) (plain : '.' ∉ rest) :
    '.' ∉ groupText group ++ rest := by
  intro member
  rcases List.mem_append.mp member with digit | behind
  · exact absurd (isHexDigit_of_mem_groupText small digit) (by decide)
  · exact plain behind

section Steps

variable (no4 : read4 start = none)

include no4

theorem readGroups_of_group (isGroup : readGroup start = some (group, rest)) :
    readGroups true (limit + 1) start =
      (group :: (readGroups false limit rest).1, (readGroups false limit rest).2) := by
  rw [readGroups.eq_def]
  simp [no4, isGroup]

theorem readGroups_colon_of_group (isGroup : readGroup start = some (group, rest)) :
    readGroups false (limit + 1) (':' :: start) =
      (group :: (readGroups false limit rest).1, (readGroups false limit rest).2) := by
  rw [readGroups.eq_def]
  simp [no4, isGroup]

theorem readGroups_of_none (noGroup : readGroup start = none) (limit : Nat) :
    readGroups true limit start = ([], false, start) := by
  cases limit with
  | zero => rfl
  | succ limit =>
      rw [readGroups.eq_def]
      simp [no4, noGroup]

theorem readGroups_colon_of_none (noGroup : readGroup start = none) (limit : Nat) :
    readGroups false limit (':' :: start) = ([], false, ':' :: start) := by
  cases limit with
  | zero => rfl
  | succ limit =>
      rw [readGroups.eq_def]
      simp [no4, noGroup]

end Steps

theorem readGroups_closed (closes : ClosesGroups rest) (limit : Nat) :
    readGroups false limit rest = ([], false, rest) := by
  cases closes with
  | nil => cases limit <;> rfl
  | colons tail plain =>
      exact readGroups_colon_of_none (read4_of_not_isDigit (by decide) tail)
        (readGroup_of_endsGroup (endsGroup_colon tail)) limit

theorem readGroups_laterGroups (small : ∀ group ∈ groups, group < 0x10000)
    (few : groups.length ≤ limit) (closes : ClosesGroups rest) :
    readGroups false limit (laterGroups groups ++ rest) = (groups, false, rest) := by
  induction groups generalizing limit with
  | nil => exact readGroups_closed closes limit
  | cons group groups induction =>
      obtain ⟨smallGroup, smallGroups⟩ := List.forall_mem_cons.mp small
      obtain ⟨limit, rfl⟩ : ∃ less, limit = less + 1 :=
        Nat.exists_eq_succ_of_ne_zero (Nat.ne_of_gt (Nat.lt_of_lt_of_le (Nat.succ_pos _) few))
      have shape : laterGroups (group :: groups) ++ rest =
          ':' :: (groupText group ++ (laterGroups groups ++ rest)) := by
        simp [laterGroups]
      have no4 := read4_of_notMem
        (plain_groupText smallGroup (plain_laterGroups smallGroups closes.plain))
      have isGroup := readGroup_groupText smallGroup (endsGroup_laterGroups closes.endsGroup groups)
      rw [shape, readGroups_colon_of_group no4 isGroup,
        induction smallGroups (Nat.le_of_succ_le_succ few)]

theorem readGroups_groupChars (small : ∀ group ∈ groups, group < 0x10000)
    (few : groups.length ≤ limit) (closes : ClosesGroups rest) :
    readGroups true limit (groupChars groups ++ rest) = (groups, false, rest) := by
  cases groups with
  | nil =>
      exact readGroups_of_none (read4_of_notMem closes.plain)
        (readGroup_of_endsGroup closes.endsGroup) limit
  | cons group groups =>
      obtain ⟨smallGroup, smallGroups⟩ := List.forall_mem_cons.mp small
      obtain ⟨limit, rfl⟩ : ∃ less, limit = less + 1 :=
        Nat.exists_eq_succ_of_ne_zero (Nat.ne_of_gt (Nat.lt_of_lt_of_le (Nat.succ_pos _) few))
      have no4 := read4_of_notMem
        (plain_groupText smallGroup (plain_laterGroups smallGroups closes.plain))
      have isGroup := readGroup_groupText smallGroup (endsGroup_laterGroups closes.endsGroup groups)
      rw [groupChars_cons, List.append_assoc, readGroups_of_group no4 isGroup,
        readGroups_laterGroups smallGroups (Nat.le_of_succ_le_succ few) closes]

end Groups

section Zeros

/-- A part of some groups that holds only zeros. -/
def IsZeroRun (groups : List Nat) (start length : Nat) : Prop :=
  groups.take start ++ List.replicate length 0 ++ groups.drop (start + length) = groups

theorem isZeroRun_zeroRun (groups : List Nat) (start : Nat) :
    IsZeroRun groups start (zeroRun (groups.drop start)) := by
  have zeros : (groups.drop start).takeWhile (· = 0) =
      List.replicate (zeroRun (groups.drop start)) 0 := by
    apply List.eq_replicate_of_mem
    intro group member
    simpa using List.all_eq_true.mp List.all_takeWhile group member
  have whole := List.takeWhile_append_dropWhile (p := (· = 0)) (l := groups.drop start)
  have behind : groups.drop (start + zeroRun (groups.drop start)) =
      (groups.drop start).dropWhile (· = 0) := by
    have left := @List.drop_left _ ((groups.drop start).takeWhile (· = 0))
      ((groups.drop start).dropWhile (· = 0))
    rwa [whole, List.drop_drop] at left
  rw [IsZeroRun, ← zeros, behind, List.append_assoc, whole, List.take_append_drop]

theorem isZeroRun_longestZeroRun (groups : List Nat) :
    IsZeroRun groups (longestZeroRun groups).1 (longestZeroRun groups).2 := by
  unfold longestZeroRun
  refine List.foldlRecOn (motive := fun run : Nat × Nat => IsZeroRun groups run.1 run.2) _ _ ?_ ?_
  · simp [IsZeroRun]
  intro run isRun index _
  dsimp only
  split
  · exact isZeroRun_zeroRun groups index
  · exact isRun

theorem IsZeroRun.le {groups : List Nat} {start length : Nat}
    (isRun : IsZeroRun groups start length) (some : 0 < length) :
    start + length ≤ groups.length := by
  have sizes := congrArg List.length isRun
  simp only [List.length_append, List.length_take, List.length_replicate, List.length_drop] at sizes
  omega

end Zeros

section Words

variable (bits : BitVec 128)

theorem length_groups : (groups bits).length = 8 := by
  simp [groups]

theorem lt_of_mem_groups {group : Nat} (member : group ∈ groups bits) : group < 0x10000 := by
  obtain ⟨index, -, rfl⟩ := List.mem_map.mp member
  exact Nat.mod_lt _ (by decide)

theorem ofGroups_groups : ofGroups (groups bits) = bits := by
  have bounded := bits.isLt
  apply BitVec.eq_of_toNat_eq
  rw [ofGroups, BitVec.toNat_ofNat]
  simp only [groups, List.range, List.range.loop, List.map_cons, List.map_nil, List.foldl_cons,
    List.foldl_nil, Nat.shiftRight_eq_div_pow]
  omega

/-- An address of the other family inside one of this. -/
theorem eq_ofGroups_embedded (embedded : bits.toNat >>> 32 = 0xFFFF) :
    ofGroups [0, 0, 0, 0, 0, 0xFFFF, (BitVec.ofNat 32 bits.toNat).toNat >>> 16,
      (BitVec.ofNat 32 bits.toNat).toNat % 0x10000] = bits := by
  have bounded := bits.isLt
  apply BitVec.eq_of_toNat_eq
  rw [Nat.shiftRight_eq_div_pow] at embedded
  rw [ofGroups, BitVec.toNat_ofNat, BitVec.toNat_ofNat]
  simp only [List.foldl_cons, List.foldl_nil, Nat.shiftRight_eq_div_pow]
  omega

theorem read6_embedded (inner : BitVec 32) :
    read6 ("::ffff:".toList ++ chars4 inner) =
      some (ofGroups [0, 0, 0, 0, 0, 0xFFFF, inner.toNat >>> 16, inner.toNat % 0x10000], []) := by
  have front : readGroups true 8 (':' :: ':' :: (groupText 0xFFFF ++ ':' :: chars4 inner)) =
      ([], false, ':' :: ':' :: (groupText 0xFFFF ++ ':' :: chars4 inner)) :=
    readGroups_of_none (read4_of_not_isDigit (by decide) _)
      (readGroup_of_endsGroup (endsGroup_colon _)) 8
  have isGroup : readGroup (groupText 0xFFFF ++ ':' :: chars4 inner) =
      some (0xFFFF, ':' :: chars4 inner) :=
    readGroup_groupText (by decide) (endsGroup_colon _)
  have inside : readGroups false 6 (':' :: chars4 inner) =
      ([inner.toNat >>> 16, inner.toNat % 0x10000], true, []) := by
    have reads := read4_chars4 inner endsDigits_nil
    rw [List.append_nil] at reads
    rw [readGroups.eq_def]
    simp [reads]
  have back : readGroups true 7 (groupText 0xFFFF ++ ':' :: chars4 inner) =
      ([0xFFFF, inner.toNat >>> 16, inner.toNat % 0x10000], true, []) := by
    have no4 : read4 (groupText 0xFFFF ++ ':' :: chars4 inner) = none :=
      read4_of_not_isDigit (c := 'f') (by decide) _
    rw [readGroups_of_group no4 isGroup, inside]
  have shape : "::ffff:".toList ++ chars4 inner =
      ':' :: ':' :: (groupText 0xFFFF ++ ':' :: chars4 inner) := rfl
  rw [shape, read6, front]
  simp [back, List.replicate]

theorem read6_groupChars {groups : List Nat} (small : ∀ group ∈ groups, group < 0x10000)
    (eight : groups.length = 8) : read6 (groupChars groups) = some (ofGroups groups, []) := by
  have front := readGroups_groupChars small (Nat.le_of_eq eight) .nil
  rw [List.append_nil] at front
  rw [read6, front]
  simp [eight]

theorem read6_shortened {groups : List Nat} (small : ∀ group ∈ groups, group < 0x10000)
    (eight : groups.length = 8) {start length : Nat} (isRun : IsZeroRun groups start length)
    (long : 1 < length) :
    read6 (groupChars (groups.take start) ++
        ':' :: ':' :: groupChars (groups.drop (start + length))) =
      some (ofGroups groups, []) := by
  have within := isRun.le (by omega)
  have smallFront : ∀ group ∈ groups.take start, group < 0x10000 :=
    fun group member => small group (List.mem_of_mem_take member)
  have smallBack : ∀ group ∈ groups.drop (start + length), group < 0x10000 :=
    fun group member => small group (List.mem_of_mem_drop member)
  have sizeFront : (groups.take start).length = start := by
    rw [List.length_take]
    omega
  have sizeBack : (groups.drop (start + length)).length = 8 - (start + length) := by
    rw [List.length_drop, eight]
  have plain : '.' ∉ groupChars (groups.drop (start + length)) := by
    intro member
    rcases mem_groupChars smallBack member with isColon | digit
    · exact absurd isColon (by decide)
    · exact absurd digit (by decide)
  have few : (groups.take start).length ≤ 8 := by omega
  have fewBehind : (groups.drop (start + length)).length ≤ 7 - start := by omega
  have front := readGroups_groupChars smallFront few (.colons _ plain)
  have back := readGroups_groupChars smallBack fewBehind .nil
  rw [List.append_nil] at back
  have notWhole : start ≠ 8 := by omega
  have zeros : 8 - start - (8 - (start + length)) = length := by omega
  have whole : groups.take start ++ (List.replicate length 0 ++ groups.drop (start + length)) =
      groups := (List.append_assoc _ _ _).symm.trans isRun
  rw [read6, front]
  simp [sizeFront, notWhole, back, sizeBack, zeros, whole]

theorem read6_chars6 : read6 (chars6 bits) = some (bits, []) := by
  have small : ∀ group ∈ groups bits, group < 0x10000 := fun _ => lt_of_mem_groups bits
  unfold chars6
  split
  · next embedded => rw [read6_embedded, eq_ofGroups_embedded bits embedded]
  · dsimp only
    split
    · next long =>
        rw [read6_shortened small (length_groups bits) (isZeroRun_longestZeroRun _) long,
          ofGroups_groups]
    · rw [read6_groupChars small (length_groups bits), ofGroups_groups]

theorem mem_chars6 {c : Char} (other : ¬ bits.toNat >>> 32 = 0xFFFF) (member : c ∈ chars6 bits) :
    c = ':' ∨ isHexDigit c = true := by
  have small : ∀ group ∈ groups bits, group < 0x10000 := fun _ => lt_of_mem_groups bits
  rw [chars6, if_neg other] at member
  dsimp only at member
  split at member
  · rcases List.mem_append.mp member with front | back
    · exact mem_groupChars (fun group among => small group (List.mem_of_mem_take among)) front
    · rcases List.mem_cons.mp back with isColon | back
      · exact .inl isColon
      · rcases List.mem_cons.mp back with isColon | back
        · exact .inl isColon
        · exact mem_groupChars (fun group among => small group (List.mem_of_mem_drop among)) back
  · exact mem_groupChars small member

theorem read4_chars6 : read4 (chars6 bits) = none := by
  by_cases embedded : bits.toNat >>> 32 = 0xFFFF
  · rw [chars6, if_pos embedded]
    exact read4_of_not_isDigit (by decide) _
  · apply read4_of_notMem
    intro member
    rcases mem_chars6 bits embedded member with isColon | digit
    · exact absurd isColon (by decide)
    · exact absurd digit (by decide)

end Words

/-- Every address is read back from its text. -/
theorem ofText?_text (address : Address) : ofText? address.text = some address := by
  cases address with
  | v4 bits =>
      have reads := read4_chars4 bits endsDigits_nil
      rw [List.append_nil] at reads
      rw [ofText?, text, String.toList_ofList, reads]
  | v6 bits =>
      rw [ofText?, text, String.toList_ofList, read4_chars6, read6_chars6]

theorem isHexDigit_of_isDigit {c : Char} (digit : isDigit c = true) : isHexDigit c = true := by
  have bounds : '0' ≤ c ∧ c ≤ '9' := by simpa [isDigit] using digit
  rw [isHexDigit, Hex.value?, if_pos bounds]
  rfl

theorem mem_chars4 {bits : BitVec 32} {c : Char} (member : c ∈ chars4 bits) :
    c = '.' ∨ isHexDigit c = true := by
  have ofDigits {number : Nat} (written : c ∈ digits number) : isHexDigit c = true :=
    isHexDigit_of_isDigit (isDigit_of_mem_digits written)
  rw [chars4_eq] at member
  simp only [List.mem_append, List.mem_cons] at member
  rcases member with first | point | second | point | third | point | fourth
  · exact .inr (ofDigits first)
  · exact .inl point
  · exact .inr (ofDigits second)
  · exact .inl point
  · exact .inr (ofDigits third)
  · exact .inl point
  · exact .inr (ofDigits fourth)

theorem mem_text {address : Address} {c : Char} (member : c ∈ address.text.toList) :
    c = '.' ∨ c = ':' ∨ isHexDigit c = true := by
  cases address with
  | v4 bits =>
      rw [text, String.toList_ofList] at member
      exact (mem_chars4 member).imp_right .inr
  | v6 bits =>
      rw [text, String.toList_ofList] at member
      by_cases embedded : bits.toNat >>> 32 = 0xFFFF
      · have front : ("::ffff:".toList.all fun c => c = ':' || isHexDigit c) = true := by decide
        rw [chars6, if_pos embedded] at member
        rcases List.mem_append.mp member with first | inner
        · have isFront := List.all_eq_true.mp front c first
          exact .inr (by simpa using isFront)
        · exact (mem_chars4 inner).imp_right .inr
      · exact .inr (mem_chars6 bits embedded member)

theorem plain_hexDigit_ascii : ∀ point : Fin 128, isHexDigit (Char.ofNat point) = true →
    Text.isBlank (Char.ofNat point) = false ∧ Char.ofNat point ≠ '/' := by
  decide

theorem plain_of_isHexDigit {c : Char} (digit : isHexDigit c = true) :
    Text.isBlank c = false ∧ c ≠ '/' := by
  by_cases ascii : c.toNat < 128
  · have plain := plain_hexDigit_ascii ⟨c.toNat, ascii⟩
    dsimp only at plain
    rw [Char.ofNat_toNat] at plain
    exact plain digit
  · rw [isHexDigit, Hex.value?_of_le (Nat.le_of_not_lt ascii)] at digit
    cases digit

/-- The text of an address has neither a blank nor a slash. -/
theorem plain_of_mem_text {address : Address} {c : Char} (member : c ∈ address.text.toList) :
    Text.isBlank c = false ∧ c ≠ '/' := by
  rcases mem_text member with rfl | rfl | digit
  · decide
  · decide
  · exact plain_of_isHexDigit digit

end Address

end Telemetry
