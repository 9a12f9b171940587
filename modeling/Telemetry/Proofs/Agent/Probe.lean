import Telemetry.Proofs.Agent.Utilization
import Telemetry.Proofs.Outcome
import Telemetry.Proofs.Text.Words

namespace Telemetry.Probe

open Telemetry

/-! How the kernel's statistics are read. The line of a core counts by the numbers in it. Where each
of its columns is one, and no step of the arithmetic leaves the machine's words, the busy
milliseconds are ten for each tick of the columns that are no idling. -/

/-- A line about one core, not about all of them. -/
def IsCoreLine (line : List Char) : Prop :=
  ∃ digit rest, line = "cpu".toList ++ digit :: rest ∧ digit.isDigit = true

def number? (word : List Char) : Option UInt64 := Decimal.readUInt64? (String.ofList word)

/-- The columns of a line are its words behind the first. -/
def columns (line : List Char) : List (List Char) := (Text.words line).drop 1

def numbers (line : List Char) : List UInt64 := (columns line).filterMap number?

section Lines

variable {line : List Char}

theorem isBlank_of_isDigit {c : Char} (digit : c.isDigit = true) : Text.isBlank c = false := by
  have bounds : 48 ≤ c.toNat ∧ c.toNat ≤ 57 := by
    simpa [Char.isDigit, Char.le_def, UInt32.le_iff_toNat_le] using digit
  simp only [Text.isBlank]
  simp
  omega

theorem coreColumns?_of_isCoreLine (isCore : IsCoreLine line) :
    coreColumns? line = some (numbers line) := by
  obtain ⟨digit, rest, rfl, isDigit⟩ := isCore
  have strips : Text.stripStart? "cpu".toList ("cpu".toList ++ digit :: rest) =
      some (digit :: rest) := Text.stripStart?_eq_some_iff.mpr rfl
  have sameColumns : (Text.words ('c' :: 'p' :: 'u' :: digit :: rest)).drop 1 =
      (Text.words (digit :: rest)).drop 1 := by
    rw [Text.drop_words_cons (by decide) (by decide), Text.drop_words_cons (by decide) (by decide),
      Text.drop_words_cons (by decide) (isBlank_of_isDigit isDigit)]
  rw [coreColumns?, strips]
  simp only [isDigit, if_true]
  exact congrArg (fun columns => some (columns.filterMap number?)) sameColumns.symm

theorem coreColumns?_of_not_isCoreLine (other : ¬ IsCoreLine line) : coreColumns? line = none := by
  unfold coreColumns?
  split
  · next digit rest strips =>
      refine if_neg fun isDigit => other ⟨digit, rest, ?_, isDigit⟩
      exact Text.stripStart?_eq_some_iff.mp strips
  · rfl

instance : DecidablePred IsCoreLine := fun line =>
  decidable_of_iff ((coreColumns? line).isSome = true) <| by
    constructor
    · intro present
      by_contra other
      rw [coreColumns?_of_not_isCoreLine other] at present
      cases present
    · intro isCore
      rw [coreColumns?_of_isCoreLine isCore]
      rfl

theorem readLine_of_not_isCoreLine (other : ¬ IsCoreLine line) : readLine line = .ok none := by
  rw [readLine, coreColumns?_of_not_isCoreLine other]

theorem readLine_of_short (isCore : IsCoreLine line)
    (short : (numbers line).length < leastColumns) :
    readLine line = .error (.io (.cpuLine (String.ofList line))) := by
  rw [readLine, coreColumns?_of_isCoreLine isCore]
  exact if_pos short

theorem readLine_of_enough (isCore : IsCoreLine line)
    (enough : leastColumns ≤ (numbers line).length) :
    readLine line = .ok (some (busyMilliseconds (numbers line))) := by
  rw [readLine, coreColumns?_of_isCoreLine isCore]
  exact if_neg (Nat.not_lt.mpr enough)

/-- A core's line has a first word, which is its name. -/
theorem exists_name (isCore : IsCoreLine line) :
    ∃ name, Text.IsWords line (name :: columns line) := by
  have isWords : Text.IsWords line (Text.words line) := Text.words_eq_iff.mp rfl
  have begins : 'c' ∈ line := by
    obtain ⟨digit, rest, rfl, -⟩ := isCore
    exact List.mem_cons_self
  rw [columns]
  cases words : Text.words line with
  | nil =>
      rw [words] at isWords
      cases isWords with
      | blank blank => exact absurd (blank 'c' begins) (by decide)
  | cons name columns =>
      rw [words] at isWords
      exact ⟨name, isWords⟩

end Lines

/-- What comes of the lines about cores: a failure that names the first with too few numbers, or a
number of milliseconds for each of them, in their order. -/
inductive CoresRead (cores : List (List Char)) : Except Failure (List UInt64) → Prop where
  | short {before behind : List (List Char)} {line : List Char}
      (shape : cores = before ++ line :: behind)
      (enough : ∀ other ∈ before, leastColumns ≤ (numbers other).length)
      (short : (numbers line).length < leastColumns) :
      CoresRead cores (.error (.io (.cpuLine (String.ofList line))))
  | read (enough : ∀ line ∈ cores, leastColumns ≤ (numbers line).length) :
      CoresRead cores (.ok (cores.map fun line => busyMilliseconds (numbers line)))

theorem CoresRead.cons {line : List Char} {cores : List (List Char)}
    {result : Except Failure (List UInt64)} (enough : leastColumns ≤ (numbers line).length)
    (read : CoresRead cores result) :
    CoresRead (line :: cores) (result.map (busyMilliseconds (numbers line) :: ·)) := by
  cases read with
  | @short before behind other shape others short =>
      refine .short (?_ : line :: cores = (line :: before) ++ other :: behind) ?_ short
      · rw [shape, List.cons_append]
      · exact List.forall_mem_cons.mpr ⟨enough, others⟩
  | read others => exact .read (List.forall_mem_cons.mpr ⟨enough, others⟩)

def coresIn (lines : List (List Char)) : List (List Char) :=
  lines.filter fun line => IsCoreLine line

theorem mapM_readLine_cons (line : List Char) (lines : List (List Char)) :
    ((line :: lines).mapM readLine).map (·.filterMap id) =
      readLine line >>= fun first => ((lines.mapM readLine).map (·.filterMap id)).map
        (first.toList ++ ·) := by
  rw [List.mapM_cons]
  cases readLine line with
  | error failure => rfl
  | ok first =>
      cases lines.mapM readLine with
      | error failure => rfl
      | ok others => cases first <;> rfl

theorem coresRead (lines : List (List Char)) :
    CoresRead (coresIn lines) ((lines.mapM readLine).map (·.filterMap id)) := by
  induction lines with
  | nil => exact .read (List.forall_mem_nil _)
  | cons line lines induction =>
      rw [mapM_readLine_cons]
      by_cases isCore : IsCoreLine line
      · have isFirst : coresIn (line :: lines) = line :: coresIn lines :=
          List.filter_cons_of_pos (decide_eq_true isCore)
        rw [isFirst]
        by_cases short : (numbers line).length < leastColumns
        · rw [readLine_of_short isCore short]
          exact .short (List.nil_append (line :: coresIn lines)).symm (List.forall_mem_nil _) short
        · have enough := Nat.not_lt.mp short
          rw [readLine_of_enough isCore enough]
          exact induction.cons enough
      · have isOther : coresIn (line :: lines) = coresIn lines :=
          List.filter_cons_of_neg (by simpa using isCore)
        rw [isOther, readLine_of_not_isCoreLine isCore]
        revert induction
        generalize (lines.mapM readLine).map (·.filterMap id) = result
        intro induction
        cases result <;> exact induction

theorem readBusy_eq (statistics : String) :
    readBusy statistics = ((Text.lines statistics.toList).mapM readLine).map (·.filterMap id) >>=
      fun busy => if busy = [] then .error (.io .noCpuLines) else .ok busy := by
  rw [readBusy]
  cases (Text.lines statistics.toList).mapM readLine with
  | error failure => rfl
  | ok each =>
      simp only [bind, Except.bind, Except.map]
      cases each.filterMap id <;> rfl

theorem readBusy_of_cores {statistics : String}
    (some : coresIn (Text.lines statistics.toList) ≠ []) :
    CoresRead (coresIn (Text.lines statistics.toList)) (readBusy statistics) := by
  have read := coresRead (Text.lines statistics.toList)
  rw [readBusy_eq]
  revert read
  generalize ((Text.lines statistics.toList).mapM readLine).map (·.filterMap id) = result
  intro read
  cases read with
  | short shape enough short => exact .short shape enough short
  | read enough =>
      simp only [bind, Except.bind, List.map_eq_nil_iff, if_neg some]
      exact .read enough

theorem readBusy_of_no_cores {statistics : String}
    (none : coresIn (Text.lines statistics.toList) = []) :
    readBusy statistics = .error (.io .noCpuLines) := by
  have read := coresRead (Text.lines statistics.toList)
  rw [readBusy_eq]
  rw [none] at read
  revert read
  generalize ((Text.lines statistics.toList).mapM readLine).map (·.filterMap id) = result
  intro read
  cases read with
  | short shape enough short => exact absurd shape.symm (by simp)
  | read enough => rfl

/-! The columns by their place. -/

def column (numbers : List UInt64) (place : Nat) : Nat := (numbers.getD place 0).toNat

/-- User, nice, system, interrupts, soft interrupts and stolen time. -/
def busyTicks (numbers : List UInt64) : Nat :=
  column numbers 0 + column numbers 1 + column numbers 2 + column numbers 5 + column numbers 6 +
    column numbers 7

/-- Idle and waiting time. -/
def idleTicks (numbers : List UInt64) : Nat := column numbers 3 + column numbers 4

theorem sum_take (numbers : List UInt64) (count : Nat) :
    ((numbers.take count).map UInt64.toNat).sum =
      ((List.range count).map (column numbers)).sum := by
  induction count generalizing numbers with
  | zero => rfl
  | succ count induction =>
      rw [List.range_succ_eq_map, List.map_cons, List.map_map, List.sum_cons]
      cases numbers with
      | nil =>
          have absent : column [] ∘ Nat.succ = fun _ => 0 := rfl
          rw [absent]
          simp [column]
      | cons number numbers =>
          rw [List.take_succ_cons, List.map_cons, List.sum_cons, induction]
          rfl

theorem sum_take_eight (numbers : List UInt64) :
    ((numbers.take 8).map UInt64.toNat).sum = busyTicks numbers + idleTicks numbers := by
  rw [sum_take]
  simp [List.range_succ, busyTicks, idleTicks]
  omega

theorem toNat_foldl_add (numbers : List UInt64) (start : UInt64) :
    (numbers.foldl (· + ·) start).toNat =
      (start.toNat + (numbers.map UInt64.toNat).sum) % UInt64.size := by
  induction numbers generalizing start with
  | nil => exact (Nat.mod_eq_of_lt start.toNat_lt_size).symm
  | cons number numbers induction =>
      rw [List.foldl_cons, induction, List.map_cons, List.sum_cons, UInt64.toNat_add,
        ← Nat.add_assoc]
      exact Nat.mod_add_mod _ _ _

/-- What is computed, in whatever way the steps wrap. -/
theorem toNat_busyMilliseconds (numbers : List UInt64) :
    (busyMilliseconds numbers).toNat =
      ((busyTicks numbers + idleTicks numbers) % UInt64.size - idleTicks numbers % UInt64.size) *
        10 % UInt64.size := by
  rw [busyMilliseconds, UInt64.toNat_mul, toNat_saturatingSub, toNat_foldl_add, UInt64.toNat_zero,
    Nat.zero_add, sum_take_eight, UInt64.toNat_add]
  rfl

/-! The same by operations that refuse to leave the machine's words. -/

section Checked

variable {x y : UInt64}

theorem sum?_of_lt (fits : x.toNat + y.toNat < UInt64.size) :
    sum? x y = some (x + y) ∧ (x + y).toNat = x.toNat + y.toNat := by
  refine ⟨if_pos fits, ?_⟩
  rw [UInt64.toNat_add]
  exact Nat.mod_eq_of_lt fits

theorem difference?_of_le (le : y.toNat ≤ x.toNat) :
    difference? x y = some (saturatingSub x y) := by
  have notLess : ¬ x < y := fun less => absurd (UInt64.lt_iff_toNat_lt.mp less) (Nat.not_lt.mpr le)
  rw [difference?, if_pos le, saturatingSub, if_neg notLess]

end Checked

theorem foldlM_sum? (numbers : List UInt64) (start : UInt64) :
    numbers.foldlM sum? start =
      if start.toNat + (numbers.map UInt64.toNat).sum < UInt64.size then
        some (numbers.foldl (· + ·) start)
      else none := by
  induction numbers generalizing start with
  | nil => exact (if_pos start.toNat_lt_size).symm
  | cons number numbers induction =>
      rw [List.foldlM_cons, List.foldl_cons, List.map_cons, List.sum_cons, ← Nat.add_assoc]
      by_cases fits : start.toNat + number.toNat < UInt64.size
      · rw [(sum?_of_lt fits).1, ← (sum?_of_lt fits).2]
        exact induction (start + number)
      · have tooLarge :
            ¬ start.toNat + number.toNat + (numbers.map UInt64.toNat).sum < UInt64.size :=
          fun allFit => fits (Nat.lt_of_le_of_lt (Nat.le_add_right _ _) allFit)
        rw [sum?, if_neg fits, if_neg tooLarge]
        rfl

/-- No step leaves the machine's words where neither the ticks nor the milliseconds do. -/
theorem busyMilliseconds?_eq (numbers : List UInt64) :
    busyMilliseconds? numbers =
      if busyTicks numbers + idleTicks numbers < UInt64.size ∧
          busyTicks numbers * 10 < UInt64.size then
        some (busyMilliseconds numbers)
      else none := by
  have added := toNat_foldl_add (numbers.take 8) 0
  rw [busyMilliseconds?, foldlM_sum?, busyMilliseconds]
  rw [UInt64.toNat_zero, Nat.zero_add, sum_take_eight] at added ⊢
  by_cases fits : busyTicks numbers + idleTicks numbers < UInt64.size
  · rw [Nat.mod_eq_of_lt fits] at added
    have idleFits : (numbers.getD 3 0).toNat + (numbers.getD 4 0).toNat < UInt64.size :=
      Nat.lt_of_le_of_lt (Nat.le_add_left (idleTicks numbers) (busyTicks numbers)) fits
    obtain ⟨isIdle, idle⟩ := sum?_of_lt idleFits
    replace idle : (numbers.getD 3 0 + numbers.getD 4 0).toNat = idleTicks numbers := idle
    generalize numbers.getD 3 0 + numbers.getD 4 0 = idling at isIdle idle ⊢
    generalize (numbers.take 8).foldl (· + ·) 0 = total at added ⊢
    have isLess : idling.toNat ≤ total.toNat := by omega
    have busy : (saturatingSub total idling).toNat = busyTicks numbers := by
      rw [toNat_saturatingSub]
      omega
    rw [if_pos fits, isIdle]
    simp only [bind, Option.bind, difference?_of_le isLess]
    rw [product?, busy]
    simp only [fits, true_and]
    rfl
  · rw [if_neg fits, if_neg fun both => fits both.1]
    rfl

/-! What the columns tell by their place. -/

/-- Nothing, where one of the first eight is no number, where there are too few of them or where the
milliseconds leave the machine's words. -/
def told? (columns : List (List Char)) : Option Nat := do
  let numbers ← (columns.take 8).mapM number?
  if leastColumns ≤ numbers.length ∧ busyTicks numbers * 10 < UInt64.size then
    some (busyTicks numbers * 10)
  else none

theorem take_filterMap_number? {columns : List (List Char)} {first : List UInt64} {count : Nat}
    (allNumbers : (columns.take count).mapM number? = some first) :
    (columns.filterMap number?).take count = first := by
  induction count generalizing columns first with
  | zero => exact Option.some.inj allNumbers
  | succ count induction =>
      cases columns with
      | nil => exact Option.some.inj allNumbers
      | cons column columns =>
          rw [List.take_succ_cons, List.mapM_cons] at allNumbers
          obtain ⟨number, isNumber, others⟩ := Option.bind_eq_some_iff.mp allNumbers
          obtain ⟨behind, areNumbers, shape⟩ := Option.bind_eq_some_iff.mp others
          rw [List.filterMap_cons_some isNumber, List.take_succ_cons, induction areNumbers]
          exact Option.some.inj shape

theorem busyTicks_take_eight (numbers : List UInt64) :
    busyTicks (numbers.take 8) = busyTicks numbers := by
  have atPlace : ∀ place < 8, column (numbers.take 8) place = column numbers place := by
    intro place isFirst
    simp only [column, List.getD_eq_getElem?_getD, List.getElem?_take_of_lt isFirst]
  simp [busyTicks, atPlace]

theorem told?_eq_some_iff {columns : List (List Char)} {milliseconds : Nat} :
    told? columns = some milliseconds ↔
      ∃ first, (columns.take 8).mapM number? = some first ∧ leastColumns ≤ first.length ∧
        busyTicks first * 10 < UInt64.size ∧ busyTicks first * 10 = milliseconds := by
  constructor
  · intro tells
    obtain ⟨first, allNumbers, told⟩ := Option.bind_eq_some_iff.mp tells
    obtain ⟨⟨enough, fits⟩, same⟩ := Option.ite_none_right_eq_some.mp told
    exact ⟨first, allNumbers, enough, fits, Option.some.inj same⟩
  · rintro ⟨first, allNumbers, enough, fits, rfl⟩
    exact Option.bind_eq_some_iff.mpr ⟨first, allNumbers, if_pos ⟨enough, fits⟩⟩

/-- How the numbers in a line go with its columns. -/
structure Tells (line : List Char) : Prop where
  few : (columns line).length < leastColumns → (numbers line).length < leastColumns
  inPlace : ∀ {first}, ((columns line).take 8).mapM number? = some first →
    (numbers line).take 8 = first
  checked : busyMilliseconds? (numbers line) =
    if busyTicks (numbers line) + idleTicks (numbers line) < UInt64.size ∧
        busyTicks (numbers line) * 10 < UInt64.size then
      some (busyMilliseconds (numbers line))
    else none
  wrapped : (busyMilliseconds (numbers line)).toNat =
    ((busyTicks (numbers line) + idleTicks (numbers line)) % UInt64.size -
      idleTicks (numbers line) % UInt64.size) * 10 % UInt64.size

theorem tells (line : List Char) : Tells line where
  few := Nat.lt_of_le_of_lt (List.length_filterMap_le number? (columns line))
  inPlace := take_filterMap_number?
  checked := busyMilliseconds?_eq (numbers line)
  wrapped := toNat_busyMilliseconds (numbers line)

/-- The columns tell the milliseconds, and all the ticks together fit a word. -/
def IsSound (line : List Char) : Prop :=
  ∃ milliseconds, told? (columns line) = some milliseconds ∧
    busyTicks (numbers line) + idleTicks (numbers line) < UInt64.size

theorem IsSound.exact {line : List Char} (sound : IsSound line) :
    leastColumns ≤ (numbers line).length ∧
      told? (columns line) = some (busyMilliseconds (numbers line)).toNat ∧
      busyMilliseconds? (numbers line) = some (busyMilliseconds (numbers line)) := by
  obtain ⟨milliseconds, tells, total⟩ := sound
  obtain ⟨first, allNumbers, enough, fits, rfl⟩ := told?_eq_some_iff.mp tells
  have inPlace : (numbers line).take 8 = first := take_filterMap_number? allNumbers
  have same : busyTicks first = busyTicks (numbers line) := by
    rw [← inPlace, busyTicks_take_eight]
  rw [same] at fits tells
  have exactly : (busyMilliseconds (numbers line)).toNat = busyTicks (numbers line) * 10 := by
    have idle := Nat.lt_of_le_of_lt (Nat.le_add_left _ _) total
    rw [toNat_busyMilliseconds, Nat.mod_eq_of_lt total, Nat.mod_eq_of_lt idle,
      Nat.add_sub_cancel, Nat.mod_eq_of_lt fits]
  refine ⟨?_, ?_, ?_⟩
  · rw [← inPlace] at enough
    exact Nat.le_trans enough (List.length_take_le' 8 (numbers line))
  · rw [tells, exactly]
  · rw [busyMilliseconds?_eq, if_pos ⟨total, fits⟩]

/-- A text is read as a whole or refused as a whole, by the numbers in the lines of its cores. Where
their columns are numbers as far as they count, the milliseconds are the ones the columns tell. -/
theorem readBusy_told (statistics : String) :
    ∃ lines, Text.IsLines statistics.toList lines ∧
      (coresIn lines = [] → readBusy statistics = .error (.io .noCpuLines)) ∧
      (coresIn lines ≠ [] → CoresRead (coresIn lines) (readBusy statistics)) ∧
      (∀ line ∈ coresIn lines,
        Tells line ∧ ∃ name, Text.IsWords line (name :: columns line)) ∧
      (coresIn lines ≠ [] → (∀ line ∈ coresIn lines, IsSound line) →
        ∃ cores, readBusy statistics = .ok cores ∧
          List.Forall₂ (fun line core => told? (columns line) = some core.toNat ∧
            busyMilliseconds? (numbers line) = some core) (coresIn lines) cores) := by
  refine ⟨Text.lines statistics.toList, Text.lines_eq_iff.mp rfl, readBusy_of_no_cores,
    readBusy_of_cores, ?_, ?_⟩
  · intro line isCore
    exact ⟨tells line, exists_name (of_decide_eq_true (List.mem_filter.mp isCore).2)⟩
  · intro cores sound
    have read := readBusy_of_cores cores
    generalize coresIn (Text.lines statistics.toList) = lines at sound read ⊢
    generalize readBusy statistics = result at read ⊢
    cases read with
    | @short before behind line shape enough short =>
        have isOne : line ∈ lines := shape ▸ List.mem_append_right before List.mem_cons_self
        exact absurd (sound line isOne).exact.1 (Nat.not_le.mpr short)
    | read enough =>
        refine ⟨_, rfl, ?_⟩
        rw [List.forall₂_map_right_iff, List.forall₂_same]
        intro line isOne
        exact (sound line isOne).exact.2

theorem readBusy_told_twoCores :
    ∃ cores, readBusy "cpu0 4 1 5 50 2 0 0 0 0 0\ncpu1 6 0 4 50 0 1 0 0 0 0\n" = .ok cores ∧
      List.Forall₂ (fun line core => told? (columns line) = some core.toNat ∧
          busyMilliseconds? (numbers line) = some core)
        ["cpu0 4 1 5 50 2 0 0 0 0 0".toList, "cpu1 6 0 4 50 0 1 0 0 0 0".toList] cores := by
  obtain ⟨lines, isLines, -, -, -, sound⟩ :=
    readBusy_told "cpu0 4 1 5 50 2 0 0 0 0 0\ncpu1 6 0 4 50 0 1 0 0 0 0\n"
  obtain rfl := Text.lines_eq_iff.mpr isLines
  have both : coresIn (Text.lines "cpu0 4 1 5 50 2 0 0 0 0 0\ncpu1 6 0 4 50 0 1 0 0 0 0\n".toList) =
      ["cpu0 4 1 5 50 2 0 0 0 0 0".toList, "cpu1 6 0 4 50 0 1 0 0 0 0".toList] := by
    decide +kernel
  rw [both] at sound
  refine sound (List.cons_ne_nil _ _) (List.forall_mem_cons.mpr
    ⟨⟨100, ?_, ?_⟩, List.forall_mem_singleton.mpr ⟨110, ?_, ?_⟩⟩) <;> decide +kernel

/-- The word that is no number is left out, so the idle ticks count as busy. -/
theorem not_forall_told :
    ¬ ∀ (statistics : String) (cores : List UInt64), readBusy statistics = .ok cores →
      List.Forall₂ (fun line core => told? (columns line) = some core.toNat)
        (coresIn (Text.lines statistics.toList)) cores := by
  intro always
  have told := always "cpu0 a 1 2 3 4\n" [60] (by decide +kernel)
  have one : coresIn (Text.lines "cpu0 a 1 2 3 4\n".toList) = ["cpu0 a 1 2 3 4".toList] := by
    decide +kernel
  have nothing : told? (columns "cpu0 a 1 2 3 4".toList) = none := by
    decide +kernel
  rw [one, List.forall₂_cons, nothing] at told
  cases told.1

end Telemetry.Probe
