import Telemetry.Disk
import Telemetry.Proofs.Outcome

namespace Telemetry.Disk

open Telemetry

/-! What is written is what is read, also after it has been moved. Paths lead to the same places as
long as no directory goes. -/

variable {disk next : Disk} {path name : String}

def Keeps (disk next : Disk) : Prop :=
  ∀ name, disk.entry? name = some .directory → next.entry? name = some .directory

theorem entry?_set (disk : Disk) (name : String) (entry : Entry) (other : String) :
    entry? (disk.set name entry) other =
      if other = "" then some .directory
      else if name = other then some entry else disk.entry? other := by
  unfold entry?
  by_cases root : other = ""
  · rw [if_pos root, if_pos root]
  · rw [if_neg root, if_neg root, if_neg root]
    exact Std.ExtTreeMap.getElem?_insert.trans (by simp)

theorem entry?_erase (disk : Disk) (name other : String) :
    entry? (disk.erase name) other =
      if other = "" then some .directory else if name = other then none else disk.entry? other := by
  unfold entry?
  by_cases root : other = ""
  · rw [if_pos root, if_pos root]
  · rw [if_neg root, if_neg root, if_neg root]
    exact Std.ExtTreeMap.getElem?_erase.trans (by simp)

theorem keeps_set (disk : Disk) (notDirectory : disk.entry? name ≠ some .directory)
    (entry : Entry) : disk.Keeps (disk.set name entry) := by
  intro other isDirectory
  have elsewhere : name ≠ other := fun same => notDirectory (same ▸ isDirectory)
  rw [entry?_set, if_neg elsewhere, isDirectory, ite_self]

theorem keeps_erase (disk : Disk) (notDirectory : disk.entry? name ≠ some .directory) :
    disk.Keeps (disk.erase name) := by
  intro other isDirectory
  have elsewhere : name ≠ other := fun same => notDirectory (same ▸ isDirectory)
  rw [entry?_erase, if_neg elsewhere, isDirectory, ite_self]

theorem entry?_set_ne_directory (notDirectory : disk.entry? path ≠ some .directory) (name : String)
    (content : Bytes) : entry? (disk.set name (.file content)) path ≠ some .directory := by
  have named : path ≠ "" := by
    rintro rfl
    exact notDirectory rfl
  rw [entry?_set, if_neg named]
  split
  · simp
  · exact notDirectory

theorem entry?_erase_ne_directory (notDirectory : disk.entry? path ≠ some .directory)
    (name : String) : entry? (disk.erase name) path ≠ some .directory := by
  have named : path ≠ "" := by
    rintro rfl
    exact notDirectory rfl
  rw [entry?_erase, if_neg named]
  split
  · simp
  · exact notDirectory

theorem keeps_of_set (disk : Disk) (name : String) (content : Bytes) :
    Keeps (disk.set name (.file content)) disk := by
  intro other isDirectory
  rw [entry?_set] at isDirectory
  split at isDirectory
  · next isRoot =>
      subst isRoot
      rfl
  · split at isDirectory
    · cases isDirectory
    · exact isDirectory

theorem set_set (disk : Disk) (name : String) (entry other : Entry) :
    set (disk.set name entry) name other = disk.set name other := by
  refine congrArg Disk.mk (Std.ExtTreeMap.ext_getElem? fun each => ?_)
  rw [set, Std.ExtTreeMap.getElem?_insert, Std.ExtTreeMap.getElem?_insert,
    Std.ExtTreeMap.getElem?_insert]
  split <;> rfl

theorem Keeps.walk (keeps : disk.Keeps next) {parts done reached : List String}
    (walks : disk.walk done parts = .ok reached) : next.walk done parts = .ok reached := by
  induction parts generalizing done with
  | nil => exact walks
  | cons part parts induction =>
      unfold Disk.walk at walks ⊢
      split at walks
      · next isParent =>
          rw [if_pos isParent]
          exact induction walks
      · next isChild =>
          rw [if_neg isChild]
          split at walks
          · cases walks
          · next short =>
              rw [if_neg short]
              simp only at walks ⊢
              split at walks
              · next isLast =>
                  rw [if_pos isLast]
                  exact walks
              · next goesOn =>
                  rw [if_neg goesOn]
                  split at walks
                  · cases walks
                  · cases walks
                  · next isDirectory =>
                      rw [keeps _ isDirectory]
                      exact induction walks

theorem Keeps.locate (keeps : disk.Keeps next) (located : disk.locate path = .ok name) :
    next.locate path = .ok name := by
  unfold Disk.locate at located ⊢
  split at located
  · cases located
  · next named =>
      rw [if_neg named]
      split at located
      · cases located
      · next clean =>
          rw [if_neg clean]
          obtain ⟨reached, walks, isThere⟩ := exists_of_bind_eq_ok located
          rw [keeps.walk walks]
          exact isThere

theorem read_eq_ok {content : Bytes} :
    disk.read path = .ok content ↔
      ∃ name, disk.locate path = .ok name ∧ disk.entry? name = some (.file content) := by
  constructor
  · intro holds
    unfold read at holds
    obtain ⟨name, located, held⟩ := exists_of_bind_eq_ok holds
    refine ⟨name, located, ?_⟩
    split at held
    · cases held
    · cases held
    · next stored isFile => rw [isFile, Except.ok.inj held]
  · rintro ⟨name, located, isFile⟩
    unfold read
    rw [located]
    simp only [bind, Except.bind, isFile]

theorem write_eq_ok {content : Bytes} :
    disk.write path content = .ok next ↔
      ∃ name, disk.locate path = .ok name ∧ disk.entry? name ≠ some .directory ∧
        next = disk.set name (.file content) := by
  constructor
  · intro written
    unfold write at written
    obtain ⟨name, located, written⟩ := exists_of_bind_eq_ok written
    split at written
    · cases written
    · next notDirectory => exact ⟨name, located, notDirectory, (Except.ok.inj written).symm⟩
  · rintro ⟨name, located, notDirectory, rfl⟩
    unfold write
    rw [located]
    simp only [bind, Except.bind]

theorem read_write {content : Bytes} (written : disk.write path content = .ok next) :
    next.read path = .ok content := by
  obtain ⟨name, located, notDirectory, rfl⟩ := write_eq_ok.mp written
  have named : name ≠ "" := by
    rintro rfl
    exact notDirectory rfl
  refine read_eq_ok.mpr ⟨name, (keeps_set disk notDirectory _).locate located, ?_⟩
  rw [entry?_set, if_neg named, if_pos rfl]

/-- What is written twice is as if written the second time only. -/
theorem write_write {content other : Bytes} (written : disk.write path content = .ok next) :
    next.write path other = disk.write path other := by
  obtain ⟨name, located, notDirectory, rfl⟩ := write_eq_ok.mp written
  have accepted : disk.write path other = .ok (disk.set name (.file other)) :=
    write_eq_ok.mpr ⟨name, located, notDirectory, rfl⟩
  rw [accepted]
  exact write_eq_ok.mpr ⟨name, (keeps_set disk notDirectory _).locate located,
    entry?_set_ne_directory notDirectory name content, (set_set disk name _ _).symm⟩

theorem rename_eq {source target sourceName targetName : String} {content : Bytes}
    (sourceLocated : disk.locate source = .ok sourceName)
    (targetLocated : disk.locate target = .ok targetName)
    (isFile : disk.entry? sourceName = some (.file content))
    (renamed : disk.rename source target = .ok next) :
    disk.entry? targetName ≠ some .directory ∧
      next = (disk.erase sourceName).set targetName (.file content) := by
  unfold rename at renamed
  rw [sourceLocated, targetLocated] at renamed
  simp only [bind, Except.bind, isFile] at renamed
  cases occupied : disk.entry? targetName with
  | none =>
      rw [occupied] at renamed
      exact ⟨by simp, (Except.ok.inj renamed).symm⟩
  | some entry =>
      rw [occupied] at renamed
      cases entry with
      | directory => cases renamed
      | file other => exact ⟨by simp, (Except.ok.inj renamed).symm⟩

theorem read_rename {source target : String} {content : Bytes}
    (holds : disk.read source = .ok content) (renamed : disk.rename source target = .ok next) :
    next.read target = .ok content := by
  obtain ⟨sourceName, sourceLocated, isFile⟩ := read_eq_ok.mp holds
  have moves := renamed
  unfold rename at moves
  obtain ⟨_, _, moves⟩ := exists_of_bind_eq_ok moves
  obtain ⟨targetName, targetLocated, -⟩ := exists_of_bind_eq_ok moves
  obtain ⟨notDirectory, rfl⟩ := rename_eq sourceLocated targetLocated isFile renamed
  have named : targetName ≠ "" := by
    rintro rfl
    exact notDirectory rfl
  have stillNotDirectory := entry?_erase_ne_directory notDirectory sourceName
  -- Neither step takes a directory away, so the target is still found where it was.
  have keepsErased := keeps_erase disk (by rw [isFile]; simp : _ ≠ some Entry.directory)
  have keepsSet := keeps_set _ stillNotDirectory (.file content)
  unfold read
  rw [keepsSet.locate (keepsErased.locate targetLocated)]
  simp only [bind, Except.bind]
  rw [entry?_set, if_neg named, if_pos rfl]

theorem exists_pieces_append {c : Char} {suffix : String} (plain : c ∉ suffix.toList)
    (text : String) : ∃ init last, Text.pieces c text = init ++ [last] ∧
      Text.pieces c (text ++ suffix) = init ++ [last ++ suffix] := by
  unfold Text.pieces
  rw [String.toList_append]
  by_cases divided : c ∈ text.toList
  · obtain ⟨last, init, whole, lastPlain⟩ :=
      List.eq_append_cons_of_mem (List.mem_reverse.mpr divided)
    have isText : text.toList = init.reverse ++ c :: last.reverse := by
      rw [← List.reverse_reverse text.toList, whole]
      simp
    refine ⟨(init.reverse.splitOn c).map String.ofList, String.ofList last.reverse, ?_, ?_⟩
    · have own : last.reverse.splitOn c = [last.reverse] :=
        List.splitOn_eq_singleton (by simpa using lastPlain)
      rw [isText, List.splitOn_append_cons_self, List.map_append, own]
      rfl
    · have own : (last.reverse ++ suffix.toList).splitOn c = [last.reverse ++ suffix.toList] :=
        List.splitOn_eq_singleton (by simp [lastPlain, plain])
      rw [isText, List.append_assoc, List.cons_append, List.splitOn_append_cons_self,
        List.map_append, own, List.map_singleton, String.ofList_append, String.ofList_toList]
  · refine ⟨[], text, ?_, ?_⟩
    · rw [List.splitOn_eq_singleton divided, List.map_singleton, String.ofList_toList]
      rfl
    · rw [List.splitOn_eq_singleton (by simp [divided, plain]), List.map_singleton,
        String.ofList_append, String.ofList_toList, String.ofList_toList]
      rfl

/-- The parts of the place, last first, that parts lead to. -/
def resolve (done parts : List String) : List String :=
  parts.foldl (fun done part => if part = ".." then done.tail else part :: done) done

theorem resolve_of_walk {parts done reached : List String}
    (walks : disk.walk done parts = .ok reached) : reached = resolve done parts := by
  induction parts generalizing done with
  | nil => exact (Except.ok.inj walks).symm
  | cons part parts induction =>
      unfold walk at walks
      rw [resolve, List.foldl_cons]
      split at walks
      · next isParent =>
          rw [if_pos isParent]
          exact induction walks
      · next isChild =>
          rw [if_neg isChild]
          split at walks
          · cases walks
          · simp only at walks
            split at walks
            · next isLast =>
                rw [List.isEmpty_iff.mp isLast]
                exact (Except.ok.inj walks).symm
            · split at walks
              · cases walks
              · cases walks
              · exact induction walks

/-- The length of a full name with these parts. -/
def size : List String → Nat
  | [] => 0
  | part :: parts => part.length + 1 + size parts

theorem length_fullName (parts : List String) (name : String) :
    (parts.foldl (fun name part => "/" ++ part ++ name) name).length =
      size parts + name.length := by
  induction parts generalizing name with
  | nil => exact (Nat.zero_add _).symm
  | cons part parts induction =>
      rw [List.foldl_cons, induction, size, String.length_append, String.length_append]
      have one : "/".length = 1 := rfl
      omega

theorem length_of_locate (located : disk.locate path = .ok name) :
    name.length = size (resolve [] (parts path)) := by
  unfold locate at located
  split at located
  · cases located
  · split at located
    · cases located
    · obtain ⟨reached, walks, isName⟩ := exists_of_bind_eq_ok located
      obtain rfl := resolve_of_walk walks
      rw [← Except.ok.inj isName, length_fullName]
      rfl

theorem size_cons (part : String) (parts : List String) :
    size (part :: parts) = part.length + 1 + size parts := rfl

theorem resolve_append (done parts more : List String) :
    resolve done (parts ++ more) = resolve (resolve done parts) more := List.foldl_append

theorem size_resolve_le (done : List String) {parts : List String} {last : String}
    (atMost : parts = [last] ∨ parts = []) :
    size (resolve done parts) ≤ last.length + 1 + size done := by
  rcases atMost with rfl | rfl
  · by_cases isParent : last = ".."
    · have goesUp : resolve done [last] = done.tail := if_pos isParent
      rw [goesUp]
      cases done with
      | nil => exact Nat.zero_le _
      | cons top done =>
          rw [size_cons, List.tail_cons]
          omega
    · have goesDown : resolve done [last] = last :: done := if_neg isParent
      exact Nat.le_of_eq (congrArg size goesDown)
  · exact Nat.le_add_left _ _

/-- A path with some more at its end leads elsewhere. -/
theorem ne_of_locate_append {suffix other : String} (plain : '/' ∉ suffix.toList)
    (long : 2 < suffix.length) (located : disk.locate path = .ok name)
    (otherLocated : next.locate (path ++ suffix) = .ok other) : name ≠ other := by
  obtain ⟨init, last, isPath, isOther⟩ := exists_pieces_append plain path
  have longer : (last ++ suffix).length = last.length + suffix.length :=
    String.length_append last suffix
  have apart : ∀ short : String, short.length ≤ 2 → last ++ suffix ≠ short := by
    rintro short atMost rfl
    omega
  have named : last ++ suffix ≠ "" ∧ last ++ suffix ≠ "." ∧ last ++ suffix ≠ ".." :=
    ⟨apart "" (by decide), apart "." (by decide), apart ".." (by decide)⟩
  -- The parts are the same but for the last, which is longer.
  have whole : parts (path ++ suffix) =
      (init.filter fun part => part ≠ "" && part ≠ ".") ++ [last ++ suffix] := by
    rw [parts, isOther, List.filter_append]
    simp [named]
  have atMost : ([last].filter fun part => part ≠ "" && part ≠ ".") = [last] ∨
      ([last].filter fun part => part ≠ "" && part ≠ ".") = [] := by
    rw [List.filter_cons]
    split
    · exact .inl rfl
    · exact .inr rfl
  have length := length_of_locate located
  have otherLength := length_of_locate otherLocated
  rw [parts, isPath, List.filter_append, resolve_append] at length
  rw [whole, resolve_append] at otherLength
  generalize resolve [] (init.filter fun part => part ≠ "" && part ≠ ".") = done
    at length otherLength
  have bound := size_resolve_le done atMost
  have goesDown : resolve done [last ++ suffix] = (last ++ suffix) :: done := if_neg named.2.2
  rw [goesDown, size_cons] at otherLength
  rintro rfl
  omega

/-- What is written elsewhere does not change what is read. -/
theorem read_write_elsewhere {source : String} {content held : Bytes}
    (written : disk.write source content = .ok next)
    (apart : ∀ name other, disk.locate path = .ok name → disk.locate source = .ok other →
      name ≠ other) :
    next.read path = .ok held ↔ disk.read path = .ok held := by
  obtain ⟨other, sourceLocated, notDirectory, rfl⟩ := write_eq_ok.mp written
  have same : ∀ name, name ≠ other →
      entry? (disk.set other (.file content)) name = disk.entry? name := by
    intro name elsewhere
    rw [entry?_set, if_neg elsewhere.symm]
    split
    · next isRoot =>
        subst isRoot
        rfl
    · rfl
  constructor
  · intro holds
    obtain ⟨name, located, isFile⟩ := read_eq_ok.mp holds
    have located := (keeps_of_set disk other content).locate located
    exact read_eq_ok.mpr
      ⟨name, located, (same name (apart name other located sourceLocated)).symm.trans isFile⟩
  · intro holds
    obtain ⟨name, located, isFile⟩ := read_eq_ok.mp holds
    exact read_eq_ok.mpr ⟨name, (keeps_set disk notDirectory _).locate located,
      (same name (apart name other located sourceLocated)).trans isFile⟩

/-- A file can be written at a path. -/
def Accepts (disk : Disk) (path : String) : Prop :=
  ∃ name, disk.locate path = .ok name ∧ disk.entry? name ≠ some .directory

namespace Accepts

variable {other source target : String} {content : Bytes}

theorem write (accepts : disk.Accepts path) (content : Bytes) :
    ∃ next, disk.write path content = .ok next := by
  obtain ⟨name, located, notDirectory⟩ := accepts
  exact ⟨_, write_eq_ok.mpr ⟨name, located, notDirectory, rfl⟩⟩

theorem set (accepts : disk.Accepts path) (notDirectory : disk.entry? name ≠ some .directory)
    (content : Bytes) : (disk.set name (.file content)).Accepts path := by
  obtain ⟨own, located, ownNotDirectory⟩ := accepts
  exact ⟨own, (keeps_set disk notDirectory _).locate located,
    entry?_set_ne_directory ownNotDirectory name content⟩

theorem erase (accepts : disk.Accepts path) (notDirectory : disk.entry? name ≠ some .directory) :
    (disk.erase name).Accepts path := by
  obtain ⟨own, located, ownNotDirectory⟩ := accepts
  exact ⟨own, (keeps_erase disk notDirectory).locate located,
    entry?_erase_ne_directory ownNotDirectory name⟩

theorem of_write (accepts : disk.Accepts path) (written : disk.write other content = .ok next) :
    next.Accepts path := by
  obtain ⟨name, -, notDirectory, rfl⟩ := write_eq_ok.mp written
  exact accepts.set notDirectory content

/-- A file can be moved to a place where one can be written. -/
theorem rename (accepts : disk.Accepts target) (holds : disk.read source = .ok content) :
    ∃ next, disk.rename source target = .ok next ∧
      ∀ {path}, disk.Accepts path → next.Accepts path := by
  obtain ⟨sourceName, sourceLocated, isFile⟩ := read_eq_ok.mp holds
  obtain ⟨targetName, targetLocated, notDirectory⟩ := accepts
  refine ⟨(disk.erase sourceName).set targetName (.file content), ?_, fun accepted => ?_⟩
  · unfold Disk.rename
    rw [sourceLocated, targetLocated]
    simp only [bind, Except.bind, isFile]
    cases occupied : disk.entry? targetName with
    | none => rfl
    | some entry =>
        cases entry with
        | directory => exact absurd occupied notDirectory
        | file other => rfl
  · exact (accepted.erase (by simp [isFile])).set
      (entry?_erase_ne_directory notDirectory sourceName) content

end Accepts

end Telemetry.Disk
