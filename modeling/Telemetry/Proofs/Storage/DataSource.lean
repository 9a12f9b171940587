import Telemetry.Proofs.Outcome
import Telemetry.Proofs.Text.Marks
import Telemetry.Storage.DataSource

namespace Telemetry.DataSource

open Telemetry

/-! Which names of databases are refused, and why. -/

/-- A parameter that names of databases may have. -/
inductive IsParameter (parameter : Bytes × Bytes) : Prop where
  | mode {value : String} (isMode : Bytes.toText? parameter.1 = some "mode")
      (isValue : Bytes.toText? parameter.2 = some value)
      (known : value ∈ ["ro", "rw", "rwc", "memory"])
  | cache {value : String} (isCache : Bytes.toText? parameter.1 = some "cache")
      (isValue : Bytes.toText? parameter.2 = some value) (known : value ∈ ["private", "shared"])
  | immutable {value : String} (isImmutable : Bytes.toText? parameter.1 = some "immutable")
      (isValue : Bytes.toText? parameter.2 = some value)
      (known : value ∈ ["true", "1", "false", "0"])
  | layer (isLayer : Bytes.toText? parameter.1 = some "vfs")

theorem setParameter_of_isParameter (source : DataSource) {parameter : Bytes × Bytes}
    (isParameter : IsParameter parameter) :
    ∃ result, source.setParameter parameter = .ok result := by
  unfold setParameter
  cases isParameter with
  | mode isMode isValue known =>
      simp only [List.mem_cons, List.not_mem_nil, or_false] at known
      rw [isMode, isValue]
      obtain rfl | rfl | rfl | rfl := known <;> exact ⟨_, rfl⟩
  | cache isCache isValue known =>
      simp only [List.mem_cons, List.not_mem_nil, or_false] at known
      rw [isCache, isValue]
      obtain rfl | rfl := known <;> exact ⟨_, rfl⟩
  | immutable isImmutable isValue known =>
      simp only [List.mem_cons, List.not_mem_nil, or_false] at known
      rw [isImmutable, isValue]
      obtain rfl | rfl | rfl | rfl := known <;> exact ⟨_, rfl⟩
  | layer isLayer =>
      rw [isLayer]
      exact ⟨_, rfl⟩

theorem setParameter_of_not_isParameter (source : DataSource) {parameter : Bytes × Bytes}
    (unknown : ¬ IsParameter parameter) : source.setParameter parameter = .error malformed := by
  unfold setParameter
  split
  case h_1 name value | h_2 name value | h_3 name value | h_4 name value =>
    exact absurd (.mode name value (by decide)) unknown
  case h_5 name value | h_6 name value => exact absurd (.cache name value (by decide)) unknown
  case h_7 name value | h_8 name value | h_9 name value | h_10 name value =>
    exact absurd (.immutable name value (by decide)) unknown
  case h_11 name => exact absurd (.layer name) unknown
  case h_12 => rfl

theorem foldlM_setParameter (source : DataSource) (parameters : List (Bytes × Bytes)) :
    (∀ parameter ∈ parameters, IsParameter parameter) ∧
        (∃ result, parameters.foldlM setParameter source = .ok result) ∨
      ¬ (∀ parameter ∈ parameters, IsParameter parameter) ∧
        parameters.foldlM setParameter source = .error malformed := by
  induction parameters generalizing source with
  | nil => exact .inl ⟨List.forall_mem_nil _, source, rfl⟩
  | cons parameter parameters induction =>
      rw [List.foldlM_cons, List.forall_mem_cons]
      by_cases known : IsParameter parameter
      · obtain ⟨next, isNext⟩ := setParameter_of_isParameter source known
        rw [isNext]
        obtain ⟨others, read⟩ | ⟨others, refused⟩ := induction next
        · exact .inl ⟨⟨known, others⟩, read⟩
        · exact .inr ⟨fun all => others all.2, refused⟩
      · rw [setParameter_of_not_isParameter source known]
        exact .inr ⟨fun all => known all.1, rfl⟩

/-- What a name is without its scheme. -/
def IsAddress (name address : List Char) : Prop :=
  ∃ rest, Text.IsBare "sqlite://".toList name rest ∧ Text.IsBare "sqlite:".toList rest address

/-- A path that is a text once it is decoded, and behind a question mark nothing but parameters. -/
structure IsWellFormed (address : List Char) : Prop where
  path : ∃ path, Text.Percent.decodeText? (String.ofList (address.takeWhile (· ≠ '?'))) = some path
  parameters : ∀ parameter ∈ Text.Percent.pairs
    (String.ofList ((address.dropWhile (· ≠ '?')).drop 1)), IsParameter parameter

inductive Refuses (name : String) : Misconfiguration → Prop where
  | scheme {given : List Char} (isScheme : Text.IsFront "://".toList name.toList given)
      (foreign : given ≠ scheme.toList) : Refuses name (.databaseScheme (String.ofList given))
  | malformed {address : List Char}
      (known : ∀ given, Text.IsFront "://".toList name.toList given → given = scheme.toList)
      (isAddress : IsAddress name.toList address) (malformed : ¬ IsWellFormed address) :
      Refuses name .malformedDsn

def addressOf (name : List Char) : List Char :=
  Text.trimStartsOf "sqlite:".toList (Text.trimStartsOf "sqlite://".toList name)

theorem isAddress (name : List Char) : IsAddress name (addressOf name) :=
  ⟨_, Text.isBare_trimStartsOf (by decide) name, Text.isBare_trimStartsOf (by decide) _⟩

theorem IsAddress.unique {name address other : List Char} (isAddress : IsAddress name address)
    (alsoAddress : IsAddress name other) : address = other := by
  obtain ⟨rest, isRest, isBare⟩ := isAddress
  obtain ⟨otherRest, isOtherRest, isOtherBare⟩ := alsoAddress
  obtain rfl := isRest.unique isOtherRest
  exact isBare.unique isOtherBare

/-- What remains of reading a name once its scheme is gone. -/
def ofAddress (address : List Char) : Except Failure DataSource := do
  let written := address.takeWhile (· ≠ '?')
  let path ← if written = ":memory:".toList then pure none
    else match Text.Percent.decodeText? (String.ofList written) with
      | none => .error malformed
      | some path => pure (if path = "" then none else some path)
  let query := String.ofList ((address.dropWhile (· ≠ '?')).drop 1)
  (Text.Percent.pairs query).foldlM setParameter ⟨path, false, false, none⟩

theorem ofName_eq (name : String) :
    ofName name = admitScheme name >>= fun _ => ofAddress (addressOf name.toList) := by
  unfold ofName ofAddress addressOf
  generalize Text.trimStartsOf "sqlite:".toList _ = address
  rfl

section Address

variable {address : List Char}

theorem exists_ofAddress_eq {path : String}
    (decodes : Text.Percent.decodeText? (String.ofList (address.takeWhile (· ≠ '?'))) = some path) :
    ∃ source, ofAddress address = (Text.Percent.pairs
      (String.ofList ((address.dropWhile (· ≠ '?')).drop 1))).foldlM setParameter source := by
  by_cases inMemory : address.takeWhile (· ≠ '?') = ":memory:".toList
  · refine ⟨⟨none, false, false, none⟩, ?_⟩
    simp only [ofAddress, inMemory, if_true]
    rfl
  · refine ⟨⟨if path = "" then none else some path, false, false, none⟩, ?_⟩
    simp only [ofAddress, inMemory, if_false, decodes]
    rfl

theorem ofAddress_of_no_path
    (garbled : Text.Percent.decodeText? (String.ofList (address.takeWhile (· ≠ '?'))) = none) :
    ofAddress address = .error malformed := by
  have onDisk : address.takeWhile (· ≠ '?') ≠ ":memory:".toList := by
    intro inMemory
    have decodes :
        Text.Percent.decodeText? (String.ofList ":memory:".toList) = some ":memory:" := by
      decide +kernel
    rw [inMemory, decodes] at garbled
    cases garbled
  simp only [ofAddress, onDisk, if_false, garbled]
  rfl

theorem ofAddress_of_isWellFormed (wellFormed : IsWellFormed address) :
    ∃ source, ofAddress address = .ok source := by
  obtain ⟨path, decodes⟩ := wellFormed.path
  obtain ⟨source, reads⟩ := exists_ofAddress_eq decodes
  rw [reads]
  obtain ⟨-, read⟩ | ⟨unknown, -⟩ := foldlM_setParameter source _
  · exact read
  · exact absurd wellFormed.parameters unknown

theorem ofAddress_of_not_isWellFormed (illFormed : ¬ IsWellFormed address) :
    ofAddress address = .error malformed := by
  cases decodes : Text.Percent.decodeText? (String.ofList (address.takeWhile (· ≠ '?'))) with
  | none => exact ofAddress_of_no_path decodes
  | some path =>
      obtain ⟨source, reads⟩ := exists_ofAddress_eq decodes
      rw [reads]
      obtain ⟨known, -⟩ | ⟨-, refused⟩ := foldlM_setParameter source _
      · exact absurd ⟨⟨path, decodes⟩, known⟩ illFormed
      · exact refused

end Address

theorem admitScheme_of_isFront {name : String} {given : List Char}
    (isScheme : Text.IsFront "://".toList name.toList given) :
    admitScheme name = if given = scheme.toList then .ok ()
      else .error (.config (.databaseScheme (String.ofList given))) := by
  rw [admitScheme, Text.before?_eq_some_iff.mpr isScheme]

theorem admitScheme_of_known {name : String}
    (known : ∀ given, Text.IsFront "://".toList name.toList given → given = scheme.toList) :
    admitScheme name = .ok () := by
  cases given : Text.before? "://".toList name.toList with
  | none => rw [admitScheme, given]
  | some given =>
      have isScheme := Text.before?_eq_some_iff.mp given
      rw [admitScheme_of_isFront isScheme, if_pos (known _ isScheme)]

/-- The name is refused for its scheme, else for its form, else not at all. -/
theorem ofName_eq_error_iff {name : String} {failure : Failure} :
    ofName name = .error failure ↔ ∃ cause, failure = .config cause ∧ Refuses name cause := by
  rw [ofName_eq]
  constructor
  · intro failed
    by_cases known : ∀ given, Text.IsFront "://".toList name.toList given → given = scheme.toList
    · rw [admitScheme_of_known known] at failed
      replace failed : ofAddress (addressOf name.toList) = .error failure := failed
      by_cases wellFormed : IsWellFormed (addressOf name.toList)
      · obtain ⟨source, read⟩ := ofAddress_of_isWellFormed wellFormed
        rw [read] at failed
        cases failed
      · rw [ofAddress_of_not_isWellFormed wellFormed] at failed
        exact ⟨.malformedDsn, (Except.error.inj failed).symm,
          .malformed known (isAddress name.toList) wellFormed⟩
    · obtain ⟨given, others⟩ := not_forall.mp known
      obtain ⟨isScheme, foreign⟩ := Classical.not_imp.mp others
      rw [admitScheme_of_isFront isScheme, if_neg foreign] at failed
      exact ⟨_, (Except.error.inj failed).symm, .scheme isScheme foreign⟩
  · rintro ⟨cause, rfl, refuses⟩
    cases refuses with
    | scheme isScheme foreign =>
        rw [admitScheme_of_isFront isScheme, if_neg foreign]
        rfl
    | @malformed address known isAddr illFormed =>
        rw [admitScheme_of_known known, (isAddress name.toList).unique isAddr]
        exact ofAddress_of_not_isWellFormed illFormed

end Telemetry.DataSource
