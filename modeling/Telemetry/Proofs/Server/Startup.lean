import Telemetry.Proofs.Storage.DataSource
import Telemetry.Server.Running

namespace Telemetry

open Telemetry

/-! What a server that starts finds wrong with a configuration that was found valid. -/

namespace StorageConfig

variable {config : StorageConfig}

theorem effective_eq_keyValue_iff :
    config.effective = .keyValue ↔ config.backend = some .keyValue := by
  cases asked : config.backend with
  | none => cases given : config.databaseDsn <;> simp [effective, asked, given]
  | some kind => simp [effective, asked]

theorem effective_eq_database_iff :
    config.effective = .database ↔ config.backend = some .database ∨
      config.backend = none ∧ config.databaseDsn.isSome = true := by
  cases asked : config.backend with
  | none => cases given : config.databaseDsn <;> simp [effective, asked, given]
  | some kind => simp [effective, asked]

/-- What is wrong with the configuration and found only when storage is opened. -/
inductive Conceals (config : StorageConfig) : Misconfiguration → Prop where
  | keyValuePath {path : String} (asked : config.backend = some .keyValue)
      (given : config.keyValuePath = some path) : Conceals config (.keyValuePath path)
  | name {name : String} {cause : Misconfiguration}
      (asked : config.backend = some .database ∨ config.backend = none)
      (given : config.databaseDsn = some name) (refuses : DataSource.Refuses name cause) :
      Conceals config cause

variable {cause : Misconfiguration}

theorem conceals_of_keyValue (isKeyValue : config.effective = .keyValue) :
    config.Conceals cause ↔
      ∃ path, config.keyValuePath = some path ∧ cause = .keyValuePath path := by
  have asked := effective_eq_keyValue_iff.mp isKeyValue
  constructor
  · intro conceals
    cases conceals with
    | keyValuePath _ given => exact ⟨_, given, rfl⟩
    | name other given refuses =>
        rw [asked] at other
        obtain other | other := other <;> cases other
  · rintro ⟨path, given, rfl⟩
    exact .keyValuePath asked given

theorem conceals_of_database (isDatabase : config.effective = .database) :
    config.Conceals cause ↔
      ∃ name, config.databaseDsn = some name ∧ DataSource.Refuses name cause := by
  have asked := effective_eq_database_iff.mp isDatabase
  constructor
  · intro conceals
    cases conceals with
    | keyValuePath other given =>
        rw [effective_eq_keyValue_iff.mpr other] at isDatabase
        cases isDatabase
    | name _ given refuses => exact ⟨_, given, refuses⟩
  · rintro ⟨name, given, refuses⟩
    exact .name (asked.imp_right And.left) given refuses

theorem not_conceals_of_file (isFile : config.effective = .file) : ¬ config.Conceals cause := by
  intro conceals
  cases conceals with
  | keyValuePath other given =>
      rw [effective_eq_keyValue_iff.mpr other] at isFile
      cases isFile
  | name other given refuses =>
      have named : config.databaseDsn.isSome = true := Option.isSome_iff_exists.mpr ⟨_, given⟩
      rw [effective_eq_database_iff.mpr (other.imp_right (⟨·, named⟩))] at isFile
      cases isFile

end StorageConfig

namespace Storage

variable {machine : Machine} {cause : Misconfiguration}

theorem openDatabase_misconfigured_iff {name : String} :
    (openDatabase name machine).1 = .error (.config cause) ↔ DataSource.Refuses name cause := by
  have refused : DataSource.ofName name = .error (.config cause) ↔
      DataSource.Refuses name cause := by
    rw [DataSource.ofName_eq_error_iff]
    constructor
    · rintro ⟨found, same, refuses⟩
      exact Failure.config.inj same ▸ refuses
    · intro refuses
      exact ⟨cause, rfl, refuses⟩
  rw [← refused, openDatabase]
  cases DataSource.ofName name with
  | error failure => simp
  | ok source =>
      refine iff_of_false (fun failed => ?_) error_ne_ok.symm
      -- From here on only the database itself fails.
      dsimp only at failed
      split at failed
      · cases failed
      · split at failed
        · split at failed <;> cases failed
        · split at failed <;> cases failed

theorem ofConfig_misconfigured_iff {config : StorageConfig}
    (named : config.effective = .database → config.databaseDsn.isSome = true) :
    (ofConfig config machine).1 = .error (.config cause) ↔ config.Conceals cause := by
  rw [ofConfig]
  cases kind : config.effective with
  | file => exact iff_of_false error_ne_ok.symm (StorageConfig.not_conceals_of_file kind)
  | database =>
      obtain ⟨name, given⟩ := Option.isSome_iff_exists.mp (named kind)
      rw [StorageConfig.conceals_of_database kind, given]
      simp only [Option.some.injEq, exists_eq_left']
      exact openDatabase_misconfigured_iff
  | keyValue =>
      rw [StorageConfig.conceals_of_keyValue kind]
      cases config.keyValuePath with
      | none => simp
      | some path => simp [eq_comm]

end Storage

theorem ServerConfig.validate_eq_ok_iff {config : ServerConfig} :
    config.validate = .ok () ↔ Text.trim config.address ≠ "" ∧
      (∃ subnet, config.subnet = .ok subnet) ∧
      (config.storage.effective = .database →
        config.storage.databaseDsn.isSome = true ∧ config.storage.maxConnections ≠ 0) := by
  rw [validate]
  by_cases blank : Text.trim config.address = ""
  · simp [blank]
  rw [if_neg blank]
  cases config.subnet with
  | error failure => exact iff_of_false error_ne_ok fun parts => error_ne_ok parts.2.1.choose_spec
  | ok subnet =>
      show (if _ then _ else _ : Except Failure Unit) = .ok () ↔ _
      by_cases isDatabase : config.storage.effective = .database
      · cases config.storage.databaseDsn with
        | none => simp [isDatabase]
        | some name =>
            by_cases noConnection : config.storage.maxConnections = 0 <;>
              simp [isDatabase, noConnection, blank]
      · simp [isDatabase, blank]

namespace Server

variable {network : Network} {machine : Machine} {cause : Misconfiguration}

theorem openVault_eq_error_iff {config : StorageConfig} {failure : Failure} :
    (openVault config machine).1 = .error failure ↔
      (Storage.ofConfig config machine).1 = .error failure := by
  rw [openVault]
  rcases Storage.ofConfig config machine with ⟨early | storage, after⟩
  · simp [Vault.opened]
  · exact iff_of_false error_ne_ok.symm error_ne_ok.symm

theorem ofFile_ne_misconfigured {path : String} {content : Except SystemError String} :
    Rsa.PrivateKey.ofFile path content ≠ .error (.config cause) := by
  cases content with
  | error cause =>
      intro failed
      cases failed
  | ok text =>
      rw [Rsa.PrivateKey.ofFile, Rsa.PrivateKey.ofText]
      cases Rsa.PrivateKey.ofText? text <;> exact fun failed => nomatch failed

theorem Settings.ofConfig_ne_misconfigured {config : ServerConfig} {disk : Disk}
    {subnet : Option Subnet} (reads : config.subnet = .ok subnet) :
    Settings.ofConfig config disk ≠ .error (.config cause) := by
  intro failed
  rw [Settings.ofConfig, reads] at failed
  cases given : config.cryptoKey with
  | none =>
      rw [given] at failed
      cases failed
  | some path =>
      rw [given, Option.mapM_some] at failed
      cases read : Rsa.PrivateKey.ofFile path (disk.readText path) with
      | error failure =>
          rw [read] at failed
          obtain rfl := Except.error.inj failed
          exact ofFile_ne_misconfigured read
      | ok decryptor =>
          rw [read] at failed
          cases failed

theorem listen_ne_misconfigured {address : String} :
    listen network address ≠ .error (.config cause) := by
  rw [listen]
  cases network.locate address >>= network.listen <;> exact fun failed => nomatch failed

/-- A configuration found valid is refused for just what it conceals. -/
theorem start_misconfigured_iff {config : ServerConfig} (valid : config.validate = .ok ()) :
    (start network config machine).1 = .error (.config cause) ↔
      config.storage.Conceals cause := by
  obtain ⟨-, ⟨subnet, reads⟩, complete⟩ := ServerConfig.validate_eq_ok_iff.mp valid
  have opens : (Storage.ofConfig config.storage machine).1 = .error (.config cause) ↔
      config.storage.Conceals cause :=
    Storage.ofConfig_misconfigured_iff fun isDatabase => (complete isDatabase).1
  rw [← opens, ← openVault_eq_error_iff, start, valid]
  dsimp only
  rcases openVault config.storage machine with ⟨failure | vault, after⟩
  · simp
  · refine iff_of_false (fun failed => ?_) error_ne_ok.symm
    dsimp only at failed
    cases settings : Settings.ofConfig config after.disk with
    | error failure =>
        rw [settings] at failed
        obtain rfl := Except.error.inj failed
        exact Settings.ofConfig_ne_misconfigured reads settings
    | ok settings =>
        rw [settings] at failed
        cases listens : listen network config.address with
        | error failure =>
            rw [listens] at failed
            obtain rfl := Except.error.inj failed
            exact listen_ne_misconfigured listens
        | ok listening =>
            rw [listens] at failed
            cases failed

theorem startAndStop_eq_error_iff {config : ServerConfig} {failure : Failure} :
    (startAndStop network config machine).1 = .error failure ↔
      (start network config machine).1 = .error failure := by
  rw [startAndStop]
  rcases start network config machine with ⟨early | server, after⟩
  · simp
  · exact iff_of_false error_ne_ok.symm error_ne_ok.symm

/-- A configuration found valid has a readable subnet. Its storage, and a whole run of a server with
it, answer that it is wrong for just what it conceals. -/
theorem starts_of_valid {config : ServerConfig} (valid : config.validate = .ok ()) :
    (∃ subnet, config.subnet = .ok subnet) ∧
      ∀ (network : Network) (machine : Machine) (cause : Misconfiguration),
        ((Storage.ofConfig config.storage machine).1 = .error (.config cause) ↔
          config.storage.Conceals cause) ∧
        ((startAndStop network config machine).1 = .error (.config cause) ↔
          config.storage.Conceals cause) := by
  obtain ⟨-, readable, complete⟩ := ServerConfig.validate_eq_ok_iff.mp valid
  refine ⟨readable, fun network machine cause => ⟨?_, ?_⟩⟩
  · exact Storage.ofConfig_misconfigured_iff fun isDatabase => (complete isDatabase).1
  · rw [startAndStop_eq_error_iff]
    exact start_misconfigured_iff valid

def foreignDatabase : ServerConfig :=
  { ServerConfig.standard with
    storage := { StorageConfig.standard with databaseDsn := some "postgres://localhost/m" } }

theorem starts_of_valid_foreign :
    foreignDatabase.validate = .ok () ∧
      ∀ network machine, (startAndStop network foreignDatabase machine).1 =
        .error (.config (.databaseScheme "postgres")) := by
  have valid : foreignDatabase.validate = .ok () := by
    decide +kernel
  have isScheme : Text.IsFront "://".toList "postgres://localhost/m".toList "postgres".toList :=
    Text.before?_eq_some_iff.mp (by decide +kernel)
  refine ⟨valid, fun network machine => ?_⟩
  apply ((starts_of_valid valid).2 network machine _).2.mpr
  exact .name (.inr rfl) rfl (.scheme isScheme (by decide))

/-- A path for the key-value storage is valid, and nothing opens it. -/
theorem not_forall_starts_of_valid :
    ¬ ∀ (network : Network) (config : ServerConfig) (machine : Machine),
      config.validate = .ok () →
        ∀ cause, (startAndStop network config machine).1 ≠ .error (.config cause) := by
  intro starts
  let storage : StorageConfig :=
    { StorageConfig.standard with backend := some .keyValue, keyValuePath := some "kv" }
  have valid : ({ ServerConfig.standard with storage } : ServerConfig).validate = .ok () := by
    decide +kernel
  refine starts ⟨fun _ => none, fun _ => .error .networkUnreachable, fun _ => .ok ()⟩ _ .empty
    valid (.keyValuePath "kv") ?_
  rw [startAndStop_eq_error_iff, start_misconfigured_iff valid]
  exact .keyValuePath rfl rfl

end Server

end Telemetry
