import Mathlib.Logic.ExistsUnique
import Telemetry.CommandLine.Agent
import Telemetry.CommandLine.Server

namespace Telemetry.CommandLine

open Telemetry

/-! Where the values of a configuration come from: each from its argument, else from the file, else
it is the default. Only what comes of all of them is validated. -/

attribute [ext] Logging AgentConfig StorageConfig ServerConfig

section Changes

variable {Config Part Value : Type}

def changed (config : Config) : Option (Config → Config) → Config
  | none => config
  | some change => change config

theorem foldl_changes (changes : List (Option (Config → Config))) (config : Config) :
    (changes.filterMap id).foldl (fun config change => change config) config =
      changes.foldl changed config := by
  rw [List.foldl_filterMap]
  congr
  funext config change
  cases change <;> rfl

theorem part_changed (part : Config → Part) (config : Config) (value : Option Value)
    (set : Value → Config → Config) :
    part (changed config (value.map set)) =
      value.elim (part config) fun value => part (set value config) := by
  cases value <;> rfl

theorem part_changed_if (part : Config → Part) (config : Config) (given : Bool)
    (change : Config → Config) :
    part (changed config (if given then some change else none)) =
      bif given then part (change config) else part config := by
  cases given <;> rfl

@[simp] theorem elim_same (value : Option Value) (part : Part) :
    (value.elim part fun _ => part) = part := by
  cases value <;> rfl

@[simp] theorem elim_id (value : Option Value) (other : Value) :
    (value.elim other fun value => value) = value.getD other := by
  cases value <;> rfl

@[simp] theorem elim_some (value other : Option Value) :
    (value.elim other fun value => some value) = value.or other := by
  cases value <;> rfl

end Changes

theorem isLogging_iff (file : Option LoggingFile) {logging : Logging} :
    (logging.level = (file.bind LoggingFile.level).getD .info ∧
        logging.structured = (file.bind LoggingFile.structured).getD false) ↔
      logging = (file.map LoggingFile.complete).getD .standard := by
  rw [Logging.ext_iff]
  cases file <;> rfl

section Shadowed

variable {Value : Type} {argument : Option Value}

theorem getD_congr {left right : Option Value} {standard : Value}
    (same : argument = none → left = right) :
    argument.getD (left.getD standard) = argument.getD (right.getD standard) := by
  cases argument with
  | none => rw [same rfl]
  | some value => rfl

theorem or_congr {left right : Option (Option Value)} {standard : Option Value}
    (same : argument = none → left = right) :
    argument.or (left.getD standard) = argument.or (right.getD standard) := by
  cases argument with
  | none => rw [same rfl]
  | some value => rfl

end Shadowed

namespace AgentArguments

theorem override_eq (arguments : AgentArguments) (config : AgentConfig) :
    arguments.override config =
      { config with
        address := arguments.address.getD config.address
        pollInterval := arguments.pollInterval.getD config.pollInterval
        reportInterval := arguments.reportInterval.getD config.reportInterval
        rateLimit := arguments.rateLimit.getD config.rateLimit
        hashKey := arguments.key.getD config.hashKey
        cryptoKey := arguments.cryptoKey.or config.cryptoKey
        hostAddress := arguments.hostAddress.or config.hostAddress
        deliveryMode := arguments.deliveryMode.getD config.deliveryMode
        debug := arguments.debug || config.debug } := by
  rw [override, changes, foldl_changes]
  simp only [List.foldl_cons, List.foldl_nil]
  apply AgentConfig.ext
  case address => simp [part_changed AgentConfig.address, part_changed_if AgentConfig.address]
  case pollInterval =>
    simp [part_changed AgentConfig.pollInterval,
      part_changed_if AgentConfig.pollInterval]
  case reportInterval =>
    simp [part_changed AgentConfig.reportInterval,
      part_changed_if AgentConfig.reportInterval]
  case rateLimit => simp [part_changed AgentConfig.rateLimit, part_changed_if AgentConfig.rateLimit]
  case hashKey => simp [part_changed AgentConfig.hashKey, part_changed_if AgentConfig.hashKey]
  case cryptoKey => simp [part_changed AgentConfig.cryptoKey, part_changed_if AgentConfig.cryptoKey]
  case hostAddress =>
    simp [part_changed AgentConfig.hostAddress,
      part_changed_if AgentConfig.hostAddress]
  case deliveryMode =>
    simp [part_changed AgentConfig.deliveryMode,
      part_changed_if AgentConfig.deliveryMode]
  case requestTimeout =>
    simp [part_changed AgentConfig.requestTimeout,
      part_changed_if AgentConfig.requestTimeout]
  case logging => simp [part_changed AgentConfig.logging, part_changed_if AgentConfig.logging]
  case debug => simp [part_changed AgentConfig.debug, part_changed_if AgentConfig.debug]

/-- The configuration of the arguments, of a file and of the defaults. -/
structure IsMerged (arguments : AgentArguments) (file : AgentFile) (config : AgentConfig) :
    Prop where
  address : config.address = arguments.address.getD (file.address.getD "localhost:8080")
  pollInterval : config.pollInterval =
    arguments.pollInterval.getD (file.pollInterval.getD (.ofSeconds 2))
  reportInterval : config.reportInterval =
    arguments.reportInterval.getD (file.reportInterval.getD (.ofSeconds 10))
  rateLimit : config.rateLimit = arguments.rateLimit.getD (file.rateLimit.getD 100)
  hashKey : config.hashKey = arguments.key.getD (file.hashKey.getD "")
  cryptoKey : config.cryptoKey = arguments.cryptoKey.or (file.cryptoKey.getD none)
  hostAddress : config.hostAddress = arguments.hostAddress.or (file.hostAddress.getD none)
  deliveryMode : config.deliveryMode =
    arguments.deliveryMode.getD (file.deliveryMode.getD .batch)
  requestTimeout : config.requestTimeout = file.requestTimeout.getD (.ofSeconds 5)
  level : config.logging.level = (file.logging.bind LoggingFile.level).getD .info
  structured : config.logging.structured =
    (file.logging.bind LoggingFile.structured).getD false
  debug : config.debug = arguments.debug

theorem isMerged_iff {arguments : AgentArguments} {file : AgentFile} {config : AgentConfig} :
    arguments.IsMerged file config ↔ config = arguments.override file.complete := by
  rw [override_eq]
  constructor
  · intro merged
    apply AgentConfig.ext
    case address => exact merged.address
    case pollInterval => exact merged.pollInterval
    case reportInterval => exact merged.reportInterval
    case rateLimit => exact merged.rateLimit
    case hashKey => exact merged.hashKey
    case cryptoKey => exact merged.cryptoKey
    case hostAddress => exact merged.hostAddress
    case deliveryMode => exact merged.deliveryMode
    case requestTimeout => exact merged.requestTimeout
    case logging => exact (isLogging_iff file.logging).mp ⟨merged.level, merged.structured⟩
    case debug => exact merged.debug.trans (Bool.or_false _).symm
  · rintro rfl
    obtain ⟨level, structured⟩ := (isLogging_iff file.logging).mpr rfl
    exact ⟨rfl, rfl, rfl, rfl, rfl, rfl, rfl, rfl, rfl, level, structured, Bool.or_false _⟩

/-- Files that differ at most where an argument takes the place of what they set. -/
structure Shadows (arguments : AgentArguments) (file other : AgentFile) : Prop where
  address : arguments.address = none → file.address = other.address
  pollInterval : arguments.pollInterval = none → file.pollInterval = other.pollInterval
  reportInterval : arguments.reportInterval = none → file.reportInterval = other.reportInterval
  rateLimit : arguments.rateLimit = none → file.rateLimit = other.rateLimit
  hashKey : arguments.key = none → file.hashKey = other.hashKey
  cryptoKey : arguments.cryptoKey = none → file.cryptoKey = other.cryptoKey
  hostAddress : arguments.hostAddress = none → file.hostAddress = other.hostAddress
  deliveryMode : arguments.deliveryMode = none → file.deliveryMode = other.deliveryMode
  requestTimeout : file.requestTimeout = other.requestTimeout
  logging : file.logging = other.logging

theorem Shadows.override_eq {arguments : AgentArguments} {file other : AgentFile}
    (shadows : arguments.Shadows file other) :
    arguments.override file.complete = arguments.override other.complete := by
  rw [AgentArguments.override_eq, AgentArguments.override_eq]
  apply AgentConfig.ext
  case address => exact getD_congr shadows.address
  case pollInterval => exact getD_congr shadows.pollInterval
  case reportInterval => exact getD_congr shadows.reportInterval
  case rateLimit => exact getD_congr shadows.rateLimit
  case hashKey => exact getD_congr shadows.hashKey
  case cryptoKey => exact or_congr shadows.cryptoKey
  case hostAddress => exact or_congr shadows.hostAddress
  case deliveryMode => exact getD_congr shadows.deliveryMode
  case requestTimeout => simp only [AgentFile.complete, shadows.requestTimeout]
  case logging => simp only [AgentFile.complete, shadows.logging]
  case debug => exact congrArg (arguments.debug || ·) rfl

end AgentArguments

namespace ServerArguments

theorem override_eq (arguments : ServerArguments) (config : ServerConfig) :
    arguments.override config =
      { config with
        address := arguments.address.getD config.address
        hashKey := arguments.key.getD config.hashKey
        cryptoKey := arguments.cryptoKey.or config.cryptoKey
        trustedSubnet := arguments.trustedSubnet.or config.trustedSubnet
        storage := { config.storage with
          backend := arguments.storage.or config.storage.backend
          storeFile := arguments.storeFile.getD config.storage.storeFile
          storeInterval := arguments.storeInterval.getD config.storage.storeInterval
          restore := arguments.restore.getD config.storage.restore
          databaseDsn := arguments.databaseDsn.or config.storage.databaseDsn
          keyValuePath := arguments.keyValuePath.or config.storage.keyValuePath }
        debug := arguments.debug || config.debug } := by
  rw [override, changes, foldl_changes]
  simp only [List.foldl_cons, List.foldl_nil]
  apply ServerConfig.ext
  case address => simp [part_changed ServerConfig.address, part_changed_if ServerConfig.address]
  case hashKey => simp [part_changed ServerConfig.hashKey, part_changed_if ServerConfig.hashKey]
  case cryptoKey =>
    simp [part_changed ServerConfig.cryptoKey,
      part_changed_if ServerConfig.cryptoKey]
  case trustedSubnet =>
    simp [part_changed ServerConfig.trustedSubnet,
      part_changed_if ServerConfig.trustedSubnet]
  case storage =>
    apply StorageConfig.ext
    case backend =>
      simp [part_changed fun config : ServerConfig => config.storage.backend,
        part_changed_if fun config : ServerConfig => config.storage.backend]
    case storeFile =>
      simp [part_changed fun config : ServerConfig => config.storage.storeFile,
        part_changed_if fun config : ServerConfig => config.storage.storeFile]
    case storeInterval =>
      simp [part_changed fun config : ServerConfig => config.storage.storeInterval,
        part_changed_if fun config : ServerConfig => config.storage.storeInterval]
    case restore =>
      simp [part_changed fun config : ServerConfig => config.storage.restore,
        part_changed_if fun config : ServerConfig => config.storage.restore]
    case databaseDsn =>
      simp [part_changed fun config : ServerConfig => config.storage.databaseDsn,
        part_changed_if fun config : ServerConfig => config.storage.databaseDsn]
    case maxConnections =>
      simp [part_changed fun config : ServerConfig => config.storage.maxConnections,
        part_changed_if fun config : ServerConfig => config.storage.maxConnections]
    case keyValuePath =>
      simp [part_changed fun config : ServerConfig => config.storage.keyValuePath,
        part_changed_if fun config : ServerConfig => config.storage.keyValuePath]
  case logging => simp [part_changed ServerConfig.logging, part_changed_if ServerConfig.logging]
  case debug => simp [part_changed ServerConfig.debug, part_changed_if ServerConfig.debug]

structure IsMerged (arguments : ServerArguments) (file : ServerFile) (config : ServerConfig) :
    Prop where
  address : config.address = arguments.address.getD (file.address.getD "localhost:8080")
  hashKey : config.hashKey = arguments.key.getD (file.hashKey.getD "")
  cryptoKey : config.cryptoKey = arguments.cryptoKey.or (file.cryptoKey.getD none)
  trustedSubnet : config.trustedSubnet = arguments.trustedSubnet.or (file.trustedSubnet.getD none)
  backend : config.storage.backend =
    arguments.storage.or ((file.storage.bind StorageFile.backend).getD none)
  storeFile : config.storage.storeFile = arguments.storeFile.getD
    ((file.storage.bind StorageFile.storeFile).getD "/tmp/devops-metrics-db.json")
  storeInterval : config.storage.storeInterval = arguments.storeInterval.getD
    ((file.storage.bind StorageFile.storeInterval).getD (.ofSeconds 300))
  restore : config.storage.restore =
    arguments.restore.getD ((file.storage.bind StorageFile.restore).getD true)
  databaseDsn : config.storage.databaseDsn =
    arguments.databaseDsn.or ((file.storage.bind StorageFile.databaseDsn).getD none)
  maxConnections : config.storage.maxConnections =
    (file.storage.bind StorageFile.maxConnections).getD 5
  keyValuePath : config.storage.keyValuePath =
    arguments.keyValuePath.or ((file.storage.bind StorageFile.keyValuePath).getD none)
  level : config.logging.level = (file.logging.bind LoggingFile.level).getD .info
  structured : config.logging.structured =
    (file.logging.bind LoggingFile.structured).getD false
  debug : config.debug = arguments.debug

/-- What a file says of storage, which it may leave out as a whole. -/
theorem complete_storage (file : ServerFile) :
    file.complete.storage =
      { backend := (file.storage.bind StorageFile.backend).getD none
        storeFile := (file.storage.bind StorageFile.storeFile).getD "/tmp/devops-metrics-db.json"
        storeInterval := (file.storage.bind StorageFile.storeInterval).getD (.ofSeconds 300)
        restore := (file.storage.bind StorageFile.restore).getD true
        databaseDsn := (file.storage.bind StorageFile.databaseDsn).getD none
        maxConnections := (file.storage.bind StorageFile.maxConnections).getD 5
        keyValuePath := (file.storage.bind StorageFile.keyValuePath).getD none } := by
  rw [ServerFile.complete]
  cases file.storage <;> rfl

theorem isMerged_iff {arguments : ServerArguments} {file : ServerFile} {config : ServerConfig} :
    arguments.IsMerged file config ↔ config = arguments.override file.complete := by
  rw [override_eq, complete_storage]
  constructor
  · intro merged
    apply ServerConfig.ext
    case address => exact merged.address
    case hashKey => exact merged.hashKey
    case cryptoKey => exact merged.cryptoKey
    case trustedSubnet => exact merged.trustedSubnet
    case storage =>
      apply StorageConfig.ext
      case backend => exact merged.backend
      case storeFile => exact merged.storeFile
      case storeInterval => exact merged.storeInterval
      case restore => exact merged.restore
      case databaseDsn => exact merged.databaseDsn
      case maxConnections => exact merged.maxConnections
      case keyValuePath => exact merged.keyValuePath
    case logging => exact (isLogging_iff file.logging).mp ⟨merged.level, merged.structured⟩
    case debug => exact merged.debug.trans (Bool.or_false _).symm
  · rintro rfl
    obtain ⟨level, structured⟩ := (isLogging_iff file.logging).mpr rfl
    exact ⟨rfl, rfl, rfl, rfl, rfl, rfl, rfl, rfl, rfl, rfl, rfl, level, structured,
      Bool.or_false _⟩

structure Shadows (arguments : ServerArguments) (file other : ServerFile) : Prop where
  address : arguments.address = none → file.address = other.address
  hashKey : arguments.key = none → file.hashKey = other.hashKey
  cryptoKey : arguments.cryptoKey = none → file.cryptoKey = other.cryptoKey
  trustedSubnet : arguments.trustedSubnet = none → file.trustedSubnet = other.trustedSubnet
  backend : arguments.storage = none →
    file.storage.bind StorageFile.backend = other.storage.bind StorageFile.backend
  storeFile : arguments.storeFile = none →
    file.storage.bind StorageFile.storeFile = other.storage.bind StorageFile.storeFile
  storeInterval : arguments.storeInterval = none →
    file.storage.bind StorageFile.storeInterval = other.storage.bind StorageFile.storeInterval
  restore : arguments.restore = none →
    file.storage.bind StorageFile.restore = other.storage.bind StorageFile.restore
  databaseDsn : arguments.databaseDsn = none →
    file.storage.bind StorageFile.databaseDsn = other.storage.bind StorageFile.databaseDsn
  maxConnections : file.storage.bind StorageFile.maxConnections =
    other.storage.bind StorageFile.maxConnections
  keyValuePath : arguments.keyValuePath = none →
    file.storage.bind StorageFile.keyValuePath = other.storage.bind StorageFile.keyValuePath
  logging : file.logging = other.logging

theorem Shadows.override_eq {arguments : ServerArguments} {file other : ServerFile}
    (shadows : arguments.Shadows file other) :
    arguments.override file.complete = arguments.override other.complete := by
  rw [ServerArguments.override_eq, ServerArguments.override_eq, complete_storage, complete_storage]
  apply ServerConfig.ext
  case address => exact getD_congr shadows.address
  case hashKey => exact getD_congr shadows.hashKey
  case cryptoKey => exact or_congr shadows.cryptoKey
  case trustedSubnet => exact or_congr shadows.trustedSubnet
  case storage =>
    apply StorageConfig.ext
    case backend => exact or_congr shadows.backend
    case storeFile => exact getD_congr shadows.storeFile
    case storeInterval => exact getD_congr shadows.storeInterval
    case restore => exact getD_congr shadows.restore
    case databaseDsn => exact or_congr shadows.databaseDsn
    case maxConnections => simp only [shadows.maxConnections]
    case keyValuePath => exact or_congr shadows.keyValuePath
  case logging => simp only [ServerFile.complete, shadows.logging]
  case debug => exact congrArg (arguments.debug || ·) rfl

end ServerArguments

/-! What is loaded. -/

/-- What a file sets: nothing, if there is none. -/
inductive IsContent {File : Type} (ofNode : Yaml.Node → Option File) (nothing : File) :
    Option String → File → Prop where
  | absent : IsContent ofNode nothing none nothing
  | written {text : String} {file : File} (reads : (Yaml.decode text).bind ofNode = some file) :
      IsContent ofNode nothing (some text) file

def AgentArguments.Finds (arguments : AgentArguments) (disk : Disk)
    (environment : String → Option String) (file : AgentFile) : Prop :=
  ∃ content, readConfigFile disk environment "agent" arguments.config = .ok content ∧
    IsContent AgentFile.ofNode ⟨none, none, none, none, none, none, none, none, none, none⟩
      content file

def ServerArguments.Finds (arguments : ServerArguments) (disk : Disk)
    (environment : String → Option String) (file : ServerFile) : Prop :=
  ∃ content, readConfigFile disk environment "server" arguments.config = .ok content ∧
    IsContent ServerFile.ofNode ⟨none, none, none, none, none, none⟩ content file

theorem validated_eq {Config : Type} (validation : Except Failure Unit) (config : Config) :
    (do
      validation
      return config) = validation.map fun _ => config := by
  cases validation <;> rfl

theorem AgentArguments.configure_eq (arguments : AgentArguments) (content : Option String) :
    arguments.configure content =
      (match content with
        | some text => AgentConfig.ofText text
        | none => .ok AgentConfig.standard) >>= fun config =>
          (arguments.override config).validate.map fun _ => arguments.override config := by
  unfold configure
  generalize arguments.override = merge
  simp only [validated_eq]
  cases content <;> rfl

theorem AgentArguments.load_eq {arguments : AgentArguments} {disk : Disk}
    {environment : String → Option String} {file : AgentFile}
    (finds : arguments.Finds disk environment file) :
    arguments.load disk environment =
      (arguments.override file.complete).validate.map fun _ =>
        arguments.override file.complete := by
  obtain ⟨content, found, isContent⟩ := finds
  have reads : (match content with
      | some text => AgentConfig.ofText text
      | none => .ok AgentConfig.standard) = .ok file.complete := by
    cases isContent with
    | absent => rfl
    | written reads => simp only [AgentConfig.ofText, Config.ofText, reads, Except.map]
  rw [load, found]
  show arguments.configure content = _
  rw [configure_eq, reads]
  simp only [bind, Except.bind]

theorem ServerArguments.configure_eq (arguments : ServerArguments) (content : Option String) :
    arguments.configure content =
      (match content with
        | some text => ServerConfig.ofText text
        | none => .ok ServerConfig.standard) >>= fun config =>
          (arguments.override config).validate.map fun _ => arguments.override config := by
  unfold configure
  generalize arguments.override = merge
  simp only [validated_eq]
  cases content <;> rfl

theorem ServerArguments.load_eq {arguments : ServerArguments} {disk : Disk}
    {environment : String → Option String} {file : ServerFile}
    (finds : arguments.Finds disk environment file) :
    arguments.load disk environment =
      (arguments.override file.complete).validate.map fun _ =>
        arguments.override file.complete := by
  obtain ⟨content, found, isContent⟩ := finds
  have reads : (match content with
      | some text => ServerConfig.ofText text
      | none => .ok ServerConfig.standard) = .ok file.complete := by
    cases isContent with
    | absent => rfl
    | written reads => simp only [ServerConfig.ofText, Config.ofText, reads, Except.map]
  rw [load, found]
  show arguments.configure content = _
  rw [configure_eq, reads]
  simp only [bind, Except.bind]

section Law

variable {Arguments File Config : Type}
  (finds : Arguments → Disk → (String → Option String) → File → Prop)
  (load : Arguments → Disk → (String → Option String) → Except Failure Config)
  (isMerged : Arguments → File → Config → Prop) (validate : Config → Except Failure Unit)
  (shadows : Arguments → File → File → Prop)

/-- The law of loading. Arguments and file have one configuration, which is loaded if it is valid,
and what the file sets in the place of an argument makes no difference. -/
structure Precedence : Prop where
  merges : ∀ arguments file, ∃! config, isMerged arguments file config
  succeeds : ∀ {arguments disk environment file config}, finds arguments disk environment file →
    isMerged arguments file config →
    ((∃ loaded, load arguments disk environment = .ok loaded) ↔ validate config = .ok ())
  loads : ∀ {arguments disk environment file config}, finds arguments disk environment file →
    isMerged arguments file config →
    load arguments disk environment = (validate config).map fun _ => config
  shadowed : ∀ {arguments disk environment file otherDisk otherEnvironment other},
    finds arguments disk environment file → finds arguments otherDisk otherEnvironment other →
    shadows arguments file other →
    load arguments disk environment = load arguments otherDisk otherEnvironment

variable {finds load isMerged validate shadows}

theorem precedence_of {merge : Arguments → File → Config}
    (isMerged_iff : ∀ {arguments file config},
      isMerged arguments file config ↔ config = merge arguments file)
    (load_eq : ∀ {arguments disk environment file}, finds arguments disk environment file →
      load arguments disk environment =
        (validate (merge arguments file)).map fun _ => merge arguments file)
    (merge_eq : ∀ {arguments file other}, shadows arguments file other →
      merge arguments file = merge arguments other) :
    Precedence finds load isMerged validate shadows where
  merges arguments file := ⟨merge arguments file, isMerged_iff.mpr rfl, fun _ => isMerged_iff.mp⟩
  succeeds := by
    intro arguments disk environment file config found merged
    obtain rfl := isMerged_iff.mp merged
    rw [load_eq found]
    cases validate (merge arguments file) <;> simp [Except.map]
  loads := by
    intro arguments disk environment file config found merged
    obtain rfl := isMerged_iff.mp merged
    exact load_eq found
  shadowed := by
    intro arguments disk environment file otherDisk otherEnvironment other found alsoFound same
    rw [load_eq found, load_eq alsoFound, merge_eq same]

end Law

/-- Both programs load their configurations by the law. -/
theorem load_precedence :
    Precedence AgentArguments.Finds AgentArguments.load AgentArguments.IsMerged
        AgentConfig.validate AgentArguments.Shadows ∧
      Precedence ServerArguments.Finds ServerArguments.load ServerArguments.IsMerged
        ServerConfig.validate ServerArguments.Shadows :=
  ⟨precedence_of AgentArguments.isMerged_iff AgentArguments.load_eq
      AgentArguments.Shadows.override_eq,
    precedence_of ServerArguments.isMerged_iff ServerArguments.load_eq
      ServerArguments.Shadows.override_eq⟩

def polledEachSecond : AgentArguments :=
  ⟨none, some (.ofSeconds 1), none, none, none, none, none, none, some "agent.yaml", false, false⟩

def trustingTen : ServerArguments :=
  ⟨none, none, none, none, none, none, none, none, none, some "10.0.0.0/8", some "server.yaml",
    false, false⟩

/-- Two files with a value each that is not valid, and one that is. -/
def misconfigured : Disk :=
  .ofFiles [("agent.yaml", Bytes.ofText "poll_interval: 0s\nrate_limit: 7\n"),
    ("server.yaml", Bytes.ofText "trusted_subnet: ten\nhash_key: k\n")]

theorem load_precedence_misconfigured :
    ({ polledEachSecond with pollInterval := none }.load misconfigured fun _ => none) =
        .error (.config .zeroPollInterval) ∧
      (polledEachSecond.load misconfigured fun _ => none) =
        .ok { AgentConfig.standard with pollInterval := .ofSeconds 1, rateLimit := 7 } ∧
      ({ trustingTen with trustedSubnet := none }.load misconfigured fun _ => none) =
        .error (.config (.notCidr "ten")) ∧
      (trustingTen.load misconfigured fun _ => none) =
        .ok { ServerConfig.standard with trustedSubnet := some "10.0.0.0/8", hashKey := "k" } := by
  have agent (arguments : AgentArguments) (asked : arguments.config = some "agent.yaml") :
      arguments.Finds misconfigured (fun _ => none)
        ⟨none, some .zero, none, some 7, none, none, none, none, none, none⟩ := by
    refine ⟨some "poll_interval: 0s\nrate_limit: 7\n", ?_, .written (by decide +kernel)⟩
    rw [asked]
    rfl
  have server (arguments : ServerArguments) (asked : arguments.config = some "server.yaml") :
      arguments.Finds misconfigured (fun _ => none)
        ⟨none, some "k", none, some (some "ten"), none, none⟩ := by
    refine ⟨some "trusted_subnet: ten\nhash_key: k\n", ?_, .written (by decide +kernel)⟩
    rw [asked]
    rfl
  refine ⟨?_, ?_, ?_, ?_⟩
  · rw [load_precedence.1.loads (agent _ rfl) (AgentArguments.isMerged_iff.mpr rfl)]
    rfl
  · rw [load_precedence.1.loads (agent _ rfl) (AgentArguments.isMerged_iff.mpr rfl)]
    rfl
  · rw [load_precedence.2.loads (server _ rfl) (ServerArguments.isMerged_iff.mpr rfl)]
    rfl
  · rw [load_precedence.2.loads (server _ rfl) (ServerArguments.isMerged_iff.mpr rfl)]
    rfl

end Telemetry.CommandLine
