import Meshquill.Store.Config

/-!
# The configuration file

`ConfigStore`: loading a configuration with the overrides of the environment, and saving one. The
loader dispatches on the version of the document and bounds the size of its input. The saver does
neither: `saved_config_loads_iff` says which of the configurations that it accepts are read back.

TOML values, and the reader of documents from before the schema had a version. That reader takes
the fields it knows, fills in the declared defaults and ignores everything else. The `toml` crate
and the derived reader of the current schema are parameters.
-/
namespace Meshquill.Store

/-- `toml::Value`. The keys of a table are different. -/
inductive Value where
  | string (text : String)
  | integer (number : Int)
  | float (bits : UInt64)
  | boolean (value : Bool)
  | datetime (text : String)
  | array (values : List Value)
  | table (entries : List (String × Value))

namespace Value

/-- `Value::get` with a key. -/
def get? (key : String) : Value → Option Value
  | .table entries => findKey key entries
  | _ => none

def asInteger : Value → Option Int
  | .integer number => some number
  | _ => none

def asString : Value → Option String
  | .string text => some text
  | _ => none

/-- A number of an unsigned type with this many values. -/
def asUnsigned (size : Nat) : Value → Option Nat
  | .integer number => if 0 ≤ number ∧ number < size then some number.toNat else none
  | _ => none

end Value

/-- The `toml` crate with the derived implementations for the current schema, and what it says
about a document that it cannot read. -/
structure Toml where
  render : Config → Except String String
  parse : String → Except String Value
  decode : Value → Except String Config
  readProfile : Value → Except String DeviceProfile
  explain : Value → String

/-! ## Fields -/

section Fields

variable {α : Type} (entries : List (String × Value))

def requiredField (key : String) (read : Value → Option α) : Option α :=
  match findKey key entries with
  | none => none
  | some value => read value

def optionalField (key : String) (read : Value → Option α) : Option (Option α) :=
  match findKey key entries with
  | none => some none
  | some value => (read value).map some

def defaultedField (key : String) (default : α) (read : Value → Option α) : Option α :=
  match findKey key entries with
  | none => some default
  | some value => read value

end Fields

/-! ## Legacy documents -/

inductive LegacyTransport where
  | ble (id : String) (name : Option String)
  | serial (port : String) (baud : UInt32)
  | tcp (host : String) (port : UInt16)
  | mock (scenario : String)
deriving DecidableEq

structure LegacyConfig where
  defaultProfile : Option String
  devices : OrderedMap String LegacyTransport

/-- The transport of a legacy device, tagged by `transport` in the table of the device. -/
def readLegacyDevice : Value → Option LegacyTransport
  | .table entries =>
    match findKey "transport" entries with
    | some (.string "ble") => do
      return .ble (← requiredField entries "id" Value.asString)
        (← optionalField entries "name" Value.asString)
    | some (.string "serial") => do
      return .serial (← requiredField entries "port" Value.asString)
        (← defaultedField entries "baud" defaultSerialBaud fun value =>
          (value.asUnsigned 4294967296).map UInt32.ofNat)
    | some (.string "tcp") => do
      return .tcp (← requiredField entries "host" Value.asString)
        (← defaultedField entries "port" defaultCompanionTcpPort fun value =>
          (value.asUnsigned 65536).map UInt16.ofNat)
    | some (.string "mock") => do
      return .mock (← defaultedField entries "scenario" "" Value.asString)
    | _ => none
  | _ => none

def readLegacyDevices : List (String × Value) → Option (List (String × LegacyTransport))
  | [] => some []
  | (name, device) :: rest => do
    return (name, ← readLegacyDevice device) :: (← readLegacyDevices rest)

/-- The table of legacy devices; a document may do without one. -/
def readLegacyTable : Option Value → Option (List (String × LegacyTransport))
  | none => some []
  | some (.table devices) => readLegacyDevices devices
  | some _ => none

def LegacyConfig.read : Value → Option LegacyConfig
  | .table entries => do
    return {
      defaultProfile := ← optionalField entries "default_profile" Value.asString
      devices := .ofEntries (← readLegacyTable (findKey "devices" entries)) }
  | _ => none

def LegacyTransport.toTransport : LegacyTransport → TransportConfig
  | .ble id name => .ble id name
  | .serial port baud => .serial port baud
  | .tcp host port => .tcp host port
  | .mock scenario => .mock scenario

/-- The profile of a legacy device. -/
def LegacyTransport.toProfile (transport : LegacyTransport) : DeviceProfile :=
  { transport := transport.toTransport }

def LegacyConfig.profiles (legacy : LegacyConfig) : OrderedMap String DeviceProfile :=
  ⟨legacy.devices.entries.map fun device => (device.1, device.2.toProfile),
    List.pairwise_map.mpr legacy.devices.sorted⟩

/-- `Config::from(LegacyConfig)`. -/
def Config.ofLegacy (legacy : LegacyConfig) : Config where
  version := configVersion
  defaultProfile := legacy.defaultProfile.or legacy.profiles.firstKey?
  deviceProfiles := legacy.profiles

/-! ## The store -/

open Checks
open Mqtt (ReadFile)

/-- `MAX_CONFIG_FILE_BYTES`. -/
def maxConfigFileBytes : Nat := 1024 * 1024

inductive LoadOutcome where
  | missing
  | loaded (config : Config)
  | needsMigration (config : Config)
deriving DecidableEq

structure ConfigStore where
  path : PathBuf

/-! ## Documents -/

/-- The integer under `version`. -/
def Value.version (value : Value) : Option Int := (value.get? "version").bind Value.asInteger

/-- `u8::try_from`, or zero. -/
def reportedVersion (version : Int) : UInt8 :=
  if 0 ≤ version ∧ version ≤ 255 then UInt8.ofNat version.toNat else 0

/-- `Config::from_legacy_value`. -/
def fromLegacyValue (toml : Toml) (path : PathBuf) (value : Value) : Except StoreError Config :=
  match LegacyConfig.read value with
  | some legacy => .ok (.ofLegacy legacy)
  | none => .error (.parse path (toml.explain value))

/-- The configuration of a document, and whether it is in the legacy format: one without an
integer version is. -/
def readDocument (toml : Toml) (path : PathBuf) (value : Value) :
    Except StoreError (Config × Bool) :=
  match value.version with
  | some version =>
    if version = configVersion.toNat then
      ((toml.decode value).mapError (.parse path)).map (·, false)
    else .error (.unsupportedVersion (reportedVersion version))
  | none => (fromLegacyValue toml path value).map (·, true)

def outcomeOf (config : Config) (needsMigration : Bool) : LoadOutcome :=
  if needsMigration then .needsMigration config else .loaded config

/-- From the text of the file to the outcome. -/
def loadText (toml : Toml) (read : ReadFile) (overrides : List (String × String))
    (path : PathBuf) (raw : String) : Except StoreError LoadOutcome := do
  validating (raw.utf8ByteSize ≤ maxConfigFileBytes) "config.file"
    ("configuration exceeds the " ++ toString maxConfigFileBytes ++ "-byte input bound")
  let value ← (toml.parse raw).mapError (.parse path)
  let document ← readDocument toml path value
  let config ← applyEnvOverrides document.1 overrides
  config.validate read
  return outcomeOf config document.2

/-- The text within the bound on the input, and one byte more. -/
def readRaw (bytes : Bytes) : Except StoreError String :=
  match fromUtf8 (bytes.take (maxConfigFileBytes + 1)) with
  | some raw => .ok raw
  | none => .error (.io "stream did not contain valid UTF-8")

/-- The text that is saved: it ends a line. -/
def terminated (text : String) : String :=
  if text.toList.getLast? = some '\n' then text else text ++ "\n"

/-- `Config::to_toml_string`. -/
def Config.toTomlString (toml : Toml) (config : Config) : Except StoreError String :=
  ((toml.render config).mapError .serde).map terminated

/-! ## Files -/

/-- The steps of reading the configuration. -/
inductive ConfigReadStep where
  | openFile
  | readFile
deriving DecidableEq

namespace ConfigStore

def readConfig (toml : Toml) (read : ReadFile) (faults : Faults ConfigReadStep)
    (overrides : List (String × String)) (path : PathBuf) : Option Bytes → Storing LoadOutcome
  | none => pure .missing
  | some bytes => do
    pass (faults .openFile)
    pass (faults .readFile)
    let raw ← Async.ofExcept (readRaw bytes)
    Async.ofExcept (loadText toml read overrides path raw)

def loadUnlocked (toml : Toml) (read : ReadFile) (faults : Faults ConfigReadStep)
    (store : ConfigStore) (overrides : List (String × String)) : Storing LoadOutcome := do
  let disk ← Async.get
  readConfig toml read faults overrides store.path (disk.files store.path)

/-- The directory is created, and restricted if it did not exist; then the file is replaced. -/
def saveUnlocked (toml : Toml) (read : ReadFile) (faults : Faults ReplaceStep)
    (store : ConfigStore) (config : Config) : Storing Unit := do
  Async.ofExcept (config.validate read)
  let disk ← Async.get
  perform (faults .createDirectory) .io (·.createDirAll (parent store.path))
  onlyIf (!disk.directories (parent store.path)) (pass (faults .restrictDirectory))
  let text ← Async.ofExcept (config.toTomlString toml)
  replaceFile faults store.path [.ok (utf8 text)]

/-- The steps of a save that takes the lock. -/
inductive SaveStep where
  | lock
  | replace (step : ReplaceStep)
deriving DecidableEq

def save (toml : Toml) (read : ReadFile) (faults : Faults SaveStep) (store : ConfigStore)
    (config : Config) : Storing Unit := do
  pass (faults .lock)
  store.saveUnlocked toml read (fun step => faults (.replace step)) config

end ConfigStore

/-! ## Saving -/

section Saving

variable {toml : Toml} {read : ReadFile} {store : ConfigStore} {config : Config} {disk : Disk}

/-- The configuration passes its checks, and this is its text. -/
def Savable (toml : Toml) (read : ReadFile) (config : Config) (text : String) : Prop :=
  config.validate read = .ok () ∧ config.toTomlString toml = .ok text

/-- A save that returns has replaced the file. One that does not has left the file alone, or it
has replaced it and not synced the directory. -/
theorem ends_saveUnlocked (toml : Toml) (read : ReadFile) (faults : Faults ReplaceStep)
    (store : ConfigStore) (config : Config) :
    Ends disk (store.saveUnlocked toml read faults config)
      (fun _ reached => ∃ text, Savable toml read config text ∧
        reached.files = (disk.set store.path (utf8 text)).files)
      (fun reached => reached.files = disk.files ∨ (Unsynced faults ∧
        ∃ text, Savable toml read config text ∧
          reached.files = (disk.set store.path (utf8 text)).files)) := by
  refine ends_then (ends_ofExcept _ (.inl rfl)) fun _ valid => ?_
  apply ends_get
  refine ends_bind ((ends_perform _ _ _).mono (fun _ _ holds => holds.2) ?_) ?_
  · rintro _ ⟨-, rfl⟩
    exact .inl rfl
  · rintro _ _ rfl
    refine ends_then (ends_onlyIf_pass _ _ (.inl rfl)) fun _ _ => ?_
    refine ends_then (ends_ofExcept _ (.inl rfl)) fun text rendered => ?_
    refine (ends_replaceFile faults store.path _).mono ?_ ?_
    · rintro _ _ ⟨contents, written, rfl⟩
      cases (contentsOf_single (utf8 text)).symm.trans written
      exact ⟨text, ⟨valid, rendered⟩, rfl⟩
    · rintro _ (same | ⟨unsynced, contents, written, rfl⟩)
      · exact .inl same
      · cases (contentsOf_single (utf8 text)).symm.trans written
        exact .inr ⟨unsynced, text, ⟨valid, rendered⟩, rfl⟩

theorem ends_save (toml : Toml) (read : ReadFile) (faults : Faults ConfigStore.SaveStep)
    (store : ConfigStore) (config : Config) :
    Ends disk (store.save toml read faults config)
      (fun _ reached => ∃ text, Savable toml read config text ∧
        reached.files = (disk.set store.path (utf8 text)).files)
      (fun reached => reached.files = disk.files ∨ ∃ text, Savable toml read config text ∧
        reached.files = (disk.set store.path (utf8 text)).files) := by
  refine ends_then (ends_pass _ fun _ => .inl rfl) fun _ _ => ?_
  exact (ends_saveUnlocked toml read _ store config).mono (fun _ _ holds => holds)
    fun _ holds => holds.imp_right And.right

/-- A save, however it ends. -/
theorem save_files (faults : Faults ConfigStore.SaveStep) :
    (store.save toml read faults config disk).2.files = disk.files ∨
      ∃ text, Savable toml read config text ∧ (store.save toml read faults config disk).2.files =
        (disk.set store.path (utf8 text)).files := by
  rcases (ends_save toml read faults store config).cases with ⟨_, -, replaced⟩ | ⟨-, holds⟩
  · exact .inr replaced
  · exact holds

/-- The file is as it was, or it holds the whole text of one of these configurations, which has
passed its checks. No other file has changed. -/
structure Saved (toml : Toml) (read : ReadFile) (store : ConfigStore) (configs : List Config)
    (disk reached : Disk) : Prop where
  own : reached.files store.path = disk.files store.path ∨ ∃ config ∈ configs, ∃ text,
    Savable toml read config text ∧ reached.files store.path = some (utf8 text)
  others : ∀ path ≠ store.path, reached.files path = disk.files path

/-- Saves one after the other, each of which may fail at any step. -/
theorem saves_atomic (saves : List (Config × Faults ConfigStore.SaveStep)) :
    Saved toml read store (saves.map Prod.fst) disk
      (saves.foldl (fun disk save => (store.save toml read save.2 save.1 disk).2) disk) := by
  refine List.foldlRecOn saves _ ⟨.inl rfl, fun _ _ => rfl⟩ fun reached saved save inside => ?_
  rcases @save_files toml read store save.1 reached save.2 with same | ⟨text, savable, same⟩
  · exact ⟨same ▸ saved.own, same ▸ saved.others⟩
  · constructor
    · right
      exact ⟨save.1, List.mem_map_of_mem inside, text, savable, same ▸ Disk.files_set_same⟩
    · intro path other
      rw [same, Disk.files_set_other other]
      exact saved.others path other

end Saving

/-! ## Loading what was saved -/

/-- A text that `toml` writes for a configuration is read as a document with its version, which
decodes to the configuration. -/
def Toml.RoundTrips (toml : Toml) (config : Config) : Prop :=
  ∀ text, config.toTomlString toml = .ok text →
    ∃ value, toml.parse text = .ok value ∧ value.version = some config.version.toNat ∧
      toml.decode value = .ok config

section Loading

variable {toml : Toml} {read : ReadFile} {store : ConfigStore} {config : Config} {disk : Disk}
  {text raw : String}

/-- A text within the bound is read whole. -/
theorem readRaw_of_le (short : text.utf8ByteSize ≤ maxConfigFileBytes) :
    readRaw (utf8 text) = .ok text := by
  have whole : (utf8 text).take (maxConfigFileBytes + 1) = utf8 text :=
    List.take_of_length_le ((length_utf8 text).trans_le (Nat.le_succ_of_le short))
  rw [readRaw, whole, fromUtf8_utf8]

/-- Of a longer text more than the bound is read, if what is read is a text at all. -/
theorem readRaw_of_lt (long : maxConfigFileBytes < text.utf8ByteSize)
    (got : readRaw (utf8 text) = .ok raw) : maxConfigFileBytes < raw.utf8ByteSize := by
  unfold readRaw at got
  cases decoded : fromUtf8 ((utf8 text).take (maxConfigFileBytes + 1)) with
  | none =>
    rw [decoded] at got
    cases got
  | some found =>
    rw [decoded] at got
    cases got
    rw [← length_utf8, utf8_of_fromUtf8 decoded, List.length_take, length_utf8]
    omega

variable {overrides : List (String × String)} {path : PathBuf} {outcome : LoadOutcome}
  {value : Value} {version : Int}

theorem loadText_of_lt (loaded : loadText toml read overrides path raw = .ok outcome) :
    raw.utf8ByteSize ≤ maxConfigFileBytes :=
  of_decide_eq_true (validating_ok.mp (check_ok.mp loaded).1)

/-- A text that is read and accepted is the text of the file. -/
theorem readRaw_of_loadText (got : readRaw (utf8 text) = .ok raw)
    (loaded : loadText toml read overrides path raw = .ok outcome) : raw = text := by
  by_cases short : text.utf8ByteSize ≤ maxConfigFileBytes
  · exact Except.ok.inj (got.symm.trans (readRaw_of_le short))
  · have long := readRaw_of_lt (Nat.not_le.mp short) got
    exact absurd (loadText_of_lt loaded) (Nat.not_le.mpr long)

/-- A document of another version is refused. -/
theorem loadText_of_version (overrides : List (String × String)) (path : PathBuf)
    (short : text.utf8ByteSize ≤ maxConfigFileBytes) (parsed : toml.parse text = .ok value)
    (versioned : value.version = some version) (other : version ≠ configVersion.toNat) :
    loadText toml read overrides path text =
      .error (.unsupportedVersion (reportedVersion version)) := by
  have rejected : readDocument toml path value =
      .error (.unsupportedVersion (reportedVersion version)) := by
    rw [readDocument, versioned]
    exact if_neg other
  simp only [loadText, validating_ok.mpr (decide_eq_true short), parsed, Except.mapError, bind,
    Except.bind, rejected]

/-- The loader accepts the text of a configuration exactly if it has the current version and is
within the bound. -/
theorem loadText_iff (savable : Savable toml read config text)
    (roundTrips : toml.RoundTrips config) (path : PathBuf) :
    loadText toml read [] path text = .ok (.loaded config) ↔
      config.version = configVersion ∧ text.utf8ByteSize ≤ maxConfigFileBytes := by
  obtain ⟨value, parsed, versioned, decoded⟩ := roundTrips text savable.2
  constructor
  · intro loaded
    have short := loadText_of_lt loaded
    refine ⟨?_, short⟩
    by_contra other
    have differs : (config.version.toNat : Int) ≠ configVersion.toNat := fun same =>
      other (UInt8.toNat_inj.mp (Int.ofNat_inj.mp same))
    cases loaded.symm.trans (loadText_of_version [] path short parsed versioned differs)
  · rintro ⟨current, short⟩
    have accepted : readDocument toml path value = .ok (config, false) := by
      rw [readDocument, versioned, current, decoded]
      exact if_pos rfl
    rw [loadText, parsed]
    refine check_ok.mpr ⟨validating_ok.mpr (decide_eq_true short), ?_⟩
    refine bind_ok.mpr ⟨value, rfl, bind_ok.mpr ⟨_, accepted, ?_⟩⟩
    exact bind_ok.mpr ⟨config, rfl, check_ok.mpr ⟨savable.1, rfl⟩⟩

theorem loadUnlocked_saved (saved : disk.files store.path = some (utf8 text))
    (overrides : List (String × String)) :
    (store.loadUnlocked toml read noFault overrides disk).1 =
      .of (readRaw (utf8 text) >>= loadText toml read overrides store.path) := by
  simp only [ConfigStore.loadUnlocked, Async.bind_apply, Async.get_apply, saved,
    ConfigStore.readConfig, pass_none]
  cases readRaw (utf8 text) with
  | error error => rfl
  | ok raw =>
    simp only [Async.ofExcept_ok, Async.ofExcept_eq_exit]
    rfl

/-- A file of another version is refused. -/
theorem loadUnlocked_of_version (overrides : List (String × String))
    (saved : disk.files store.path = some (utf8 text))
    (short : text.utf8ByteSize ≤ maxConfigFileBytes) (parsed : toml.parse text = .ok value)
    (versioned : value.version = some version) (other : version ≠ configVersion.toNat) :
    (store.loadUnlocked toml read noFault overrides disk).1 =
      .failed (.unsupportedVersion (reportedVersion version)) := by
  rw [loadUnlocked_saved saved, readRaw_of_le short]
  exact congrArg Exit.of (loadText_of_version overrides store.path short parsed versioned other)

theorem exit_of_eq_done {ε α : Type} {result : Except ε α} {value : α} :
    Exit.of result = .done value ↔ result = .ok value := by
  cases result <;> simp [Exit.of]

/-- The file after a save that returns. -/
theorem saved_files {faults : Faults ConfigStore.SaveStep}
    (saved : (store.save toml read faults config disk).1 = .done ()) :
    ∃ text, Savable toml read config text ∧
      (store.save toml read faults config disk).2.files store.path = some (utf8 text) := by
  rcases (ends_save toml read faults store config).cases with
    ⟨_, -, text, savable, same⟩ | ⟨stopped, -⟩
  · refine ⟨text, savable, ?_⟩
    rw [same, Disk.files_set_same]
  · exact absurd saved (stopped ())

/-- A save that returns is followed by a load that returns the same configuration, exactly if the
configuration has the current version and its text is within the bound on the input. -/
theorem saved_config_loads_iff (toml : Toml) (read : ReadFile) (store : ConfigStore)
    (config : Config) (faults : Faults ConfigStore.SaveStep) (disk : Disk)
    (saved : (store.save toml read faults config disk).1 = .done ())
    (roundTrips : toml.RoundTrips config) :
    (store.loadUnlocked toml read noFault [] (store.save toml read faults config disk).2).1 =
        .done (.loaded config) ↔
      config.version = configVersion ∧ ∃ text, config.toTomlString toml = .ok text ∧
        text.utf8ByteSize ≤ maxConfigFileBytes := by
  obtain ⟨text, savable, written⟩ := saved_files saved
  have same : ∀ other, config.toTomlString toml = .ok other → other = text := fun other rendered =>
    Except.ok.inj (rendered.symm.trans savable.2)
  rw [loadUnlocked_saved written, exit_of_eq_done]
  constructor
  · intro loaded
    obtain ⟨raw, got, loaded⟩ := bind_ok.mp loaded
    cases (readRaw_of_loadText got loaded).symm
    obtain ⟨current, short⟩ := (loadText_iff savable roundTrips _).mp loaded
    exact ⟨current, text, savable.2, short⟩
  · rintro ⟨current, other, rendered, short⟩
    obtain rfl := same other rendered
    exact bind_ok.mpr ⟨other, readRaw_of_le short,
      (loadText_iff savable roundTrips _).mpr ⟨current, short⟩⟩

end Loading

/-! ## Samples -/

/-- No file can be read. -/
def noFiles : ReadFile := fun _ _ => .error "not found"

/-- What the derived reader makes of the profile of a simulator. -/
def readSimulator (value : Value) : Except String DeviceProfile :=
  let field key := (value.get? "transport").bind (·.get? key) |>.bind Value.asString
  match field "type", field "scenario" with
  | some "mock", some scenario => .ok { transport := .mock scenario }
  | _, _ => .error "not a simulator"

/-- What the derived reader makes of a document with simulators and the default settings. -/
def readSettings (value : Value) : Except String Config :=
  match value.version, value.get? "device_profiles" with
  | some version, some (.table profiles) => do
    return {
      version := reportedVersion version
      defaultProfile := (value.get? "default_profile").bind Value.asString
      deviceProfiles := .ofEntries (← profiles.mapM fun (name, profile) => do
        return (name, ← readSimulator profile)) }
  | _, _ => .error "missing field"

/-- One simulator, and otherwise the default settings. -/
def sampleConfig (version : UInt8) : Config where
  version
  defaultProfile := "sim"
  deviceProfiles := .ofEntries [("sim", { transport := .mock "office" })]

/-- The lines of this configuration. No field of the schema is skipped when it is written. -/
def sampleLines (version : UInt8) : List String :=
  ["version = " ++ toString version.toNat, "default_profile = \"sim\"", "",
    "[device_profiles.sim.transport]", "type = \"mock\"", "scenario = \"office\"", "",
    "[timeout]", "connect_timeout_ms = 5000", "request_timeout_ms = 3000",
    "retry_timeout_ms = 1000", "",
    "[history]", "enabled = false", "max_messages = 256", "",
    "[hook]", "enabled = false", "python_executable = \"python3\"", "timeout_ms = 5000",
    "max_concurrency = 4", "observational_failure = \"open\"", "before_send_failure = \"closed\"",
    "",
    "[hook.environment]", "mode = \"safe_inherited\"", "",
    "[mqtt]", "enabled = false", "",
    "[mqtt.gateway]", "host = \"localhost\"", "port = 8883", "client_id = \"meshquill-mqtt\"",
    "protocol = \"3.1.1\"", "qos = \"at_least_once\"", "keep_alive_secs = 30",
    "broker_operation_timeout_ms = 5000", "topic_prefix = \"meshquill\"",
    "origin = \"meshquill-mqtt\"", "allow_send = false", "max_payload_bytes = 65536",
    "channel_capacity = 64", "",
    "[mqtt.gateway.tls]", "enabled = true", "verify_server_certificate = true", "",
    "[mqtt.gateway.session]", "clean = true", "",
    "[mqtt.gateway.reconnect]", "initial_delay_ms = 250", "max_delay_ms = 30000",
    "multiplier = 2", "",
    "[mqtt.gateway.dedupe]", "capacity = 4096", "ttl_secs = 900", "",
    "[mqtt.gateway.command_limits]", "max_destination_bytes = 128", "max_channel = 7",
    "max_text_bytes = 1024", "",
    "[queues]", "inbound_capacity = 64", "outbound_capacity = 64", "event_capacity = 128"]

/-- Lines, each with its end. -/
def unlines : List String → String
  | [] => ""
  | line :: lines => line ++ "\n" ++ unlines lines

theorem utf8ByteSize_unlines (lines : List String) :
    (unlines lines).utf8ByteSize = lines.foldr (fun line => (line.utf8ByteSize + 1 + ·)) 0 := by
  induction lines with
  | nil => rfl
  | cons line lines ih =>
    rw [unlines, String.utf8ByteSize_append, String.utf8ByteSize_append, ih]
    rfl

/-- Such a text already ends a line. -/
theorem terminated_unlines (line : String) (lines : List String) :
    terminated (unlines (line :: lines)) = unlines (line :: lines) := by
  refine if_pos ?_
  induction lines generalizing line with
  | nil => simp [unlines]
  | cons next lines ih =>
    rw [unlines, String.toList_append, List.getLast?_append, ih next]
    rfl

def sampleText (version : UInt8) : String := unlines (sampleLines version)

/-- The value of that text; a table is sorted by its keys. -/
def sampleValue (version : UInt8) : Value := .table [
  ("default_profile", .string "sim"),
  ("device_profiles", .table [("sim", .table [("transport", .table [
    ("scenario", .string "office"), ("type", .string "mock")])])]),
  ("history", .table [("enabled", .boolean false), ("max_messages", .integer 256)]),
  ("hook", .table [("before_send_failure", .string "closed"), ("enabled", .boolean false),
    ("environment", .table [("mode", .string "safe_inherited")]), ("max_concurrency", .integer 4),
    ("observational_failure", .string "open"), ("python_executable", .string "python3"),
    ("timeout_ms", .integer 5000)]),
  ("mqtt", .table [("enabled", .boolean false), ("gateway", .table [
    ("allow_send", .boolean false), ("broker_operation_timeout_ms", .integer 5000),
    ("channel_capacity", .integer 64), ("client_id", .string "meshquill-mqtt"),
    ("command_limits", .table [("max_channel", .integer 7),
      ("max_destination_bytes", .integer 128), ("max_text_bytes", .integer 1024)]),
    ("dedupe", .table [("capacity", .integer 4096), ("ttl_secs", .integer 900)]),
    ("host", .string "localhost"), ("keep_alive_secs", .integer 30),
    ("max_payload_bytes", .integer 65536), ("origin", .string "meshquill-mqtt"),
    ("port", .integer 8883), ("protocol", .string "3.1.1"), ("qos", .string "at_least_once"),
    ("reconnect", .table [("initial_delay_ms", .integer 250), ("max_delay_ms", .integer 30000),
      ("multiplier", .integer 2)]),
    ("session", .table [("clean", .boolean true)]),
    ("tls", .table [("enabled", .boolean true), ("verify_server_certificate", .boolean true)]),
    ("topic_prefix", .string "meshquill")])]),
  ("queues", .table [("event_capacity", .integer 128), ("inbound_capacity", .integer 64),
    ("outbound_capacity", .integer 64)]),
  ("timeout", .table [("connect_timeout_ms", .integer 5000),
    ("request_timeout_ms", .integer 3000), ("retry_timeout_ms", .integer 1000)]),
  ("version", .integer version.toNat)]

/-- The crate, as far as the document with this version goes. -/
def sampleToml (version : UInt8) : Toml where
  render config :=
    if config = sampleConfig version then .ok (sampleText version)
    else .error "unknown configuration"
  parse raw :=
    if raw = sampleText version then .ok (sampleValue version) else .error "unknown document"
  decode := readSettings
  readProfile := readSimulator
  explain _ := "unknown document"

theorem render_sampleConfig (version : UInt8) :
    (sampleConfig version).toTomlString (sampleToml version) = .ok (sampleText version) := by
  have rendered : (sampleToml version).render (sampleConfig version) = .ok (sampleText version) :=
    if_pos rfl
  rw [Config.toTomlString, rendered]
  exact congrArg Except.ok (terminated_unlines _ _)

theorem parse_sampleText (version : UInt8) :
    (sampleToml version).parse (sampleText version) = .ok (sampleValue version) := if_pos rfl

def sampleConfigStore : ConfigStore := ⟨["config", "config.toml"]⟩

/-- A configuration that is not the default is saved and read back. -/
theorem saved_sample_loads :
    (sampleConfigStore.loadUnlocked (sampleToml 1) noFiles noFault []
        (sampleConfigStore.save (sampleToml 1) noFiles noFault (sampleConfig 1) .blank).2).1 =
      .done (.loaded (sampleConfig 1)) := by
  refine (saved_config_loads_iff (sampleToml 1) noFiles sampleConfigStore (sampleConfig 1) noFault
    _ ?_ ?_).mpr ⟨rfl, sampleText 1, render_sampleConfig 1, ?_⟩
  · decide +kernel
  · intro text same
    cases (render_sampleConfig 1).symm.trans same
    exact ⟨sampleValue 1, parse_sampleText 1, rfl, rfl⟩
  · rw [sampleText, utf8ByteSize_unlines]
    decide +kernel

/-- A version that the loader does not know is saved. -/
theorem saved_version_two_not_loaded :
    (sampleConfigStore.save (sampleToml 2) noFiles noFault (sampleConfig 2) .blank).1 = .done () ∧
      (sampleConfigStore.loadUnlocked (sampleToml 2) noFiles noFault []
        (sampleConfigStore.save (sampleToml 2) noFiles noFault (sampleConfig 2) .blank).2).1 =
          .failed (.unsupportedVersion 2) := by
  have saved : (sampleConfigStore.save (sampleToml 2) noFiles noFault (sampleConfig 2) .blank).1 =
      .done () := by decide +kernel
  have short : (sampleText 2).utf8ByteSize ≤ maxConfigFileBytes := by
    rw [sampleText, utf8ByteSize_unlines]
    decide +kernel
  obtain ⟨text, savable, written⟩ := saved_files saved
  obtain rfl : sampleText 2 = text := Except.ok.inj ((render_sampleConfig 2).symm.trans savable.2)
  have versioned : (sampleValue 2).version = some 2 := rfl
  exact ⟨saved, loadUnlocked_of_version [] written short (parse_sampleText 2) versioned (by decide)⟩

end Meshquill.Store
