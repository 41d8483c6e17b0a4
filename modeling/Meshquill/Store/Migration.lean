import Meshquill.Store.ConfigFile

/-!
# Migration of legacy documents

A document without an integer version is taken for a legacy one. What it has under `devices` is
carried over. What it has under `device_profiles`, the table of the current schema, is not read:
such a document is migrated without these profiles unless they stand under `devices` as well. And
a simulator whose scenario is left to its declared default, the empty string, does not pass the
checks of the migrated configuration.
-/
namespace Meshquill.Store

open Checks
open Mqtt (ReadFile)

/-- A device that the document has under `devices`. -/
def Value.device? (value : Value) (name : String) : Option Value :=
  (value.get? "devices").bind (·.get? name)

/-- A profile that the document has under `device_profiles`. -/
def Value.profile? (value : Value) (name : String) : Option Value :=
  (value.get? "device_profiles").bind (·.get? name)

/-- Each profile of the document is in the configuration, with its transport. -/
structure CarriedOver (toml : Toml) (value : Value) (config : Config) : Prop where
  devices : ∀ name device, value.device? name = some device →
    ∃ transport profile, readLegacyDevice device = some transport ∧
      config.deviceProfiles.get? name = some profile ∧ profile.transport = transport.toTransport
  profiles : ∀ name entry, value.profile? name = some entry →
    ∃ written profile, toml.readProfile entry = .ok written ∧
      config.deviceProfiles.get? name = some profile ∧ profile.transport = written.transport

/-- Each profile under `device_profiles` stands under `devices` too, with its transport. -/
def Mirrored (toml : Toml) (value : Value) : Prop :=
  ∀ name entry, value.profile? name = some entry →
    ∃ written device transport, toml.readProfile entry = .ok written ∧
      value.device? name = some device ∧ readLegacyDevice device = some transport ∧
      transport.toTransport = written.transport

/-! ## Documents that only omit defaults -/

/-- The value is a text that is not blank. -/
def IsText (value : Value) : Prop := ∃ text, value = .string text ∧ trim text.toList ≠ []

/-- The value is a number other than zero of an unsigned type with this many values. -/
def IsPositive (size : Nat) (value : Value) : Prop :=
  ∃ number : Int, value = .integer number ∧ 0 < number ∧ number < size

/-- A field that has to be there. -/
def Written (entries : List (String × Value)) (key : String) (good : Value → Prop) : Prop :=
  ∃ value, findKey key entries = some value ∧ good value

/-- A field that may be left to its default. -/
def Omittable (entries : List (String × Value)) (key : String) (good : Value → Prop) : Prop :=
  ∀ value, findKey key entries = some value → good value

/-- A legacy device whose fields are right where they are written. -/
inductive WellWritten (entries : List (String × Value)) : Prop
  | ble (tagged : findKey "transport" entries = some (.string "ble"))
    (id : Written entries "id" IsText)
    (name : Omittable entries "name" fun value => ∃ text, value = .string text)
  | serial (tagged : findKey "transport" entries = some (.string "serial"))
    (port : Written entries "port" IsText) (baud : Omittable entries "baud" (IsPositive 4294967296))
  | tcp (tagged : findKey "transport" entries = some (.string "tcp"))
    (host : Written entries "host" IsText) (port : Omittable entries "port" (IsPositive 65536))
  | mock (tagged : findKey "transport" entries = some (.string "mock"))
    (scenario : Omittable entries "scenario" IsText)

/-- A legacy document within the bound on the input that omits nothing but fields with declared
defaults. -/
structure OnlyOmits (text : String) (entries : List (String × Value)) : Prop where
  short : text.utf8ByteSize ≤ maxConfigFileBytes
  unversioned : findKey "version" entries = none
  unprofiled : findKey "device_profiles" entries = none
  devices : Omittable entries "devices" fun value => ∃ devices, value = .table devices ∧
    ∀ device ∈ devices, validateIdentifier device.1 = true ∧
      ∃ fields, device.2 = .table fields ∧ WellWritten fields
  defaultProfile : Omittable entries "default_profile" fun value => ∃ name device,
    value = .string name ∧ (Value.table entries).device? name = some device

/-- The simulators of the document name their scenarios. -/
def NamesScenarios (entries : List (String × Value)) : Prop :=
  ∀ name fields, (Value.table entries).device? name = some (.table fields) →
    findKey "transport" fields = some (.string "mock") → findKey "scenario" fields ≠ none

/-! ## Reading devices -/

section Reading

variable {entries : List (String × Value)} {devices : List (String × LegacyTransport)}
  {legacy : LegacyConfig}

/-- Every device is read, and nothing else is. -/
theorem readLegacyDevices_some (readAs : readLegacyDevices entries = some devices) :
    (∀ entry ∈ entries, ∃ transport, readLegacyDevice entry.2 = some transport) ∧
      ∀ name, findKey name devices = (findKey name entries).bind readLegacyDevice := by
  induction entries generalizing devices with
  | nil =>
    cases readAs
    exact ⟨nofun, fun _ => rfl⟩
  | cons first rest ih =>
    obtain ⟨key, device⟩ := first
    simp only [readLegacyDevices, Option.bind_eq_bind, Option.bind_eq_some_iff] at readAs
    obtain ⟨transport, readDevice, others, readOthers, same⟩ := readAs
    cases same
    obtain ⟨readable, found⟩ := ih readOthers
    constructor
    · intro entry inside
      rcases List.mem_cons.mp inside with rfl | inside
      · exact ⟨transport, readDevice⟩
      · exact readable entry inside
    · intro name
      simp only [findKey]
      split_ifs
      · exact readDevice.symm
      · exact found name

theorem readLegacyTable_some {table : Option Value} (readAs : readLegacyTable table = some devices)
    (name : String) :
    (∀ device, table.bind (·.get? name) = some device →
      ∃ transport, readLegacyDevice device = some transport) ∧
      findKey name devices = (table.bind (·.get? name)).bind readLegacyDevice := by
  cases table with
  | none =>
    cases readAs
    exact ⟨nofun, rfl⟩
  | some value =>
    cases value with
    | table entries =>
      obtain ⟨readable, found⟩ := readLegacyDevices_some readAs
      exact ⟨fun device here => readable _ (mem_of_findKey here), found name⟩
    | _ => cases readAs

theorem read_some (readAs : LegacyConfig.read (.table entries) = some legacy) :
    ∃ devices, readLegacyTable (findKey "devices" entries) = some devices ∧
      legacy.devices = .ofEntries devices ∧
      optionalField entries "default_profile" Value.asString = some legacy.defaultProfile := by
  simp only [LegacyConfig.read, Option.bind_eq_bind, Option.bind_eq_some_iff] at readAs
  obtain ⟨named, readName, devices, readTable, same⟩ := readAs
  cases same
  exact ⟨devices, readTable, rfl, readName⟩

/-- The profiles of the migrated configuration are those of the legacy devices. -/
theorem get?_profiles (legacy : LegacyConfig) (name : String) :
    legacy.profiles.get? name = (legacy.devices.get? name).map LegacyTransport.toProfile :=
  findKey_map LegacyTransport.toProfile name legacy.devices.entries

theorem get?_ofLegacy (readAs : LegacyConfig.read (.table entries) = some legacy)
    (name : String) :
    (∀ device, (Value.table entries).device? name = some device →
      ∃ transport, readLegacyDevice device = some transport) ∧
    (Config.ofLegacy legacy).deviceProfiles.get? name =
      (((Value.table entries).device? name).bind readLegacyDevice).map
        LegacyTransport.toProfile := by
  obtain ⟨devices, readTable, same, -⟩ := read_some readAs
  obtain ⟨readable, found⟩ := readLegacyTable_some readTable name
  refine ⟨readable, ?_⟩
  change legacy.profiles.get? name = _
  rw [get?_profiles, same, OrderedMap.get?_ofEntries, found]
  rfl

end Reading

/-! ## What is carried over -/

section Carried

variable {toml : Toml} {read : ReadFile} {overrides : List (String × String)} {text : String}
  {entries : List (String × Value)} {config : Config} {path : PathBuf}

/-- What the loader requires of a document that it migrates, and what it makes of it. -/
structure Migrates (read : ReadFile) (overrides : List (String × String)) (text : String)
    (value : Value) (config : Config) : Prop where
  short : text.utf8ByteSize ≤ maxConfigFileBytes
  unversioned : value.version = none
  readAs : ∃ legacy, LegacyConfig.read value = some legacy ∧
    applyEnvOverrides (.ofLegacy legacy) overrides = .ok config
  valid : config.validate read = .ok ()

theorem outcomeOf_eq_needsMigration {needsMigration : Bool} {found : Config} :
    outcomeOf found needsMigration = .needsMigration config ↔
      needsMigration = true ∧ found = config := by
  cases needsMigration <;> simp [outcomeOf]

theorem readDocument_legacy {value : Value} {found : Config} :
    readDocument toml path value = .ok (found, true) ↔
      value.version = none ∧ ∃ legacy, LegacyConfig.read value = some legacy ∧
        found = .ofLegacy legacy := by
  unfold readDocument fromLegacyValue
  rcases value.version with _ | version
  · rcases LegacyConfig.read value with _ | legacy
    · simp [Except.map]
    · simp [Except.map, eq_comm]
  · simp only [reduceCtorEq, false_and, iff_false]
    split_ifs
    · rcases toml.decode value with _ | _
      · exact nofun
      · exact nofun
    · exact nofun

theorem loadText_migrates {value : Value} (parsed : toml.parse text = .ok value) :
    loadText toml read overrides path text = .ok (.needsMigration config) ↔
      Migrates read overrides text value config := by
  rw [loadText, check_ok, validating_ok, decide_eq_true_iff, parsed]
  constructor
  · rintro ⟨short, loaded⟩
    obtain ⟨found, same, loaded⟩ := bind_ok.mp loaded
    cases same
    obtain ⟨⟨migrated, legacyFormat⟩, readAs, loaded⟩ := bind_ok.mp loaded
    obtain ⟨overridden, applied, loaded⟩ := bind_ok.mp loaded
    obtain ⟨valid, returned⟩ := check_ok.mp loaded
    obtain ⟨rfl, rfl⟩ := outcomeOf_eq_needsMigration.mp (Except.ok.inj returned)
    obtain ⟨unversioned, legacy, readLegacy, rfl⟩ := readDocument_legacy.mp readAs
    exact ⟨short, unversioned, ⟨legacy, readLegacy, applied⟩, valid⟩
  · rintro ⟨short, unversioned, ⟨legacy, readLegacy, applied⟩, valid⟩
    refine ⟨short, bind_ok.mpr ⟨value, rfl, bind_ok.mpr ⟨(.ofLegacy legacy, true), ?_, ?_⟩⟩⟩
    · exact readDocument_legacy.mpr ⟨unversioned, legacy, readLegacy, rfl⟩
    · exact bind_ok.mpr ⟨config, applied, check_ok.mpr ⟨valid, rfl⟩⟩

/-- The devices are carried over. The other profiles are if they are mirrored there. -/
theorem carriedOver_iff (migrates : Migrates read overrides text (.table entries) config) :
    CarriedOver toml (.table entries) config ↔ Mirrored toml (.table entries) := by
  obtain ⟨legacy, readAs, applied⟩ := migrates.readAs
  have held : ∀ name, config.deviceProfiles.get? name =
      (((Value.table entries).device? name).bind readLegacyDevice).map
        LegacyTransport.toProfile := by
    intro name
    rw [deviceProfiles_applyEnvOverrides applied]
    exact (get?_ofLegacy readAs name).2
  constructor
  · intro carried name entry written
    obtain ⟨read, profile, readAs, found, same⟩ := carried.profiles name entry written
    rw [held, Option.map_eq_some_iff] at found
    obtain ⟨transport, found, rfl⟩ := found
    obtain ⟨device, here, readDevice⟩ := Option.bind_eq_some_iff.mp found
    exact ⟨read, device, transport, readAs, here, readDevice, same⟩
  · intro mirrored
    constructor
    · intro name device here
      obtain ⟨transport, readDevice⟩ := (get?_ofLegacy readAs name).1 device here
      refine ⟨transport, transport.toProfile, readDevice, ?_, rfl⟩
      rw [held, here, Option.bind_some, readDevice]
      rfl
    · intro name entry written
      obtain ⟨read, device, transport, readAs, here, readDevice, same⟩ :=
        mirrored name entry written
      refine ⟨read, transport.toProfile, readAs, ?_, same⟩
      rw [held, here, Option.bind_some, readDevice]
      rfl

end Carried

/-! ## What passes the checks -/

section Passing

variable {entries fields : List (String × Value)} {legacy : LegacyConfig} {text : String}

theorem requireText_ok {value field : String} :
    requireText value field = .ok () ↔ trim value.toList ≠ [] := by
  rw [requireText, validating_ok, decide_eq_true_iff]

variable {key name : String}

theorem requiredField_text (written : Written fields key IsText) :
    ∃ value, requiredField fields key Value.asString = some value ∧ trim value.toList ≠ [] := by
  obtain ⟨_, found, value, rfl, solid⟩ := written
  refine ⟨value, ?_, solid⟩
  rw [requiredField, found]
  rfl

/-- A number that is written or left to a default other than zero. -/
theorem defaultedField_positive {α : Type} {size : Nat} {default zero : α} {make : Nat → α}
    (usable : default ≠ zero)
    (injective : ∀ number, 0 < number → number < size → make number ≠ zero)
    (omittable : Omittable fields key (IsPositive size)) :
    ∃ number, defaultedField fields key default
      (fun value => (value.asUnsigned size).map make) = some number ∧ number ≠ zero := by
  unfold defaultedField
  cases found : findKey key fields with
  | none => exact ⟨default, rfl, usable⟩
  | some value =>
    obtain ⟨number, rfl, positive, small⟩ := omittable value found
    have range : 0 ≤ number ∧ number < (size : Int) := ⟨positive.le, small⟩
    refine ⟨make number.toNat, ?_, injective _ (by omega) (by omega)⟩
    change ((Value.integer number).asUnsigned size).map make = _
    simp only [Value.asUnsigned, if_pos range, Option.map_some]

theorem validate_toProfile {transport : LegacyTransport} :
    transport.toProfile.validate = .ok () ↔ transport.toTransport.validate = .ok () := by
  rw [DeviceProfile.validate, check_ok]
  exact ⟨And.left, fun passed => ⟨passed, rfl⟩⟩

/-- A well-written device is read. Its transport passes the checks unless it is a simulator that
omits its scenario. -/
theorem readLegacyDevice_wellWritten (well : WellWritten fields) :
    ∃ transport, readLegacyDevice (.table fields) = some transport ∧
      (transport.toProfile.validate = .ok () ↔
        (findKey "transport" fields = some (.string "mock") →
          findKey "scenario" fields ≠ none)) := by
  cases well with
  | ble tagged id name =>
    obtain ⟨id, readId, solid⟩ := requiredField_text id
    obtain ⟨name, readName⟩ : ∃ name, optionalField fields "name" Value.asString = some name := by
      unfold optionalField
      cases found : findKey "name" fields with
      | none => exact ⟨none, rfl⟩
      | some value =>
        obtain ⟨text, rfl⟩ := name value found
        exact ⟨some text, rfl⟩
    refine ⟨.ble id name, ?_, ?_⟩
    · simp only [readLegacyDevice, tagged, readId, readName]
      rfl
    · rw [validate_toProfile]
      exact iff_of_true (requireText_ok.mpr solid) (by simp [tagged])
  | serial tagged port baud =>
    obtain ⟨port, readPort, solid⟩ := requiredField_text port
    obtain ⟨baud, readBaud, nonzero⟩ :
        ∃ number, defaultedField fields "baud" defaultSerialBaud
          (fun value => (value.asUnsigned 4294967296).map UInt32.ofNat) = some number ∧
          number ≠ 0 := by
      refine defaultedField_positive (by decide) (fun number positive small zero => ?_) baud
      have same := congrArg UInt32.toNat zero
      rw [UInt32.toNat_ofNat_of_lt' small] at same
      exact absurd same (Nat.ne_of_gt positive)
    refine ⟨.serial port baud, ?_, ?_⟩
    · simp only [readLegacyDevice, tagged, readPort, readBaud]
      rfl
    · rw [validate_toProfile]
      refine iff_of_true (check_ok.mpr ⟨requireText_ok.mpr solid, ?_⟩) (by simp [tagged])
      exact validating_ok.mpr (decide_eq_true nonzero)
  | tcp tagged host port =>
    obtain ⟨host, readHost, solid⟩ := requiredField_text host
    obtain ⟨port, readPort, nonzero⟩ :
        ∃ number, defaultedField fields "port" defaultCompanionTcpPort
          (fun value => (value.asUnsigned 65536).map UInt16.ofNat) = some number ∧
          number ≠ 0 := by
      refine defaultedField_positive (by decide) (fun number positive small zero => ?_) port
      have same := congrArg UInt16.toNat zero
      rw [UInt16.toNat_ofNat_of_lt' small] at same
      exact absurd same (Nat.ne_of_gt positive)
    refine ⟨.tcp host port, ?_, ?_⟩
    · simp only [readLegacyDevice, tagged, readHost, readPort]
      rfl
    · rw [validate_toProfile]
      refine iff_of_true (check_ok.mpr ⟨requireText_ok.mpr solid, ?_⟩) (by simp [tagged])
      exact validating_ok.mpr (decide_eq_true nonzero)
  | mock tagged scenario =>
    cases found : findKey "scenario" fields with
    | none =>
      refine ⟨.mock "", ?_, ?_⟩
      · simp only [readLegacyDevice, tagged, defaultedField, found]
        rfl
      · rw [validate_toProfile]
        exact iff_of_false (by decide) (by simp [tagged])
    | some value =>
      obtain ⟨scenario, rfl, solid⟩ := scenario value found
      refine ⟨.mock scenario, ?_, ?_⟩
      · simp only [readLegacyDevice, tagged, defaultedField, found]
        rfl
      · rw [validate_toProfile]
        exact iff_of_true (requireText_ok.mpr solid) (by simp)

theorem readLegacyDevices_wellWritten {devices : List (String × Value)}
    (well : ∀ device ∈ devices, ∃ fields, device.2 = .table fields ∧ WellWritten fields) :
    ∃ transports, readLegacyDevices devices = some transports := by
  induction devices with
  | nil => exact ⟨[], rfl⟩
  | cons first rest ih =>
    obtain ⟨fields, shape, written⟩ := well first List.mem_cons_self
    obtain ⟨transport, readDevice, -⟩ := readLegacyDevice_wellWritten written
    obtain ⟨others, readOthers⟩ :=
      ih fun device inside => well device (List.mem_cons_of_mem _ inside)
    rw [← shape] at readDevice
    refine ⟨(first.1, transport) :: others, ?_⟩
    simp only [readLegacyDevices, readDevice, readOthers]
    rfl

/-- A document that only omits defaults is read. -/
theorem OnlyOmits.read (only : OnlyOmits text entries) :
    ∃ legacy, LegacyConfig.read (.table entries) = some legacy := by
  obtain ⟨named, readName⟩ :
      ∃ name, optionalField entries "default_profile" Value.asString = some name := by
    unfold optionalField
    cases found : findKey "default_profile" entries with
    | none => exact ⟨none, rfl⟩
    | some value =>
      obtain ⟨name, -, rfl, -⟩ := only.defaultProfile value found
      exact ⟨some name, rfl⟩
  obtain ⟨devices, readDevices⟩ :
      ∃ devices, readLegacyTable (findKey "devices" entries) = some devices := by
    cases found : findKey "devices" entries with
    | none => exact ⟨[], rfl⟩
    | some value =>
      obtain ⟨devices, rfl, well⟩ := only.devices value found
      exact readLegacyDevices_wellWritten fun device inside => (well device inside).2
  refine ⟨⟨named, .ofEntries devices⟩, ?_⟩
  simp only [LegacyConfig.read, readName, readDevices]
  rfl

/-- The devices of such a document have valid names and are well written. -/
theorem OnlyOmits.device (only : OnlyOmits text entries) {device : Value}
    (here : (Value.table entries).device? name = some device) :
    validateIdentifier name = true ∧ ∃ fields, device = .table fields ∧ WellWritten fields := by
  obtain ⟨table, found, inside⟩ := Option.bind_eq_some_iff.mp here
  obtain ⟨devices, rfl, well⟩ := only.devices table found
  exact well (name, device) (mem_of_findKey inside)

/-- A profile of the migrated configuration comes from a device of the document. -/
theorem mem_profiles (readAs : LegacyConfig.read (.table entries) = some legacy)
    {profile : DeviceProfile} :
    (name, profile) ∈ legacy.profiles.entries ↔ ∃ device transport,
      (Value.table entries).device? name = some device ∧
      readLegacyDevice device = some transport ∧ profile = transport.toProfile := by
  have found := (get?_ofLegacy readAs name).2
  rw [← OrderedMap.get?_eq_some_iff]
  change legacy.profiles.get? name = _ at found
  rw [found, Option.map_eq_some_iff]
  constructor
  · rintro ⟨transport, here, rfl⟩
    obtain ⟨device, here, readDevice⟩ := Option.bind_eq_some_iff.mp here
    exact ⟨device, transport, here, readDevice, rfl⟩
  · rintro ⟨device, transport, here, readDevice, rfl⟩
    exact ⟨transport, Option.bind_eq_some_iff.mpr ⟨device, here, readDevice⟩, rfl⟩

/-- The default profile of the migrated configuration is one of its profiles. -/
theorem OnlyOmits.defaultProfile_ok (only : OnlyOmits text entries)
    (readAs : LegacyConfig.read (.table entries) = some legacy) :
    (Config.ofLegacy legacy).defaultProfile.forM
      (validateDefaultProfile (Config.ofLegacy legacy).deviceProfiles) = .ok () := by
  have passes : ∀ name device, (Value.table entries).device? name = some device →
      validateDefaultProfile legacy.profiles name = .ok () := by
    intro name device here
    obtain ⟨valid, -⟩ := only.device here
    obtain ⟨transport, readDevice⟩ := (get?_ofLegacy readAs name).1 device here
    have listed := (mem_profiles readAs).mpr ⟨device, transport, here, readDevice, rfl⟩
    have contained : legacy.profiles.contains name = true := by
      rw [OrderedMap.contains, OrderedMap.get?_eq_some_iff.mpr listed]
      rfl
    exact validateDefaultProfile_ok.mpr ⟨valid, contained⟩
  obtain ⟨-, -, -, readName⟩ := read_some readAs
  change (legacy.defaultProfile.or legacy.profiles.firstKey?).forM
    (validateDefaultProfile legacy.profiles) = .ok ()
  cases found : findKey "default_profile" entries with
  | some value =>
    obtain ⟨name, device, rfl, here⟩ := only.defaultProfile value found
    rw [optionalField, found] at readName
    rw [← Option.some.inj readName]
    exact passes name device here
  | none =>
    rw [optionalField, found] at readName
    rw [← Option.some.inj readName, Option.none_or]
    cases first : legacy.profiles.firstKey? with
    | none => rfl
    | some name =>
      obtain ⟨profile, listed⟩ := OrderedMap.contains_of_firstKey? first
      obtain ⟨device, transport, here, -, -⟩ := (mem_profiles readAs).mp listed
      exact passes name device here

/-- The migrated configuration passes its checks if the simulators name their scenarios. -/
theorem OnlyOmits.validate_iff (only : OnlyOmits text entries)
    (readAs : LegacyConfig.read (.table entries) = some legacy) (read : ReadFile) :
    (Config.ofLegacy legacy).validate read = .ok () ↔ NamesScenarios entries := by
  have rest : (Config.ofLegacy legacy).validate read = .ok () ↔
      validateProfiles legacy.profiles.entries = .ok () := by
    have others := (check_ok.mp (check_ok.mp (Config.validate_default read)).2).2
    rw [Config.validate, check_ok, check_ok]
    exact ⟨And.left, fun passed => ⟨passed, only.defaultProfile_ok readAs, others⟩⟩
  rw [rest, validateProfiles_ok]
  constructor
  · intro passed name fields here mock
    obtain ⟨-, _, ⟨⟩, well⟩ := only.device here
    obtain ⟨transport, readDevice, valid⟩ := readLegacyDevice_wellWritten well
    have listed := (mem_profiles readAs).mpr ⟨_, transport, here, readDevice, rfl⟩
    exact valid.mp (passed _ listed).2 mock
  · rintro named ⟨name, profile⟩ listed
    obtain ⟨device, transport, here, readDevice, rfl⟩ := (mem_profiles readAs).mp listed
    obtain ⟨identified, fields, rfl, well⟩ := only.device here
    obtain ⟨again, readAgain, valid⟩ := readLegacyDevice_wellWritten well
    cases readAgain.symm.trans readDevice
    exact ⟨identified, valid.mpr (named name fields here)⟩

end Passing

/-! ## The law of migration -/

section Law

variable {toml : Toml} {read : ReadFile} {store : ConfigStore} {disk : Disk} {text : String}
  {entries : List (String × Value)}

theorem loadUnlocked_migrates (stored : disk.files store.path = some (utf8 text))
    (parsed : toml.parse text = .ok (.table entries)) (overrides : List (String × String))
    (config : Config) :
    (store.loadUnlocked toml read noFault overrides disk).1 = .done (.needsMigration config) ↔
      Migrates read overrides text (.table entries) config := by
  rw [loadUnlocked_saved stored, exit_of_eq_done]
  constructor
  · intro loaded
    obtain ⟨raw, got, loaded⟩ := bind_ok.mp loaded
    cases (readRaw_of_loadText got loaded).symm
    exact (loadText_migrates parsed).mp loaded
  · intro migrates
    exact bind_ok.mpr ⟨text, readRaw_of_le migrates.short, (loadText_migrates parsed).mpr migrates⟩

/-- A document that only omits defaults is migrated to a configuration that passes its checks if
and only if its simulators name their scenarios. -/
theorem OnlyOmits.migrates_iff (only : OnlyOmits text entries) :
    (∃ config, Migrates read [] text (.table entries) config) ↔ NamesScenarios entries := by
  obtain ⟨legacy, readAs⟩ := only.read
  have unversioned : (Value.table entries).version = none := by
    change (findKey "version" entries).bind Value.asInteger = none
    rw [only.unversioned]
    rfl
  constructor
  · rintro ⟨config, migrates⟩
    obtain ⟨again, readAgain, applied⟩ := migrates.readAs
    cases readAs.symm.trans readAgain
    cases applied
    exact (only.validate_iff readAs read).mp migrates.valid
  · intro named
    exact ⟨_, only.short, unversioned, ⟨legacy, readAs, rfl⟩,
      (only.validate_iff readAs read).mpr named⟩

end Law

/-! ## Samples -/

/-- A reader that knows one document. -/
def documentToml (text : String) (value : Value) : Toml where
  render _ := .error "not written"
  parse raw := if raw = text then .ok value else .error "unknown document"
  decode := readSettings
  readProfile := readSimulator
  explain _ := "not a legacy document"

theorem parse_documentToml (text : String) (value : Value) :
    (documentToml text value).parse text = .ok value := if_pos rfl

/-- The disk with this configuration. -/
def configDisk (text : String) : Disk := Disk.blank.set sampleConfigStore.path (utf8 text)

/-- A legacy document with one simulator, with or without its scenario. -/
def legacyDocument (scenario : Option String) : List (String × Value) :=
  [("devices", .table [("sim", .table (("transport", .string "mock") ::
    scenario.toList.map fun scenario => ("scenario", .string scenario)))])]

/-- A document of the current schema without its version. -/
def unversionedDocument : List (String × Value) :=
  [("device_profiles", .table [("sim", .table [("transport", .table
    [("scenario", .string "office"), ("type", .string "mock")])])])]

def omittingText : String := "[devices.sim]\ntransport = 'mock'\n"

def legacyText : String := omittingText ++ "scenario = 'office'\n"

def unversionedText : String :=
  "[device_profiles.sim.transport]\ntype = 'mock'\nscenario = 'office'\n"

/-- The text with each simulator under both names. -/
def mirroredText : String := unversionedText ++ legacyText

theorem onlyOmits_simulator {text : String} (short : text.utf8ByteSize ≤ maxConfigFileBytes)
    {scenario : Option String} (named : ∀ name, scenario = some name → trim name.toList ≠ []) :
    OnlyOmits text (legacyDocument scenario) where
  short := short
  unversioned := rfl
  unprofiled := rfl
  devices := by
    rintro _ ⟨⟩
    refine ⟨_, rfl, ?_⟩
    intro device inside
    rw [List.mem_singleton.mp inside]
    refine ⟨(by decide +kernel : validateIdentifier "sim" = true), _, rfl, .mock rfl ?_⟩
    rintro _ found
    cases scenario with
    | none => cases found
    | some name =>
      cases found
      exact ⟨name, rfl, named name rfl⟩
  defaultProfile := nofun

theorem mirrored_sample : Mirrored (documentToml mirroredText
    (.table (unversionedDocument ++ legacyDocument (some "office"))))
      (.table (unversionedDocument ++ legacyDocument (some "office"))) := by
  intro name entry here
  obtain ⟨_, ⟨⟩, found⟩ := Option.bind_eq_some_iff.mp here
  obtain ⟨rfl, rfl⟩ := Prod.mk.inj (List.mem_singleton.mp (mem_of_findKey found))
  exact ⟨_, _, _, rfl, rfl, rfl, rfl⟩

end Meshquill.Store
