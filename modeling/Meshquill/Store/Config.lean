import Meshquill.Hooks.Runtime
import Meshquill.Mqtt.Config
import Meshquill.OrderedMap
import Mathlib.Data.String.Basic

/-!
# The settings document

`Config` of the store with its parts, their defaults, their checks and the messages of these, and
the overrides from the environment. Numbers of type `u64` and `usize` are natural numbers, and
paths to scripts and executables are strings: nothing here computes with them. The certificate
and key files that the MQTT settings name are read through a parameter. They are not the
configuration file itself.
-/
namespace Meshquill.Store

open Checks
open Hooks (HookConfig HookRuntime maxOperationTimeoutMs)
open Mqtt (MqttConfig MqttConfigError ReadFile)

def configVersion : UInt8 := 1

def maxProfileIdentifierBytes : Nat := 64

/-! ## Settings -/

inductive TransportConfig where
  | ble (id : String) (name : Option String)
  | serial (port : String) (baud : UInt32)
  | tcp (host : String) (port : UInt16)
  | mock (scenario : String)
deriving DecidableEq

def defaultSerialBaud : UInt32 := 115200

def defaultCompanionTcpPort : UInt16 := 5000

structure TransportOverrides where
  requestTimeoutMs : Option Nat := none
deriving DecidableEq

inductive SecretRef where
  | credentialStore (service account : String)
  | environment (name : String)
  | prompt
deriving DecidableEq

structure DeviceProfile where
  transport : TransportConfig
  transportOverrides : Option TransportOverrides := none
  secret : Option SecretRef := none
deriving DecidableEq

structure TimeoutSettings where
  connectTimeoutMs : Nat := 5000
  requestTimeoutMs : Nat := 3000
  retryTimeoutMs : Nat := 1000
deriving DecidableEq

structure HistorySettings where
  enabled : Bool := false
  maxMessages : UInt32 := 256
deriving DecidableEq

inductive HookFailurePolicy where
  | openPolicy
  | closedPolicy
deriving DecidableEq

inductive HookEnvironmentPolicy where
  | clear
  | safeInherited
  | allowList (names : List String)
deriving DecidableEq

structure HookSettings where
  enabled : Bool := false
  script : Option String := none
  pythonExecutable : String := "python3"
  timeoutMs : Nat := 5000
  maxConcurrency : Nat := 4
  environment : HookEnvironmentPolicy := .safeInherited
  observationalFailure : HookFailurePolicy := .openPolicy
  beforeSendFailure : HookFailurePolicy := .closedPolicy
deriving DecidableEq

structure MqttSettings where
  enabled : Bool := false
  gateway : MqttConfig := {}
  password : Option SecretRef := none
deriving DecidableEq

structure QueueSettings where
  inboundCapacity : UInt32 := 64
  outboundCapacity : UInt32 := 64
  eventCapacity : UInt32 := 128
deriving DecidableEq

structure Config where
  version : UInt8 := configVersion
  defaultProfile : Option String := none
  deviceProfiles : OrderedMap String DeviceProfile := .empty
  timeout : TimeoutSettings := {}
  history : HistorySettings := {}
  hook : HookSettings := {}
  mqtt : MqttSettings := {}
  queues : QueueSettings := {}
deriving DecidableEq

/-! ## Names -/

def validateIdentifier (name : String) : Bool :=
  name.utf8ByteSize ≤ maxProfileIdentifierBytes &&
    match name.toList with
    | [] => false
    | first :: rest =>
      (first.isAlpha || first = '_') &&
        rest.all fun char => char.isAlphanum || char = '_' || char = '-'

def validateEnvName (name : String) : Bool :=
  name.utf8ByteSize ≤ 64 &&
    match name.toList with
    | [] => false
    | first :: rest =>
      (first.isAlpha || first = '_') && (first :: rest).all fun char =>
        char.isAlphanum || char = '_'

def validateCredentialLabel (value : String) : Bool :=
  trim value.toList ≠ [] && value.utf8ByteSize ≤ 255 && !value.toList.any isControl

/-! ## Checks -/

/-- A value that must not be blank. -/
def requireText (value field : String) : Except StoreError Unit :=
  validating (trim value.toList ≠ []) field "required"

def TransportConfig.validate : TransportConfig → Except StoreError Unit
  | .ble id _ => requireText id "transport.ble.id"
  | .serial port baud => do
    requireText port "transport.serial.port"
    validating (baud ≠ 0) "transport.serial.baud" "must be non-zero"
  | .tcp host port => do
    requireText host "transport.tcp.host"
    validating (port ≠ 0) "transport.tcp.port" "must be non-zero"
  | .mock scenario => requireText scenario "transport.mock.scenario"

/-- Whether a timeout is within the bound of an operation. -/
def isOperationTimeout (milliseconds : Nat) : Bool :=
  1 ≤ milliseconds && milliseconds ≤ maxOperationTimeoutMs

def TransportOverrides.validate (overrides : TransportOverrides) : Except StoreError Unit :=
  validating (overrides.requestTimeoutMs.all isOperationTimeout)
    "device_profiles.transport_overrides.request_timeout_ms" "must be between 1 and 86400000"

def SecretRef.validate (field : String) : SecretRef → Except StoreError Unit
  | .credentialStore service account =>
    validating (validateCredentialLabel service && validateCredentialLabel account) field
      ("credential service and account must be non-empty, bounded, and contain no control " ++
        "characters")
  | .environment name =>
    validating (validateEnvName name) field ("invalid environment variable: " ++ name)
  | .prompt => .ok ()

def DeviceProfile.validate (profile : DeviceProfile) : Except StoreError Unit := do
  profile.transport.validate
  profile.transportOverrides.forM TransportOverrides.validate
  profile.secret.forM (SecretRef.validate "device_profiles.secret")

def TimeoutSettings.validate (timeout : TimeoutSettings) : Except StoreError Unit :=
  validating (isOperationTimeout timeout.connectTimeoutMs &&
      isOperationTimeout timeout.requestTimeoutMs && isOperationTimeout timeout.retryTimeoutMs)
    "timeout" "all timeout values must be between 1 and 86400000 milliseconds"

def HistorySettings.validate (history : HistorySettings) : Except StoreError Unit :=
  validating (history.maxMessages ≠ 0 && history.maxMessages ≤ 100000)
    "history.max_messages" "must be between 1 and 100000"

/-- `From` for the policies of the hook runtime. -/
def HookFailurePolicy.into : HookFailurePolicy → Hooks.FailurePolicy
  | .openPolicy => .openPolicy
  | .closedPolicy => .closedPolicy

def HookEnvironmentPolicy.into : HookEnvironmentPolicy → Hooks.EnvironmentPolicy
  | .clear => .clear
  | .safeInherited => .safeInherited
  | .allowList names => .allowList names

/-- `runtime_config`: what the runtime refuses is reported with the runtime's own message. -/
def HookSettings.runtimeConfig (hook : HookSettings) : Except StoreError (Option HookConfig) := do
  if !hook.enabled then return none
  let script ← (hook.script.elim (.error (.validation "hook.script"
    "required when hook.enabled is true")) .ok : Except StoreError String)
  let config : HookConfig :=
    { script
      timeoutMs := hook.timeoutMs
      maxConcurrency := hook.maxConcurrency
      environment := hook.environment.into
      observationalFailure := hook.observationalFailure.into
      beforeSendFailure := hook.beforeSendFailure.into }
  let _ ← (HookRuntime.new config).mapError fun error => .validation "hook" error.display
  return some config

def HookSettings.validate (hook : HookSettings) : Except StoreError Unit := do
  validating (!hook.enabled || hook.script.isSome) "hook.script"
    "required when hook.enabled is true"
  validating (hook.pythonExecutable ≠ "") "hook.python_executable" "must not be empty"
  validating (isOperationTimeout hook.timeoutMs && hook.maxConcurrency ≠ 0) "hook"
    "timeout must be between 1 and 86400000 milliseconds and concurrency must be positive"
  if hook.enabled then let _ ← hook.runtimeConfig

/-- The message of an error of the gateway's configuration. -/
def displayMqttConfigError : MqttConfigError → String
  | .invalidField error =>
    "invalid MQTT configuration field `" ++ error.field ++ "`: " ++ error.message
  | .tlsFile field path reason =>
    "invalid TLS " ++ field ++ " file `" ++ path ++ "`: " ++ reason

def MqttSettings.validate (read : ReadFile) (mqtt : MqttSettings) : Except StoreError Unit := do
  (mqtt.gateway.validate read).mapError fun error =>
    .validation "mqtt.gateway" (displayMqttConfigError error)
  mqtt.password.forM (SecretRef.validate "mqtt.password")
  validating (mqtt.gateway.username.isSome = mqtt.password.isSome) "mqtt.credentials"
    "username and password reference must be configured together"

def QueueSettings.validate (queues : QueueSettings) : Except StoreError Unit :=
  validating
    ([queues.inboundCapacity, queues.outboundCapacity, queues.eventCapacity].all fun capacity =>
      capacity ≠ 0 && capacity ≤ 1000000)
    "queues" "invalid queue capacity"

/-- The names and settings of the profiles, in the order of the names. -/
def validateProfiles : List (String × DeviceProfile) → Except StoreError Unit
  | [] => .ok ()
  | (name, profile) :: rest => do
    validating (validateIdentifier name) "device_profiles" ("invalid profile name: " ++ name)
    profile.validate
    validateProfiles rest

theorem validateProfiles_ok {profiles : List (String × DeviceProfile)} :
    validateProfiles profiles = .ok () ↔
      ∀ entry ∈ profiles, validateIdentifier entry.1 = true ∧ entry.2.validate = .ok () := by
  induction profiles with
  | nil => exact iff_of_true rfl nofun
  | cons first rest ih =>
    rw [validateProfiles, check_ok, check_ok, validating_ok, ih, List.forall_mem_cons, and_assoc]

/-- The default profile is one of the profiles. -/
def validateDefaultProfile (profiles : OrderedMap String DeviceProfile) (name : String) :
    Except StoreError Unit := do
  validating (validateIdentifier name) "default_profile" "invalid profile name"
  validating (profiles.contains name) "default_profile"
    "default profile missing from device_profiles"

theorem validateDefaultProfile_ok {profiles : OrderedMap String DeviceProfile} {name : String} :
    validateDefaultProfile profiles name = .ok () ↔
      validateIdentifier name = true ∧ profiles.contains name = true := by
  rw [validateDefaultProfile, check_ok, validating_ok, validating_ok]

def Config.validate (read : ReadFile) (config : Config) : Except StoreError Unit := do
  validateProfiles config.deviceProfiles.entries
  config.defaultProfile.forM (validateDefaultProfile config.deviceProfiles)
  config.timeout.validate
  config.history.validate
  config.hook.validate
  config.mqtt.validate read
  config.queues.validate

/-- The default configuration passes its own checks. -/
theorem Config.validate_default (read : ReadFile) : ({} : Config).validate read = .ok () :=
  rfl

/-! ## Overrides from the environment -/

variable (raw field : String)

def parseU64 : Except StoreError Nat :=
  match parseUnsigned 0xffffffffffffffff raw with
  | some value => .ok value
  | none => .error (.validation field "invalid unsigned integer")

def parseU32 : Except StoreError UInt32 :=
  match parseUnsigned 4294967295 raw with
  | some value => .ok (UInt32.ofNat value)
  | none => .error (.validation field "invalid unsigned integer")

def parseU16 : Except StoreError UInt16 :=
  match parseUnsigned 65535 raw with
  | some value => .ok (UInt16.ofNat value)
  | none => .error (.validation field "invalid port")

def parseBool : Except StoreError Bool :=
  let lower := String.ofList (raw.toList.map Char.toLower)
  if lower ∈ ["1", "true", "yes", "on"] then .ok true
  else if lower ∈ ["0", "false", "no", "off"] then .ok false
  else .error (.validation field "invalid bool")

/-- One variable of the environment. -/
def applyEnvOverride (config : Config) (key value : String) : Except StoreError Config :=
  match key with
  | "MESHQUILL_DEFAULT_PROFILE" => .ok { config with defaultProfile := some value }
  | "MESHQUILL_TIMEOUT_CONNECT_MS" => do
    return { config with timeout.connectTimeoutMs := ← parseU64 value key }
  | "MESHQUILL_TIMEOUT_REQUEST_MS" => do
    return { config with timeout.requestTimeoutMs := ← parseU64 value key }
  | "MESHQUILL_TIMEOUT_RETRY_MS" => do
    return { config with timeout.retryTimeoutMs := ← parseU64 value key }
  | "MESHQUILL_HISTORY_ENABLED" => do
    return { config with history.enabled := ← parseBool value key }
  | "MESHQUILL_HISTORY_MAX_MESSAGES" => do
    return { config with history.maxMessages := ← parseU32 value key }
  | "MESHQUILL_HOOK_ENABLED" => do
    return { config with hook.enabled := ← parseBool value key }
  | "MESHQUILL_HOOK_SCRIPT" => .ok { config with hook.script := some value }
  | "MESHQUILL_MQTT_ENABLED" => do
    return { config with mqtt.enabled := ← parseBool value key }
  | "MESHQUILL_MQTT_BROKER" => .ok { config with mqtt.gateway.host := value }
  | "MESHQUILL_MQTT_PORT" => do
    return { config with mqtt.gateway.port := ← parseU16 value key }
  | "MESHQUILL_MQTT_TOPIC_PREFIX" => .ok { config with mqtt.gateway.topicPrefix := value }
  | "MESHQUILL_QUEUES_INBOUND" => do
    return { config with queues.inboundCapacity := ← parseU32 value key }
  | "MESHQUILL_QUEUES_OUTBOUND" => do
    return { config with queues.outboundCapacity := ← parseU32 value key }
  | "MESHQUILL_QUEUES_EVENT" => do
    return { config with queues.eventCapacity := ← parseU32 value key }
  | _ => .ok config

/-- The variables in the order in which the map lists them. -/
def applyEnvOverrides (config : Config) : List (String × String) → Except StoreError Config
  | [] => .ok config
  | (key, value) :: rest => do applyEnvOverrides (← applyEnvOverride config key value) rest

theorem deviceProfiles_applyEnvOverride {config overridden : Config} {key value : String}
    (applied : applyEnvOverride config key value = .ok overridden) :
    overridden.deviceProfiles = config.deviceProfiles := by
  unfold applyEnvOverride at applied
  split at applied
  all_goals first
    | cases applied; rfl
    | obtain ⟨_, -, returned⟩ := Checks.bind_ok.mp applied; cases returned; rfl

/-- The environment cannot change the profiles. -/
theorem deviceProfiles_applyEnvOverrides {config overridden : Config}
    {overrides : List (String × String)}
    (applied : applyEnvOverrides config overrides = .ok overridden) :
    overridden.deviceProfiles = config.deviceProfiles := by
  induction overrides generalizing config with
  | nil =>
    cases applied
    rfl
  | cons first rest ih =>
    obtain ⟨middle, once, later⟩ := Checks.bind_ok.mp applied
    rw [ih later, deviceProfiles_applyEnvOverride once]

end Meshquill.Store
