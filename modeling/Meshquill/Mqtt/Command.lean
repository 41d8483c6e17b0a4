import Meshquill.Checks
import Meshquill.Mqtt.Config

/-!
# Commands from the broker

The security gate of `command.rs`. A publication passes when sends are enabled, its topic, size
and envelope check, and its command is one of two kinds within the configured limits; only then
its event ID is looked up and remembered. The JSON decoder is a parameter.

`Admitted` lists what an accepted publication has passed, in terms of the configuration.
-/
namespace Meshquill.Mqtt

open Checks

inductive SendCommand where
  | direct (destination text : String)
  | channel (channel : UInt8) (text : String)
deriving DecidableEq

structure AcceptedCommand where
  eventId : Uuid
  origin : String
  timestamp : Nat
  command : SendCommand
deriving DecidableEq

inductive CommandError where
  | config (error : MqttConfigError)
  | dedupe (error : DedupeError)
  | sendDisabled
  | unexpectedTopic
  | invalidTopicEncoding
  | retainedCommand
  | emptyPayload
  | payloadTooLarge (actual maximum : Nat)
  | invalidJson (message : String)
  | unsupportedSchema
  | nilEventId
  | invalidOrigin
  | localOriginLoop
  | dataMustBeObject
  | unsupportedCommand
  | invalidCommandData (message : String)
  | invalidDestination
  | destinationTooLong (actual maximum : Nat)
  | channelOutOfRange (channel maximum : UInt8)
  | invalidText
  | textTooLong (actual maximum : Nat)
  | duplicateEvent
deriving DecidableEq

/-- `CommandEnvelope`, with the data that is decoded later. -/
structure CommandEnvelope (ν : Type) where
  schema : String
  eventId : Uuid
  origin : String
  timestamp : Nat
  kind : String
  data : ν

structure DirectData where
  destination : String
  text : String

structure ChannelData where
  channel : UInt8
  text : String

/-- What `serde_json` does with a payload: the envelope, and then its data. -/
structure JsonDecoder (ν : Type) where
  envelope : Bytes → Except String (CommandEnvelope ν)
  isObject : ν → Bool
  direct : ν → Except String DirectData
  channel : ν → Except String ChannelData

/-! ## Limits -/

/-- A check that fails with this error. -/
def refuse (condition : Prop) [Decidable condition] (error : CommandError) :
    Except CommandError Unit :=
  if condition then .error error else .ok ()

def validateDestination (destination : String) (maximum : Nat) : Except CommandError Unit := do
  refuse (destination = "" ∨ ¬ isTrimmed destination) .invalidDestination
  refuse (maximum < destination.utf8ByteSize) (.destinationTooLong destination.utf8ByteSize maximum)
  refuse (destination.toList.any isControl) .invalidDestination

def validateText (text : String) (maximum : Nat) : Except CommandError Unit := do
  refuse (text = "" ∨ text.toList.contains (Char.ofNat 0)) .invalidText
  refuse (maximum < text.utf8ByteSize) (.textTooLong text.utf8ByteSize maximum)

def validateSendCommand (command : SendCommand) (limits : CommandLimits) :
    Except CommandError Unit := do
  match command with
  | .direct destination text =>
    validateDestination destination limits.maxDestinationBytes
    validateText text limits.maxTextBytes
  | .channel channel text =>
    refuse (limits.maxChannel < channel) (.channelOutOfRange channel limits.maxChannel)
    validateText text limits.maxTextBytes

/-- A text within the limits. -/
structure TextWithin (limits : CommandLimits) (text : String) : Prop where
  nonempty : text ≠ ""
  noNul : Char.ofNat 0 ∉ text.toList
  short : text.utf8ByteSize ≤ limits.maxTextBytes

/-- A destination within the limits. -/
structure DestinationWithin (limits : CommandLimits) (destination : String) : Prop where
  nonempty : destination ≠ ""
  trimmed : isTrimmed destination
  short : destination.utf8ByteSize ≤ limits.maxDestinationBytes
  noControl : ∀ value ∈ destination.toList, isControl value = false

/-- A command within the limits. -/
def SendCommand.Within (limits : CommandLimits) : SendCommand → Prop
  | .direct destination text => DestinationWithin limits destination ∧ TextWithin limits text
  | .channel index text => index ≤ limits.maxChannel ∧ TextWithin limits text

section Limits

variable {limits : CommandLimits}

theorem refuse_ok {condition : Prop} [Decidable condition] {error : CommandError} :
    refuse condition error = .ok () ↔ ¬ condition := by
  unfold refuse
  split
  · rename_i holds
    exact ⟨nofun, fun fails => absurd holds fails⟩
  · rename_i fails
    exact ⟨fun _ => fails, fun _ => rfl⟩

theorem validateText_ok {text : String} :
    validateText text limits.maxTextBytes = .ok () ↔ TextWithin limits text := by
  rw [validateText, check_ok, refuse_ok, refuse_ok, not_or, List.contains_iff_mem, Nat.not_lt]
  constructor
  · rintro ⟨⟨nonempty, noNul⟩, short⟩
    exact ⟨nonempty, noNul, short⟩
  · rintro ⟨nonempty, noNul, short⟩
    exact ⟨⟨nonempty, noNul⟩, short⟩

theorem validateDestination_ok {destination : String} :
    validateDestination destination limits.maxDestinationBytes = .ok () ↔
      DestinationWithin limits destination := by
  rw [validateDestination, check_ok, check_ok, refuse_ok, refuse_ok, refuse_ok, not_or, not_not,
    Nat.not_lt, List.any_eq_true, not_exists]
  constructor
  · rintro ⟨⟨nonempty, trimmed⟩, short, noControl⟩
    refine ⟨nonempty, trimmed, short, fun value inside => ?_⟩
    exact Bool.eq_false_iff.mpr fun control => noControl value ⟨inside, control⟩
  · rintro ⟨nonempty, trimmed, short, noControl⟩
    refine ⟨⟨nonempty, trimmed⟩, short, ?_⟩
    rintro value ⟨inside, control⟩
    exact absurd control (by rw [noControl value inside]; exact Bool.false_ne_true)

/-- The check accepts exactly the commands within the limits. -/
theorem validateSendCommand_ok {command : SendCommand} :
    validateSendCommand command limits = .ok () ↔ command.Within limits := by
  cases command with
  | direct destination text =>
    rw [validateSendCommand, check_ok, validateDestination_ok, validateText_ok]
    exact Iff.rfl
  | channel channel text =>
    rw [validateSendCommand, check_ok, refuse_ok, validateText_ok, UInt8.not_lt]
    exact Iff.rfl

end Limits

/-! ## The processor -/

structure CommandProcessor where
  allowSend : Bool
  outboundTopic : String
  localOrigin : String
  maxPayloadBytes : Nat
  limits : CommandLimits
  dedupe : EventIdDedupe

/-- `schema::validate_origin`. -/
def validateOrigin (origin : String) : Bool :=
  origin ≠ "" && origin.utf8ByteSize ≤ 128 && isTrimmed origin && !origin.toList.any isControl

/-- The allowlist of `process_at`. -/
def readCommand {ν : Type} (decoder : JsonDecoder ν) (kind : String) (data : ν) :
    Except CommandError SendCommand :=
  if kind = "send_direct" then
    match decoder.direct data with
    | .ok data => .ok (.direct data.destination data.text)
    | .error message => .error (.invalidCommandData message)
  else if kind = "send_channel" then
    match decoder.channel data with
    | .ok data => .ok (.channel data.channel data.text)
    | .error message => .error (.invalidCommandData message)
  else .error .unsupportedCommand

namespace CommandProcessor

def new (read : ReadFile) (config : MqttConfig) : Except CommandError CommandProcessor := do
  (config.validate read).mapError .config
  let topics ← (TopicSet.new config.topicPrefix).mapError .config
  let dedupe ← (EventIdDedupe.new config.dedupe.capacity
    (Duration.seconds config.dedupe.ttlSecs)).mapError .dedupe
  return {
    allowSend := config.allowSend
    outboundTopic := topics.outboundSend
    localOrigin := config.origin
    maxPayloadBytes := config.maxPayloadBytes
    limits := config.commandLimits
    dedupe }

variable {ν : Type} (decoder : JsonDecoder ν)

/-- The checks of `process_at` before it looks at its cache. -/
def examine (processor : CommandProcessor) (topic : String) (payload : Bytes) :
    Except CommandError AcceptedCommand := do
  refuse (processor.allowSend = false) .sendDisabled
  refuse (topic ≠ processor.outboundTopic) .unexpectedTopic
  refuse (payload = []) .emptyPayload
  refuse (processor.maxPayloadBytes < payload.length)
    (.payloadTooLarge payload.length processor.maxPayloadBytes)
  let envelope ← (decoder.envelope payload).mapError .invalidJson
  refuse (envelope.schema ≠ schemaVersion) .unsupportedSchema
  refuse (envelope.eventId = 0) .nilEventId
  refuse (¬ validateOrigin envelope.origin) .invalidOrigin
  refuse (envelope.origin = processor.localOrigin) .localOriginLoop
  refuse (¬ decoder.isObject envelope.data) .dataMustBeObject
  let command ← readCommand decoder envelope.kind envelope.data
  validateSendCommand command processor.limits
  return {
    eventId := envelope.eventId, origin := envelope.origin, timestamp := envelope.timestamp
    command }

def processAt (processor : CommandProcessor) (topic : String) (payload : Bytes)
    (now : Instant) : Except CommandError AcceptedCommand × CommandProcessor :=
  match processor.examine decoder topic payload with
  | .error error => (.error error, processor)
  | .ok accepted =>
    match processor.dedupe.checkAndInsertAt accepted.eventId now with
    | (.duplicate, dedupe) => (.error .duplicateEvent, { processor with dedupe })
    | (.fresh, dedupe) => (.ok accepted, { processor with dedupe })

end CommandProcessor

/-- `NetworkNotice::Publish`. -/
structure Publish where
  topic : Bytes
  payload : Bytes
  retain : Bool

/-- `handle_network_notice` on an inbound publication: the command that it sends on, or the
rejection. -/
def CommandProcessor.handlePublish {ν : Type} (decoder : JsonDecoder ν)
    (processor : CommandProcessor) (publish : Publish) (now : Instant) :
    Except CommandError AcceptedCommand × CommandProcessor :=
  if publish.retain then (.error .retainedCommand, processor)
  else
    match fromUtf8 publish.topic with
    | none => (.error .invalidTopicEncoding, processor)
    | some topic => processor.processAt decoder topic publish.payload now

/-! ## What an accepted publication has passed -/

/-- The topic that a configuration subscribes to. -/
def MqttConfig.outboundTopic (config : MqttConfig) : String :=
  config.topicPrefix ++ "/" ++ schemaVersion ++ "/outbound/send"

/-- A decoded envelope that a gateway may accept, with its command. -/
structure EnvelopeAdmitted {ν : Type} (decoder : JsonDecoder ν) (config : MqttConfig)
    (envelope : CommandEnvelope ν) (command : SendCommand) : Prop where
  schema : envelope.schema = schemaVersion
  eventId : envelope.eventId ≠ 0
  validOrigin : validateOrigin envelope.origin
  foreignOrigin : envelope.origin ≠ config.origin
  object : decoder.isObject envelope.data
  allowlisted : envelope.kind = "send_direct" ∨ envelope.kind = "send_channel"
  decoded : readCommand decoder envelope.kind envelope.data = .ok command

/-- A publication that a gateway may accept as this command. -/
structure Admitted {ν : Type} (decoder : JsonDecoder ν) (config : MqttConfig) (publish : Publish)
    (accepted : AcceptedCommand) : Prop where
  enabled : config.allowSend = true
  live : publish.retain = false
  topic : fromUtf8 publish.topic = some config.outboundTopic
  nonempty : publish.payload ≠ []
  size : publish.payload.length ≤ config.maxPayloadBytes
  envelope : ∃ envelope, decoder.envelope publish.payload = .ok envelope ∧
    EnvelopeAdmitted decoder config envelope accepted.command ∧
    accepted.eventId = envelope.eventId ∧ accepted.origin = envelope.origin ∧
    accepted.timestamp = envelope.timestamp
  limits : accepted.command.Within config.commandLimits

/-- The processor has the settings of the configuration. -/
structure CommandProcessor.Configured (config : MqttConfig) (processor : CommandProcessor) :
    Prop where
  allowSend : processor.allowSend = config.allowSend
  outboundTopic : processor.outboundTopic = config.outboundTopic
  localOrigin : processor.localOrigin = config.origin
  maxPayloadBytes : processor.maxPayloadBytes = config.maxPayloadBytes
  limits : processor.limits = config.commandLimits

namespace CommandProcessor

variable {ν : Type} {decoder : JsonDecoder ν} {config : MqttConfig} {processor : CommandProcessor}
  {publish : Publish} {accepted : AcceptedCommand} {now : Instant}

theorem topic_new {topicPrefix : String} {topics : TopicSet}
    (created : TopicSet.new topicPrefix = .ok topics) :
    topics.outboundSend = topicPrefix ++ "/" ++ schemaVersion ++ "/outbound/send" := by
  unfold TopicSet.new at created
  cases checked : validateTopicPrefix topicPrefix with
  | error error =>
    rw [checked] at created
    cases created
  | ok =>
    rw [checked] at created
    cases created
    rfl

/-- A processor starts with the settings of its configuration and an empty cache. -/
theorem configured_new {read : ReadFile} (created : new read config = .ok processor) :
    processor.Configured config ∧ EventIdDedupe.new config.dedupe.capacity
      (Duration.seconds config.dedupe.ttlSecs) = .ok processor.dedupe := by
  unfold new at created
  obtain ⟨_, -, created⟩ := bind_ok.mp created
  obtain ⟨topics, named, created⟩ := bind_ok.mp created
  obtain ⟨dedupe, cached, created⟩ := bind_ok.mp created
  cases created
  exact ⟨⟨rfl, topic_new (mapError_ok.mp named), rfl, rfl, rfl⟩, mapError_ok.mp cached⟩

theorem readCommand_allowlisted {kind : String} {data : ν} {command : SendCommand}
    (decoded : readCommand decoder kind data = .ok command) :
    kind = "send_direct" ∨ kind = "send_channel" := by
  unfold readCommand at decoded
  split at decoded
  · rename_i same
    exact .inl same
  · split at decoded
    · rename_i same
      exact .inr same
    · cases decoded

/-- What passes the checks is admitted. -/
theorem examine_admits (configured : processor.Configured config) (live : publish.retain = false)
    {topic : String} (decoded : fromUtf8 publish.topic = some topic)
    (examined : processor.examine decoder topic publish.payload = .ok accepted) :
    Admitted decoder config publish accepted := by
  unfold examine at examined
  simp only [check_ok, refuse_ok, Bool.not_eq_false, not_not, Nat.not_lt] at examined
  obtain ⟨enabled, named, nonempty, size, examined⟩ := examined
  obtain ⟨envelope, parsed, examined⟩ := bind_ok.mp examined
  simp only [check_ok, refuse_ok, not_not] at examined
  obtain ⟨schema, eventId, validOrigin, foreignOrigin, object, examined⟩ := examined
  obtain ⟨command, allowed, examined⟩ := bind_ok.mp examined
  obtain ⟨within, returned⟩ := check_ok.mp examined
  cases returned
  rw [validateSendCommand_ok, configured.limits] at within
  rw [configured.localOrigin] at foreignOrigin
  exact {
    enabled := configured.allowSend.symm.trans enabled
    live
    topic := by rw [decoded, named, configured.outboundTopic]
    nonempty
    size := configured.maxPayloadBytes ▸ size
    envelope := ⟨envelope, mapError_ok.mp parsed,
      { schema, eventId, validOrigin, foreignOrigin, object, decoded := allowed
        allowlisted := readCommand_allowlisted allowed }, rfl, rfl, rfl⟩
    limits := within }

section Process

variable {topic : String} {payload : Bytes}

theorem processAt_of_error {error : CommandError}
    (examined : processor.examine decoder topic payload = .error error) :
    processor.processAt decoder topic payload now = (.error error, processor) := by
  unfold processAt
  rw [examined]

theorem processAt_of_duplicate
    (examined : processor.examine decoder topic payload = .ok accepted)
    (duplicate : (processor.dedupe.checkAndInsertAt accepted.eventId now).1 = .duplicate) :
    processor.processAt decoder topic payload now =
      (.error .duplicateEvent,
        { processor with dedupe := processor.dedupe.evictExpired now }) := by
  have call : processor.dedupe.checkAndInsertAt accepted.eventId now =
    (.duplicate, processor.dedupe.evictExpired now) :=
    Prod.ext duplicate (evicted_of_duplicate duplicate)
  unfold processAt
  rw [examined]
  simp only [call]

theorem processAt_of_fresh (examined : processor.examine decoder topic payload = .ok accepted)
    (fresh : (processor.dedupe.checkAndInsertAt accepted.eventId now).1 = .fresh) :
    processor.processAt decoder topic payload now =
      (.ok accepted, { processor with
        dedupe := (processor.dedupe.checkAndInsertAt accepted.eventId now).2 }) := by
  have call : processor.dedupe.checkAndInsertAt accepted.eventId now =
    (.fresh, (processor.dedupe.checkAndInsertAt accepted.eventId now).2) := Prod.ext fresh rfl
  unfold processAt
  rw [examined]
  dsimp only
  rw [call]

end Process

/-- A publication is rejected by the checks, or as a duplicate, or it is accepted. -/
theorem handlePublish_cases (configured : processor.Configured config) (decoder : JsonDecoder ν)
    (publish : Publish) (now : Instant) :
    (∃ error, processor.handlePublish decoder publish now = (.error error, processor)) ∨
    (∃ error, processor.handlePublish decoder publish now =
      (.error error, { processor with dedupe := processor.dedupe.evictExpired now })) ∨
    ∃ accepted, Admitted decoder config publish accepted ∧
      (processor.dedupe.checkAndInsertAt accepted.eventId now).1 = .fresh ∧
      processor.handlePublish decoder publish now =
        (.ok accepted, { processor with
          dedupe := (processor.dedupe.checkAndInsertAt accepted.eventId now).2 }) := by
  unfold handlePublish
  split
  · exact .inl ⟨_, rfl⟩
  · rename_i retained
    have live : publish.retain = false := Bool.eq_false_iff.mpr retained
    cases decoded : fromUtf8 publish.topic with
    | none => exact .inl ⟨_, rfl⟩
    | some topic =>
      cases examined : processor.examine decoder topic publish.payload with
      | error error => exact .inl ⟨error, processAt_of_error examined⟩
      | ok accepted =>
        right
        cases decision : (processor.dedupe.checkAndInsertAt accepted.eventId now).1 with
        | duplicate => exact .inl ⟨_, processAt_of_duplicate examined decision⟩
        | fresh =>
          exact .inr ⟨accepted, examine_admits configured live decoded examined, decision,
            processAt_of_fresh examined decision⟩

end CommandProcessor

end Meshquill.Mqtt
