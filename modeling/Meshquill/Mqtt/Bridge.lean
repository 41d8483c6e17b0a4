import Meshquill.Chat.Session
import Meshquill.Mqtt.Command

/-!
# From the broker to the radio

`execute_command_once` of `mqtt_cli.rs`, behind the gate. The runner checks each publication and
sends the accepted commands on; the bridge takes them in order, lets the `before_send` hook
modify each one, checks the limits once more and hands it to the companion. What the hook, the
history and the companion answer is an argument of the execution. The results of the calls that
only record a failed send are not used by the source and left out.

Publications and executions interleave in any order. Every transmission is recorded with the
publication that caused it, and so can be traced back to what the gate has checked
(`transmissions_admitted`).
-/
namespace Meshquill.Mqtt

/-- `MAX_PENDING_ACKS`. -/
def maxPendingAcks : Nat := 256

/-- A command that reaches the radio. -/
inductive RadioSend where
  | directText (destinationPrefix : Bytes) (attempt : UInt8) (text : String)
  | channelMessage (channel txtType : UInt8) (text : String)
deriving DecidableEq

structure BrokerCommandReport where
  eventId : Uuid
  command : String
  queued : Bool
  reason : Option String
deriving DecidableEq

structure PendingBrokerAck where
  messageId : String
  destination : String
  ackCode : AckCode
  deadline : Instant
deriving DecidableEq

structure BrokerCommandOutcome where
  report : BrokerCommandReport
  pending : Option PendingBrokerAck
deriving DecidableEq

/-- What the world answers to one execution, call by call. -/
structure CommandAnswers where
  lowercase : String → String := id
  prepareSend : Except CliError PreparedSend
  beginOutgoing : Except CliError String
  listContacts : Except CoreError (List Contact)
  sendDirectText : Except CoreError CommandTracking
  sendChannelMessage : Except CoreError Unit
  sent : Except CliError Unit
  now : Instant := 0

def brokerCommandOutcome (eventId : Uuid) (command : String) (queued : Bool)
    (reason : Option String) (pending : Option PendingBrokerAck) : BrokerCommandOutcome :=
  { report := { eventId, command, queued, reason }, pending }

def rejectedCommand (eventId : Uuid) (command reason : String) : BrokerCommandOutcome :=
  brokerCommandOutcome eventId command false (some reason) none

section Execution

variable (answers : CommandAnswers) (eventId : Uuid)

/-- `execute_direct_command` from its send on. -/
def sendDirect (prepared : PreparedSend) (messageId : String) (contact : Contact) :
    BrokerCommandOutcome × Option RadioSend :=
  let send := RadioSend.directText (contact.publicKey.val.take 6) 0 prepared.text
  match answers.sendDirectText with
  | .error _ => (rejectedCommand eventId "direct_send" "device_send_failed", some send)
  | .ok tracking =>
    let pending : PendingBrokerAck :=
      { messageId, destination := contact.advName, ackCode := tracking.ackCode
        deadline := answers.now + min (tracking.timeoutMs.toNat * 1000000) maxOperationTimeout }
    let reason := match answers.sent with
      | .ok () => none
      | .error _ => some "post_send_workflow_failed"
    (brokerCommandOutcome eventId "direct_send" true reason (some pending), some send)

/-- `execute_direct_command`: the outcome, and what reached the radio. -/
def executeDirectCommand (pendingCount : Nat) (limits : CommandLimits) :
    BrokerCommandOutcome × Option RadioSend :=
  let reject (reason : String) := (rejectedCommand eventId "direct_send" reason, none)
  if maxPendingAcks ≤ pendingCount then reject "local_pending_limit"
  else
    match answers.prepareSend with
    | .error _ => reject "before_send_rejected"
    | .ok prepared =>
      match validateSendCommand (.direct prepared.destination prepared.text) limits with
      | .error _ => reject "before_send_out_of_bounds"
      | .ok () =>
        match answers.beginOutgoing, answers.listContacts with
        | .error _, _ => reject "history_failed"
        | .ok _, .error _ => reject "device_unavailable"
        | .ok messageId, .ok contacts =>
          match resolveContact answers.lowercase contacts prepared.destination with
          | .error _ => reject "destination_not_found_or_ambiguous"
          | .ok contact => sendDirect answers eventId prepared messageId contact

/-- `execute_channel_command` from its send on. -/
def sendChannel (prepared : PreparedSend) (channel : UInt8) :
    BrokerCommandOutcome × Option RadioSend :=
  let send := RadioSend.channelMessage channel 0 prepared.text
  match answers.sendChannelMessage, answers.sent with
  | .error _, _ => (rejectedCommand eventId "channel_send" "device_send_failed", some send)
  | .ok (), .error _ =>
    (brokerCommandOutcome eventId "channel_send" true (some "post_send_workflow_failed") none,
      some send)
  | .ok (), .ok () => (brokerCommandOutcome eventId "channel_send" true none none, some send)

/-- `execute_channel_command`. -/
def executeChannelCommand (limits : CommandLimits) : BrokerCommandOutcome × Option RadioSend :=
  let reject (reason : String) := (rejectedCommand eventId "channel_send" reason, none)
  match answers.prepareSend with
  | .error _ => reject "before_send_rejected"
  | .ok prepared =>
    match parseU8 prepared.destination with
    | none => reject "before_send_rejected"
    | some channel =>
      match validateSendCommand (.channel channel prepared.text) limits with
      | .error _ => reject "before_send_out_of_bounds"
      | .ok () =>
        match answers.beginOutgoing with
        | .error _ => reject "history_failed"
        | .ok _ => sendChannel answers eventId prepared channel

end Execution

def executeCommandOnce (answers : CommandAnswers) (accepted : AcceptedCommand)
    (pendingCount : Nat) (limits : CommandLimits) : BrokerCommandOutcome × Option RadioSend :=
  match accepted.command with
  | .direct _ _ => executeDirectCommand answers accepted.eventId pendingCount limits
  | .channel _ _ => executeChannelCommand answers accepted.eventId limits

/-! ## What reaches the radio -/

/-- The command after the hook has modified its destination and text. -/
def SendCommand.modified (prepared : PreparedSend) : SendCommand → Option SendCommand
  | .direct _ _ => some (.direct prepared.destination prepared.text)
  | .channel _ _ => (parseU8 prepared.destination).map (SendCommand.channel · prepared.text)

/-- The radio is handed this command: its text, to the contact that its destination names or to
its channel. -/
def RadioSend.Carries (answers : CommandAnswers) : RadioSend → SendCommand → Prop
  | .directText destinationPrefix attempt text, .direct destination commanded =>
    text = commanded ∧ attempt = 0 ∧ ∃ contacts contact, answers.listContacts = .ok contacts ∧
      resolveContact answers.lowercase contacts destination = .ok contact ∧
      destinationPrefix = contact.publicKey.val.take 6
  | .channelMessage channel txtType text, .channel selected commanded =>
    text = commanded ∧ txtType = 0 ∧ channel = selected
  | _, _ => False

section Sent

variable {answers : CommandAnswers} {eventId : Uuid} {limits : CommandLimits} {send : RadioSend}

theorem snd_sendDirect (prepared : PreparedSend) (messageId : String) (contact : Contact) :
    (sendDirect answers eventId prepared messageId contact).2 =
      some (.directText (contact.publicKey.val.take 6) 0 prepared.text) := by
  unfold sendDirect
  cases answers.sendDirectText with
  | error | ok => rfl

theorem snd_sendChannel (prepared : PreparedSend) (channel : UInt8) :
    (sendChannel answers eventId prepared channel).2 =
      some (.channelMessage channel 0 prepared.text) := by
  unfold sendChannel
  cases answers.sendChannelMessage with
  | error error => rfl
  | ok => cases answers.sent <;> rfl

theorem executeDirectCommand_sends {pendingCount : Nat}
    (sent : (executeDirectCommand answers eventId pendingCount limits).2 = some send) :
    ∃ prepared, answers.prepareSend = .ok prepared ∧
      (SendCommand.direct prepared.destination prepared.text).Within limits ∧
      send.Carries answers (.direct prepared.destination prepared.text) := by
  unfold executeDirectCommand at sent
  split at sent
  · cases sent
  split at sent
  · cases sent
  rename_i prepared hook
  split at sent
  · cases sent
  rename_i checked
  split at sent
  · cases sent
  · cases sent
  rename_i messageId contacts _ listed
  split at sent
  · cases sent
  rename_i contact resolved
  rw [snd_sendDirect] at sent
  obtain rfl := Option.some.inj sent
  exact ⟨prepared, hook, validateSendCommand_ok.mp checked, rfl, rfl, contacts, contact, listed,
    resolved, rfl⟩

theorem executeChannelCommand_sends
    (sent : (executeChannelCommand answers eventId limits).2 = some send) :
    ∃ prepared channel, answers.prepareSend = .ok prepared ∧
      parseU8 prepared.destination = some channel ∧
      (SendCommand.channel channel prepared.text).Within limits ∧
      send.Carries answers (.channel channel prepared.text) := by
  unfold executeChannelCommand at sent
  split at sent
  · cases sent
  rename_i prepared hook
  split at sent
  · cases sent
  rename_i channel parsed
  split at sent
  · cases sent
  rename_i checked
  split at sent
  · cases sent
  rw [snd_sendChannel] at sent
  obtain rfl := Option.some.inj sent
  exact ⟨prepared, channel, hook, parsed, validateSendCommand_ok.mp checked, rfl, rfl, rfl⟩

/-- Whatever an execution hands to the radio is the modified command, within the limits. -/
theorem executeCommandOnce_sends {accepted : AcceptedCommand} {pendingCount : Nat}
    (sent : (executeCommandOnce answers accepted pendingCount limits).2 = some send) :
    ∃ prepared command, answers.prepareSend = .ok prepared ∧
      accepted.command.modified prepared = some command ∧ command.Within limits ∧
      send.Carries answers command := by
  unfold executeCommandOnce at sent
  split at sent
  · rename_i original
    obtain ⟨prepared, hook, within, carried⟩ := executeDirectCommand_sends sent
    exact ⟨prepared, _, hook, by rw [original]; rfl, within, carried⟩
  · rename_i original
    obtain ⟨prepared, channel, hook, parsed, within, carried⟩ := executeChannelCommand_sends sent
    refine ⟨prepared, _, hook, ?_, within, carried⟩
    rw [original, SendCommand.modified, parsed]
    rfl

end Sent

/-! ## Runs -/

/-- A command that reached the radio, with its publication and the answers of its execution. -/
structure Transmission where
  publish : Publish
  accepted : AcceptedCommand
  answers : CommandAnswers
  send : RadioSend

/-- The gate, the commands on their way to the bridge, and what has reached the radio. -/
structure Bridged where
  processor : CommandProcessor
  commands : List (Publish × AcceptedCommand) := []
  transmissions : List Transmission := []

inductive BridgeAction where
  /-- The runner handles a publication at this time. -/
  | receive (publish : Publish) (now : Instant)
  /-- The bridge executes the next command. -/
  | execute (answers : CommandAnswers) (pendingCount : Nat)

/-- The time of a publication. -/
def BridgeAction.time : BridgeAction → Option Instant
  | .receive _ now => some now
  | .execute _ _ => none

namespace Bridged

variable {ν : Type} (decoder : JsonDecoder ν) (limits : CommandLimits)

/-- The bridge and what one command sent. -/
def transmit (bridged : Bridged) (publish : Publish) (accepted : AcceptedCommand)
    (answers : CommandAnswers) : Option RadioSend → Bridged
  | none => bridged
  | some send =>
    { bridged with
      transmissions := { publish, accepted, answers, send } :: bridged.transmissions }

/-- The runner sends an accepted command on. -/
def receive (bridged : Bridged) (publish : Publish) (now : Instant) : Bridged :=
  match bridged.processor.handlePublish decoder publish now with
  | (.ok accepted, processor) =>
    { bridged with processor, commands := bridged.commands ++ [(publish, accepted)] }
  | (.error _, processor) => { bridged with processor }

/-- The bridge executes the next command. -/
def execute (bridged : Bridged) (answers : CommandAnswers) (pendingCount : Nat) : Bridged :=
  match bridged.commands with
  | [] => bridged
  | (publish, accepted) :: commands =>
    { bridged with commands }.transmit publish accepted answers
      (executeCommandOnce answers accepted pendingCount limits).2

def step (bridged : Bridged) : BridgeAction → Bridged
  | .receive publish now => bridged.receive decoder publish now
  | .execute answers pendingCount => bridged.execute limits answers pendingCount

def run (bridged : Bridged) (actions : List BridgeAction) : Bridged :=
  actions.foldl (step decoder limits) bridged

/-- The processor after a publication. -/
theorem processor_receive {ν : Type} (decoder : JsonDecoder ν) (bridged : Bridged)
    (publish : Publish) (now : Instant) : (bridged.receive decoder publish now).processor =
      (bridged.processor.handlePublish decoder publish now).2 := by
  unfold receive
  rcases bridged.processor.handlePublish decoder publish now with ⟨error | accepted, processor⟩
  · rfl
  · rfl

/-- An execution does not touch the gate. -/
theorem processor_execute (limits : CommandLimits) (bridged : Bridged) (answers : CommandAnswers)
    (pendingCount : Nat) :
    (bridged.execute limits answers pendingCount).processor = bridged.processor := by
  unfold execute
  rcases bridged.commands with _ | ⟨⟨publish, accepted⟩, commands⟩
  · rfl
  · cases sent : (executeCommandOnce answers accepted pendingCount limits).2 with
    | none | some =>
      simp only [sent]
      rfl

end Bridged

/-- A transmission whose publication was admitted, and whose command the hook left within the
limits. -/
structure Sanctioned {ν : Type} (decoder : JsonDecoder ν) (config : MqttConfig)
    (transmission : Transmission) : Prop where
  admitted : Admitted decoder config transmission.publish transmission.accepted
  executed : ∃ prepared command, transmission.answers.prepareSend = .ok prepared ∧
    transmission.accepted.command.modified prepared = some command ∧
    command.Within config.commandLimits ∧ transmission.send.Carries transmission.answers command

/-- What holds between two steps, the last publication having come no later than this. -/
structure Guarded {ν : Type} (decoder : JsonDecoder ν) (config : MqttConfig) (time : Instant)
    (bridged : Bridged) : Prop where
  configured : bridged.processor.Configured config
  tracked : ∃ log last, last ≤ time ∧ Tracks bridged.processor.dedupe log last
  commands : ∀ command ∈ bridged.commands, Admitted decoder config command.1 command.2
  transmissions : ∀ transmission ∈ bridged.transmissions, Sanctioned decoder config transmission

section Guarded

variable {ν : Type} {decoder : JsonDecoder ν} {config : MqttConfig} {bridged : Bridged}
  {time now : Instant}

theorem guarded_start {read : ReadFile} {processor : CommandProcessor}
    (created : CommandProcessor.new read config = .ok processor) :
    Guarded decoder config 0 { processor } := by
  obtain ⟨configured, cached⟩ := CommandProcessor.configured_new created
  obtain ⟨-, -, tracks⟩ := Tracks.of_new cached
  refine ⟨configured, ⟨[], 0, Nat.le_refl 0, tracks⟩, ?_, ?_⟩
  · intro command inside
    cases inside
  · intro transmission inside
    cases inside

section Turns

variable (guarded : Guarded decoder config time bridged)

include guarded

theorem Guarded.later (grows : time ≤ now) :
    Guarded decoder config now bridged := by
  obtain ⟨log, last, before, tracks⟩ := guarded.tracked
  exact { guarded with tracked := ⟨log, last, before.trans grows, tracks⟩ }

/-- The runner handles a publication. -/
theorem Guarded.receive (grows : time ≤ now)
    (publish : Publish) :
    Guarded decoder config now (bridged.receive decoder publish now) := by
  obtain ⟨log, last, before, tracks⟩ := guarded.tracked
  have past := before.trans grows
  unfold Bridged.receive
  rcases bridged.processor.handlePublish_cases guarded.configured decoder publish now with
    ⟨error, handled⟩ | ⟨error, handled⟩ | ⟨accepted, admitted, fresh, handled⟩
  · rw [handled]
    exact guarded.later grows
  · rw [handled]
    exact { guarded with
      configured := { guarded.configured with }
      tracked := ⟨log, now, Nat.le_refl now, tracks.evictExpired past⟩ }
  · rw [handled]
    refine { guarded with configured := { guarded.configured with }, tracked := ?_, commands := ?_ }
    · exact ⟨_, now, Nat.le_refl now, tracks.checkAndInsertAt past accepted.eventId⟩
    · intro command inside
      rcases List.mem_append.mp inside with earlier | last
      · exact guarded.commands command earlier
      · rw [List.mem_singleton.mp last]
        exact admitted

/-- The bridge executes a command. -/
theorem Guarded.execute
    (answers : CommandAnswers) (pendingCount : Nat) :
    Guarded decoder config time (bridged.execute config.commandLimits answers pendingCount) := by
  unfold Bridged.execute
  cases queued : bridged.commands with
  | nil => exact guarded
  | cons next commands =>
    obtain ⟨publish, accepted⟩ := next
    have admitted := guarded.commands (publish, accepted) (queued ▸ List.mem_cons_self)
    have others : ∀ command ∈ commands, Admitted decoder config command.1 command.2 :=
      fun command inside => guarded.commands command (queued ▸ List.mem_cons_of_mem _ inside)
    cases sent : (executeCommandOnce answers accepted pendingCount config.commandLimits).2 with
    | none =>
      simp only [sent]
      exact ⟨guarded.configured, guarded.tracked, others, guarded.transmissions⟩
    | some send =>
      simp only [sent]
      refine ⟨guarded.configured, guarded.tracked, others, ?_⟩
      intro transmission inside
      rcases List.mem_cons.mp inside with rfl | earlier
      · exact ⟨admitted, executeCommandOnce_sends sent⟩
      · exact guarded.transmissions transmission earlier

end Turns

/-- Whatever the order of publications and executions, as long as time does not run back. -/
theorem Guarded.run {later : Instant} (actions : List BridgeAction)
    (guarded : Guarded decoder config time bridged)
    (ordered : (time :: (actions.filterMap BridgeAction.time ++ [later])).Pairwise (· ≤ ·)) :
    Guarded decoder config later (bridged.run decoder config.commandLimits actions) := by
  induction actions generalizing bridged time with
  | nil =>
    obtain ⟨grows, -⟩ := List.pairwise_cons.mp ordered
    exact guarded.later (grows later (List.mem_singleton_self later))
  | cons action actions ih =>
    cases action with
    | receive publish now =>
      obtain ⟨grows, others⟩ := List.pairwise_cons.mp ordered
      exact ih (guarded.receive (grows now List.mem_cons_self) publish) others
    | execute answers pendingCount =>
      exact ih (guarded.execute answers pendingCount) ordered

/-- A rejected publication leaves the unexpired event IDs as they were. -/
theorem Guarded.remembers_of_rejected (guarded : Guarded decoder config now bridged)
    {publish : Publish} {error : CommandError}
    (rejected : (bridged.processor.handlePublish decoder publish now).1 = .error error)
    (eventId : Uuid) :
    (bridged.processor.handlePublish decoder publish now).2.dedupe.Remembers now eventId ↔
      bridged.processor.dedupe.Remembers now eventId := by
  obtain ⟨log, last, past, tracks⟩ := guarded.tracked
  rcases bridged.processor.handlePublish_cases guarded.configured decoder publish now with
    ⟨_, handled⟩ | ⟨_, handled⟩ | ⟨accepted, -, -, handled⟩
  · rw [handled]
  · rw [handled]
    exact ((tracks.evictExpired past).remembers_iff (Nat.le_refl now) eventId).trans
      (tracks.remembers_iff past eventId).symm
  · rw [handled] at rejected
    cases rejected

/-- An event ID is accepted while it is not remembered, and remembered from then on. -/
theorem Guarded.remembers_of_accepted (guarded : Guarded decoder config now bridged)
    {publish : Publish} {accepted : AcceptedCommand}
    (handled : (bridged.processor.handlePublish decoder publish now).1 = .ok accepted) :
    ¬ bridged.processor.dedupe.Remembers now accepted.eventId ∧
      (bridged.processor.handlePublish decoder publish now).2.dedupe.Remembers now
        accepted.eventId := by
  obtain ⟨log, last, past, tracks⟩ := guarded.tracked
  rcases bridged.processor.handlePublish_cases guarded.configured decoder publish now with
    ⟨_, other⟩ | ⟨_, other⟩ | ⟨command, -, fresh, inserted⟩
  · rw [other] at handled
    cases handled
  · rw [other] at handled
    cases handled
  · rw [inserted] at handled ⊢
    cases handled
    have after := tracks.checkAndInsertAt past accepted.eventId
    constructor
    · intro remembered
      have duplicate := (tracks.duplicate_iff past).mpr
        ((tracks.remembers_iff past accepted.eventId).mp remembered)
      rw [fresh] at duplicate
      cases duplicate
    · apply (after.remembers_iff (Nat.le_refl now) accepted.eventId).mpr
      rw [fresh]
      refine ⟨now, mem_newest_concat after.capacity _ _, ?_⟩
      rw [Nat.sub_self]
      exact after.ttl

end Guarded

/-- Whatever arrives from the broker, as long as time does not run back, and however the
executions interleave: everything that has reached the radio is sanctioned. A publication that is
rejected then leaves the unexpired event IDs as they are, as does every execution, whether the
bridge refuses the command or not; and an event ID is accepted only while it is not remembered,
and is remembered from then on. -/
theorem broker_commands_gated {ν : Type} (decoder : JsonDecoder ν) (read : ReadFile)
    (config : MqttConfig) {processor : CommandProcessor}
    (created : CommandProcessor.new read config = .ok processor) (actions : List BridgeAction)
    (now : Instant)
    (ordered : (actions.filterMap BridgeAction.time ++ [now]).Pairwise (· ≤ ·)) :
    let bridged := Bridged.run decoder config.commandLimits { processor } actions
    (∀ transmission ∈ bridged.transmissions, Sanctioned decoder config transmission) ∧
      (∀ publish error, (bridged.processor.handlePublish decoder publish now).1 = .error error →
        ∀ eventId,
          (bridged.receive decoder publish now).processor.dedupe.Remembers now eventId ↔
            bridged.processor.dedupe.Remembers now eventId) ∧
      (∀ answers pendingCount eventId,
        (bridged.execute config.commandLimits answers pendingCount).processor.dedupe.Remembers
            now eventId ↔
          bridged.processor.dedupe.Remembers now eventId) ∧
      ∀ publish accepted, (bridged.processor.handlePublish decoder publish now).1 = .ok accepted →
        ¬ bridged.processor.dedupe.Remembers now accepted.eventId ∧
          (bridged.receive decoder publish now).processor.dedupe.Remembers now
            accepted.eventId := by
  intro bridged
  have guarded : Guarded decoder config now bridged :=
    (guarded_start created).run actions (List.pairwise_cons.mpr ⟨fun _ _ => Nat.zero_le _, ordered⟩)
  refine ⟨guarded.transmissions, ?_, ?_, ?_⟩
  · intro publish error rejected eventId
    rw [bridged.processor_receive]
    exact guarded.remembers_of_rejected rejected eventId
  · intro answers pendingCount eventId
    rw [bridged.processor_execute]
  · intro publish accepted handled
    rw [bridged.processor_receive]
    exact guarded.remembers_of_accepted handled

/-- A command that sends a channel message. -/
def sampleCommand : String :=
  "\x7b\"schema\":\"meshquill.mqtt/v1\",\"event_id\":\"00000000-0000-0000-0000-000000000007\"," ++
    "\"origin\":\"operator-console\",\"timestamp\":1,\"type\":\"send_channel\"," ++
    "\"data\":\x7b\"channel\":0,\"text\":\"hello\"\x7d\x7d"

/-- A decoder that reads this command and no other. -/
def sampleDecoder : JsonDecoder Unit where
  envelope payload :=
    if payload = utf8 sampleCommand then .ok
      { schema := schemaVersion, eventId := 7, origin := "operator-console", timestamp := 1
        kind := "send_channel", data := () }
    else .error "expected value at line 1 column 1"
  isObject _ := true
  direct _ := .error "missing field"
  channel _ := .ok { channel := 0, text := "hello" }

/-- Sends are enabled, and everything else is the default. -/
def sampleConfig : MqttConfig := { allowSend := true }

def sampleProcessor : CommandProcessor :=
  { allowSend := true, outboundTopic := sampleConfig.outboundTopic
    localOrigin := "meshquill-mqtt", maxPayloadBytes := 65536, limits := {}
    dedupe := { capacity := 4096, ttl := Duration.seconds 900, entries := ∅, order := [] } }

def samplePublish : Publish :=
  { topic := utf8 sampleConfig.outboundTopic, payload := utf8 sampleCommand, retain := false }

/-- The hook moves the message to another channel. -/
def sampleAnswers : CommandAnswers :=
  { prepareSend := .ok { destination := "3", text := "hello there" }
    beginOutgoing := .ok "message", listContacts := .ok [], sendDirectText := .error .disconnected
    sendChannelMessage := .ok (), sent := .ok () }

/-- A command and its redelivery: one message reaches the radio, and it is sanctioned. -/
theorem redelivered_command_gated :
    let actions : List BridgeAction :=
      [.receive samplePublish 5, .receive samplePublish 6, .execute sampleAnswers 0,
        .execute sampleAnswers 0]
    let bridged := Bridged.run sampleDecoder sampleConfig.commandLimits
      { processor := sampleProcessor } actions
    bridged.transmissions.map Transmission.send = [.channelMessage 3 0 "hello there"] ∧
      ∀ transmission ∈ bridged.transmissions,
        Sanctioned sampleDecoder sampleConfig transmission := by
  intro actions bridged
  have created : CommandProcessor.new (fun _ _ => .error "missing") sampleConfig =
    .ok sampleProcessor := rfl
  exact ⟨by decide +kernel, (broker_commands_gated sampleDecoder _ sampleConfig created actions 6
    (by decide +kernel)).1⟩

end Meshquill.Mqtt
