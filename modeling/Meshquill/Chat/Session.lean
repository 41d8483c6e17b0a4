import Meshquill.Chat.Line
import Meshquill.Client.State

/-!
# The chat session

The line chat of `runtime.rs` with the reconnection of `reconnect.rs`. Everything outside the
chat is its environment: the managed client, the hooks and the history behind the workflow
services, the output, the interrupt signal and the keyboard. The chat asks it one question at a
time. With each answer the environment may deliver device events, which wait in the receiver
until the chat takes them.

A session answers a bounded number of questions and is then abandoned, so what holds for every
session holds at every point of a session without a bound. The log records what the chat did
and plays no part in what it does.
-/
namespace Meshquill

structure ChatTarget where
  destination : String
  channel : Option UInt8
  directPrefix : Option KeyPrefix
deriving DecidableEq

structure RetainedChatDraft where
  target : ChatTarget
  text : String
deriving DecidableEq

inductive ChatLineFlow where
  | continue
  | quit
  | sessionReconnected (count : Nat)
deriving DecidableEq

inductive ChatAckOutcome where
  | acknowledged
  | timedOut
  | reconnected
deriving DecidableEq

/-- `ChatAckOutcome::output`. -/
def ChatAckOutcome.output : ChatAckOutcome → String × String
  | .acknowledged => ("acknowledged", "acknowledged")
  | .timedOut =>
    ("timed_out",
      "Acknowledgement timed out; chat remains open and the message was not retransmitted.")
  | .reconnected =>
    ("reconnected", "Reconnected after acknowledgement tracking failed; " ++
      "the sent message was not retained for resend.")

inductive IncomingOrigin where
  | live
  | queue
deriving DecidableEq

structure PreparedSend where
  destination : String
  text : String
deriving DecidableEq

/-! ## The environment -/

/-- What the chat writes, before it is rendered. -/
inductive ChatOutput where
  | state (target : ChatTarget) (state : String) (draftRetained : Bool) (human : String)
  | incoming (message : Message) (messageId : String)
  | help (target : ChatTarget)
  | contacts (contacts : List Contact) (target : ChatTarget) (query : Option String)
  | destinationChanged (target : ChatTarget) (retained : Option RetainedChatDraft)
  | commandError (target : ChatTarget) (command message : String) (suggestion : Option String)

/-- The calls of the workflow services that only succeed or fail. -/
inductive WorkflowStep where
  | connected (peer : String)
  | disconnected (reason : String)
  | sent (destination text messageId : String) (ackCode : Option AckCode)
  | acknowledged (messageId source : String) (roundTripMs : Option UInt32) (ackCode : AckCode)
  | timedOut (operation messageId : String)
  | failed (messageId : String)
  | error (operation message : String)

/-- Which arm of the chat loop is ready. An event in the receiver is taken before a line. -/
inductive ChatWake where
  | interrupted
  | events
  | closed
  | line (line : Except CliError (Option String))

/-- A question to the environment and the type of its answer. A call that is raced against the
interrupt signal answers `none` when the signal wins. -/
inductive ChatCall : Type → Type
  | reconnect : ChatCall (Option (Except CoreError SelfInfo))
  | listContacts : ChatCall (Option (Except CoreError (List Contact)))
  | syncNextMessage : ChatCall (Option (Except CoreError (Option Message)))
  | waitForAck (ackCode : AckCode) (timeout : Duration) :
      ChatCall (Option (Except CoreError Ack))
  | sendDirectText (destinationPrefix : Bytes) (attempt : UInt8) (text : String) :
      ChatCall (Except CoreError CommandTracking)
  | sendChannelMessage (channel txtType : UInt8) (text : String) :
      ChatCall (Except CoreError Unit)
  | cancelPendingOperations : ChatCall Unit
  | shutdown : ChatCall (Except CoreError Unit)
  /-- Whether the delay passed before the interrupt signal. -/
  | sleep (delay : Duration) : ChatCall Bool
  | isCancelled : ChatCall Bool
  | handlerFailed : ChatCall Bool
  /-- Whether the sender of the events is gone. -/
  | isClosed : ChatCall Bool
  | prepareSend (destination text : String) : ChatCall (Except CliError PreparedSend)
  | beginOutgoing (peer : String) (channel : Option UInt8) (text : String) :
      ChatCall (Except CliError String)
  | incoming (message : Message) (origin : IncomingOrigin) :
      ChatCall (Except CliError (Option String))
  | workflow (step : WorkflowStep) : ChatCall (Except CliError Unit)
  | emitHistory (target : ChatTarget) (limit : Nat) : ChatCall (Except CliError Unit)
  | write (output : ChatOutput) : ChatCall (Except CliError Unit)
  | spawnInput : ChatCall (Except CliError Unit)
  | resumeInput : ChatCall (Except CliError Unit)
  | wake : ChatCall ChatWake

/-- An environment answers each question, or never does, delivers events, and changes. -/
class ChatEnvironment (δ : Type) where
  lowercase : String → String
  answer : {α : Type} → ChatCall α → δ → Option α × List Event × δ

/-! ## Sessions -/

/-- What the log of a session records. -/
inductive ChatEntry where
  /-- A line is taken up while this draft is retained. -/
  | line (parsed : ParsedChatLine) (retained : Option RetainedChatDraft)
  /-- The device is asked to send. -/
  | attempt (draft : RetainedChatDraft)
  | accepted
  | refused (error : CoreError)
  | unacknowledged (error : CoreError)
  | reconnected
  | retained (draft : RetainedChatDraft)
  | discarded (draft : RetainedChatDraft)
deriving DecidableEq

structure Session (δ : Type) where
  environment : δ
  /-- How many more questions are answered. -/
  remaining : Nat
  /-- The events in the receiver, oldest first. -/
  unread : List Event := []
  target : ChatTarget
  retainedDraft : Option RetainedChatDraft := none
  pendingReconnectConfirmations : Nat := 0
  workflowConnected : Bool := true
  log : List ChatEntry := []

structure ReconnectPolicy where
  retryDelay : Duration
  maximumDelay : Duration

structure ChatSessionControl where
  ackTimeout : Duration
  reconnectPolicy : ReconnectPolicy

abbrev ChatM (δ α : Type) : Type := Async CliError (Session δ) α

/-- `CLIENT_EVENT_CAPACITY`. -/
def clientEventCapacity : Nat := 256

inductive Received where
  | event (event : Event)
  | lagged (skipped : Nat)
  | empty

/-- `usize::saturating_add`. -/
def saturatingAdd (left right : Nat) : Nat := min (left + right) usizeMax

namespace ReconnectPolicy

def delayBeforeAttempt (policy : ReconnectPolicy) (attempt : Nat) : Duration :=
  let multiplier := if attempt - 1 < 32 then 1 <<< (attempt - 1) else 4294967295
  min (policy.retryDelay * multiplier) policy.maximumDelay

end ReconnectPolicy

/-- `DEVICE_RECONNECT_ATTEMPTS`. -/
def deviceReconnectAttempts : Nat := 3

def reconnectTrigger : CoreError → Bool
  | .disconnected | .transport .notConnected | .transport .closed
  | .transport (.reconnectFailed _) | .transport (.io _ _) => true
  | _ => false

def reconnectAttemptIsRetryable : CoreError → Bool
  | .disconnected | .timeout | .transport .notConnected | .transport .closed
  | .transport .timeout | .transport (.reconnectFailed _) | .transport (.io _ _) => true
  | _ => false

/-- How a handler that has listed contacts ends. -/
def ChatLineFlow.ofReconnected (reconnected : Bool) : ChatLineFlow :=
  if reconnected then .sessionReconnected 1 else .continue

/-- A reconnection while a target was looked up is counted with those of the send. -/
def ChatLineFlow.after (targetReconnected : Bool) : ChatLineFlow → ChatLineFlow
  | .continue => .ofReconnected targetReconnected
  | .sessionReconnected count =>
    .sessionReconnected (if targetReconnected then saturatingAdd count 1 else count)
  | .quit => .quit

def chatContactTarget (contact : Contact) : ChatTarget :=
  { destination := contact.advName
    channel := none
    directPrefix := some ⟨contact.publicKey.val.take 6, by simp [contact.publicKey.property]⟩ }

def chatChannelTarget (channel : UInt8) : ChatTarget :=
  { destination := toString channel, channel := some channel, directPrefix := none }

def acceptedDeliveryError (stage : String) (error : CliError) : CliError :=
  { status := error.status
    message := "the device already accepted the message, but " ++ stage ++
      "; do not retry automatically"
    hint := some ("The emitted send result is authoritative: " ++
      "queued=true means radio transmission was accepted.") }

namespace Chat

open Async

variable {δ : Type}

/-! ## Statements -/

/-- Take the next event, as a receiver of a bounded broadcast channel does. -/
def receive : ChatM δ Received := fun session =>
  if session.unread.length > clientEventCapacity then
    (.done (.lagged (session.unread.length - clientEventCapacity)),
      { session with unread := session.unread.drop (session.unread.length - clientEventCapacity) })
  else
    match session.unread with
    | [] => (.done .empty, session)
    | event :: unread => (.done (.event event), { session with unread })

/-- A statement that is only run under a condition. -/
def whenever (condition : Bool) (body : ChatM δ Unit) : ChatM δ Unit :=
  if condition then body else pure ()

/-- Record an entry in the log. -/
def note (entry : ChatEntry) : ChatM δ Unit :=
  modify fun session => { session with log := entry :: session.log }

def setTarget (target : ChatTarget) : ChatM δ Unit := modify fun session => { session with target }

def setRetained (retainedDraft : Option RetainedChatDraft) : ChatM δ Unit :=
  modify fun session => { session with retainedDraft }

def setPending (pendingReconnectConfirmations : Nat) : ChatM δ Unit :=
  modify fun session => { session with pendingReconnectConfirmations }

def setWorkflowConnected (workflowConnected : Bool) : ChatM δ Unit :=
  modify fun session => { session with workflowConnected }

variable [ChatEnvironment δ]

def ask {α : Type} (call : ChatCall α) : ChatM δ α := fun session =>
  match session.remaining with
  | 0 => (.dropped, session)
  | remaining + 1 =>
    let (answer, events, environment) := ChatEnvironment.answer call session.environment
    let reached := { session with environment, remaining, unread := session.unread ++ events }
    match answer with
    | some value => (.done value, reached)
    | none => (.dropped, reached)

/-- A call whose error ends the caller. -/
def request {α : Type} (call : ChatCall (Except CliError α)) : ChatM δ α := do
  ofExcept (← ask call)

def workflow (step : WorkflowStep) : ChatM δ Unit := request (.workflow step)

def emit (output : ChatOutput) : ChatM δ Unit := request (.write output)

def emitChatState (target : ChatTarget) (state : String) (draftRetained : Bool) (human : String) :
    ChatM δ Unit :=
  emit (.state target state draftRetained human)

def emitChatCommandError (target : ChatTarget) (command message : String)
    (suggestion : Option String) : ChatM δ Unit :=
  emit (.commandError target command message suggestion)

def emitChatIncoming (message : Message) (origin : IncomingOrigin) : ChatM δ Unit := do
  match ← request (.incoming message origin) with
  | none => pure ()
  | some messageId => emit (.incoming message messageId)

/-- `InterruptWatcher::error`. -/
def interruptError : ChatM δ CliError := do
  if ← ask .handlerFailed then
    pure { status := .interrupted, message := "could not install the interrupt handler" }
  else pure { status := .interrupted, message := "interrupted by user" }

/-- The interrupt arm of a raced call. -/
def interrupt {α : Type} : ChatM δ α := do
  ask .cancelPendingOperations
  fail (← interruptError)

/-- A raced call whose error ends the caller. -/
def raced {α : Type} (call : ChatCall (Option (Except CoreError α))) : ChatM δ α := do
  match ← ask call with
  | none => interrupt
  | some result => ofExcept (result.mapError CliError.ofCore)

/-! ## Reconnecting -/

/-- `interrupted` of `reconnect.rs`. -/
def interrupted : CliError := { status := .interrupted, message := "interrupted by user" }

/-- Every attempt but the first waits. -/
def sleepBefore (policy : ReconnectPolicy) (attempt : Nat) : ChatM δ Bool :=
  if attempt > 0 then ask (.sleep (policy.delayBeforeAttempt attempt)) else pure true

/-- The attempts of `reconnect_device` from an index on. -/
def reconnectAttempts (policy : ReconnectPolicy) : Nat → Nat → ChatM δ SelfInfo
  | 0, _ =>
    fail { status := .connection
           message := "bounded companion reconnect attempts were exhausted" }
  | left + 1, attempt => do
    if ← sleepBefore policy attempt then
      match ← ask .reconnect with
      | none =>
        ask .cancelPendingOperations
        fail interrupted
      | some (.ok info) => pure info
      | some (.error error) =>
        if reconnectAttemptIsRetryable error ∧ attempt + 1 < deviceReconnectAttempts then
          reconnectAttempts policy left (attempt + 1)
        else fail (.ofCore error)
    else fail interrupted

def reconnectDevice (policy : ReconnectPolicy) : ChatM δ SelfInfo :=
  reconnectAttempts policy deviceReconnectAttempts 0

def activateWorkflow (peer failureReason : String) : ChatM δ Unit := do
  match ← ask (.workflow (.connected peer)) with
  | .ok () => pure ()
  | .error primary =>
    let _ ← ask (.workflow (.disconnected failureReason))
    let _ ← ask .shutdown
    fail primary

variable (control : ChatSessionControl)

def reconnectChatSession (disconnectReason : String) : ChatM δ SelfInfo := do
  let session ← get
  setWorkflowConnected false
  whenever session.workflowConnected (workflow (.disconnected disconnectReason))
  let info ← reconnectDevice control.reconnectPolicy
  activateWorkflow info.name "chat reconnect hook failed"
  setWorkflowConnected true
  note .reconnected
  pure info

/-! ## Targets -/

def listChatContactsWithReconnect (disconnectReason : String) : ChatM δ (List Contact × Bool) := do
  match ← ask .listContacts with
  | none => interrupt
  | some (.ok contacts) => pure (contacts, false)
  | some (.error error) =>
    if reconnectTrigger error then
      let _ ← reconnectChatSession control disconnectReason
      pure (← raced .listContacts, true)
    else fail (.ofCore error)

def prepareChatTargetWithReconnect (destination : String)
    (disconnectReason : String) : ChatM δ (ChatTarget × Bool) := do
  match parseU8 destination with
  | some channel => pure (chatChannelTarget channel, false)
  | none =>
    let (contacts, reconnected) ← listChatContactsWithReconnect control disconnectReason
    let contact ← ofExcept (resolveContact (ChatEnvironment.lowercase δ) contacts destination)
    pure (chatContactTarget contact, reconnected)

/-! ## Sending -/

def sendChatMessage (target : ChatTarget) (text : String) :
    ChatM δ (Except CoreError (Option CommandTracking)) := do
  match target.channel with
  | some channel => pure ((← ask (.sendChannelMessage channel 0 text)).map fun _ => none)
  | none =>
    let destinationPrefix := (target.directPrefix.map Subtype.val).getD []
    pure ((← ask (.sendDirectText destinationPrefix 0 text)).map some)

def waitForChatAck (target : ChatTarget) (messageId : String)
    (tracking : CommandTracking) : ChatM δ (ChatAckOutcome × Option CliError) := do
  let firmwareTimeout : Duration := tracking.timeoutMs.toNat * 1000000
  match ← ask (.waitForAck tracking.ackCode (min firmwareTimeout control.ackTimeout)) with
  | none => interrupt
  | some (.ok ack) =>
    let recorded ← ask (.workflow
      (.acknowledged messageId target.destination ack.tripTimeMs tracking.ackCode))
    pure (.acknowledged, match recorded with | .ok () => none | .error error => some error)
  | some (.error error) =>
    note (.unacknowledged error)
    if (CliError.ofCore error).status = .timeout then
      let _ ← ask (.workflow (.timedOut "chat acknowledgement" messageId))
      pure (.timedOut, none)
    else
      let _ ← ask (.workflow (.failed messageId))
      if reconnectTrigger error then
        let _ ← reconnectChatSession control "chat acknowledgement transport failed"
        pure (.reconnected, none)
      else fail (.ofCore error)

variable (draft : RetainedChatDraft) (messageId : String)

/-- The wait for the ACK of a direct message: whether the session was reconnected, and an error
of the workflow. -/
def followTracking :
    Option CommandTracking → ChatM δ (Bool × Option CliError)
  | none => pure (false, none)
  | some tracking => do
    let (outcome, late) ← waitForChatAck control draft.target messageId tracking
    let session ← get
    emitChatState draft.target outcome.output.1 session.retainedDraft.isSome
      (draft.target.destination ++ ": " ++ outcome.output.2)
    pure (decide (outcome = .reconnected), late)

/-- The rest of `submit_chat_draft` once the device has accepted the message. -/
def followAcceptedDraft (tracking : Option CommandTracking) : ChatM δ ChatLineFlow := do
  let recorded ← ask (.workflow
    (.sent draft.target.destination draft.text messageId (tracking.map (·.ackCode))))
  let session ← get
  emitChatState draft.target "sent" session.retainedDraft.isSome
    ("Sent to " ++ draft.target.destination ++ ".")
  if ← ask .isCancelled then
    fail (acceptedDeliveryError "chat was interrupted after delivery was accepted"
      (← interruptError))
  else
    let (reconnected, late) ← followTracking control draft messageId tracking
    match recorded, late with
    | .error error, _ => fail (acceptedDeliveryError "post-send workflow failed" error)
    | .ok (), some error => fail (acceptedDeliveryError "acknowledgement workflow failed" error)
    | .ok (), none => pure (.ofReconnected reconnected)

/-- The rest of `submit_chat_draft` once the outgoing message is recorded. -/
def sendDraft : ChatM δ ChatLineFlow := do
  note (.attempt draft)
  match ← sendChatMessage draft.target draft.text with
  | .ok tracking =>
    note .accepted
    followAcceptedDraft control draft messageId tracking
  | .error error =>
    note (.refused error)
    let _ ← ask (.workflow (.failed messageId))
    if reconnectTrigger error then
      if ← ask .isCancelled then fail (← interruptError)
      else
        let _ ← reconnectChatSession control "chat transport failed"
        setRetained (some draft)
        note (.retained draft)
        emitChatState draft.target "reconnected" true
          ("Reconnected; delivery to " ++ draft.target.destination ++
            " was not confirmed. Its draft is retained, and /send deliberately submits it again.")
        pure (.sessionReconnected 1)
    else fail (.ofCore error)

def submitChatDraft : ChatM δ ChatLineFlow := do
  let messageId ← request (.beginOutgoing draft.target.destination draft.target.channel draft.text)
  sendDraft control draft messageId

/-! ## Lines -/

def noRetainedDraft : String := "there is no retained failed-send draft"

/-- The branch of `handle_chat_line` for `/contacts`. -/
def handleContacts (query : Option String) : ChatM δ ChatLineFlow := do
  let session ← get
  let (contacts, reconnected) ←
    listChatContactsWithReconnect control "chat contact listing transport failed"
  whenever reconnected (emitChatState session.target "reconnected" session.retainedDraft.isSome
    "Reconnected while listing contacts; no message was sent or replayed.")
  emit (.contacts contacts session.target query)
  pure (.ofReconnected reconnected)

def emitChatDestinationChanged : ChatM δ Unit := do
  let session ← get
  emit (.destinationChanged session.target session.retainedDraft)

/-- `/to` selects the contact, or says why it does not. -/
def retarget (contacts : List Contact) (query : String) : ChatM δ Unit := do
  match resolveContact (ChatEnvironment.lowercase δ) contacts query with
  | .ok contact =>
    setTarget (chatContactTarget contact)
    emitChatDestinationChanged
  | .error error =>
    let session ← get
    emitChatCommandError session.target "/to" error.message
      (contactNameSuggestion (ChatEnvironment.lowercase δ) contacts query)

/-- The branch of `handle_chat_line` for `/to`. -/
def handleTo (query : String) : ChatM δ ChatLineFlow := do
  let session ← get
  let (contacts, reconnected) ←
    listChatContactsWithReconnect control "chat destination lookup transport failed"
  whenever reconnected (emitChatState session.target "reconnected" session.retainedDraft.isSome
    "Reconnected while resolving the destination; no message was sent or replayed.")
  retarget contacts query
  pure (.ofReconnected reconnected)

/-- The branch of `handle_chat_line` for `/send`. -/
def handleSendRetained : ChatM δ ChatLineFlow := do
  let session ← get
  setRetained none
  match session.retainedDraft with
  | none =>
    emitChatCommandError session.target "/send" noRetainedDraft none
    pure .continue
  | some draft => submitChatDraft control draft

/-- The branch of `handle_chat_line` for `/discard`. -/
def handleDiscardRetained : ChatM δ ChatLineFlow := do
  let session ← get
  setRetained none
  match session.retainedDraft with
  | none =>
    emitChatCommandError session.target "/discard" noRetainedDraft none
    pure .continue
  | some discarded =>
    note (.discarded discarded)
    emitChatState session.target "draft_discarded" false
      ("Discarded the retained draft addressed to " ++ discarded.target.destination ++ ".")
    pure .continue

/-- The branch of `handle_chat_line` for a message. -/
def handleMessage (text : String) : ChatM δ ChatLineFlow := do
  let session ← get
  match session.retainedDraft with
  | some draft =>
    emitChatCommandError session.target "message"
      ("a failed-send draft for " ++ draft.target.destination ++
        " is retained; use /send or /discard before composing another message") none
    pure .continue
  | none =>
    let prepared ← request (.prepareSend session.target.destination text)
    let (sendTarget, targetReconnected) ← prepareChatTargetWithReconnect control
      prepared.destination "chat send target lookup transport failed"
    whenever targetReconnected (emitChatState session.target "reconnected" false
      ("Reconnected while resolving the unsent draft; " ++
        "its text was retained and no message was replayed."))
    let flow ← submitChatDraft control { target := sendTarget, text := prepared.text }
    pure (flow.after targetReconnected)

def handleChatLine (line : String) : ChatM δ ChatLineFlow := do
  let session ← get
  let parsed := parseChatLine (ChatEnvironment.lowercase δ) line
  note (.line parsed session.retainedDraft)
  match parsed with
  | .empty => pure .continue
  | .quit => pure .quit
  | .help =>
    emit (.help session.target)
    pure .continue
  | .contacts query => handleContacts control query
  | .to query => handleTo control query
  | .channel channel =>
    setTarget (chatChannelTarget channel)
    emitChatDestinationChanged
    pure .continue
  | .history limit =>
    request (.emitHistory session.target limit)
    pure .continue
  | .sendRetained => handleSendRetained control
  | .discardRetained => handleDiscardRetained
  | .message text => handleMessage control text
  | .commandError command message suggestion =>
    emitChatCommandError session.target command message suggestion
    pure .continue

/-! ## Events -/

/-- The branches of the chat loop for an event. -/
def handleChatEvent (event : Event) : ChatM δ Unit := do
  let session ← get
  let pending := session.pendingReconnectConfirmations
  match event with
  | .disconnected =>
    if pending > 0 then pure ()
    else
      match ← attempt (reconnectChatSession control "chat device event") with
      | .ok _ =>
        setPending (saturatingAdd pending 1)
        emitChatState session.target "reconnected" session.retainedDraft.isSome
          "Reconnected to the companion; no message was replayed."
      | .error error => if ← ask .isCancelled then fail (← interruptError) else fail error
  | .connected => if pending > 0 then setPending (pending - 1) else pure ()
  | .message message => emitChatIncoming message .live
  | .protocolError _ | .unknownPacket _ _ | .loginFailed _ =>
    workflow (.error "chat" "the device emitted an error event")
  | _ => pure ()

/-- The inner loop of `poll_chat_incoming`: whether the connection is still active. -/
def drainChatEvents (connectionActive : Bool) : ChatM δ Bool :=
  loop Session.remaining (fun connectionActive => do
    let closed ← ask .isClosed
    match ← receive with
    | .event (.message message) =>
      emitChatIncoming message .live
      pure (.inl connectionActive)
    | .event .disconnected => pure (.inl false)
    | .event .connected => pure (.inl true)
    | .event (.protocolError _) | .event (.unknownPacket _ _) | .event (.loginFailed _) =>
      workflow (.error "chat" "the device emitted an error event")
      pure (.inl connectionActive)
    | .event _ => pure (.inl connectionActive)
    | .lagged _ =>
      fail (.withHint "Retry after reducing the companion's queued-message backlog."
        { status := .protocol
          message := "initial chat event buffering lagged while draining the queued inbox" })
    | .empty =>
      if closed then
        fail { status := .connection
               message := "the device event stream closed during chat setup" }
      else pure (.inr connectionActive)) connectionActive

/-- A message that the inbox returned. -/
def emitQueued : Option Message → ChatM δ Unit
  | none => pure ()
  | some message => emitChatIncoming message .queue

def pollChatIncoming : ChatM δ Unit :=
  loop Session.remaining (fun connectionActive => do
    let message ← raced .syncNextMessage
    let connectionActive ← drainChatEvents connectionActive
    emitQueued message
    if connectionActive then
      pure (if message.isNone then .inr () else .inl connectionActive)
    else
      fail { status := .connection
             message := "the companion disconnected while chat was loading the queued inbox" }) true

def drainChatInboxWithReconnect : ChatM δ Unit := do
  match ← attempt pollChatIncoming with
  | .ok () => pure ()
  | .error error =>
    if error.status = .connection then
      let _ ← reconnectChatSession control "initial chat inbox transport failed"
      let session ← get
      emitChatState session.target "reconnected" false
        "Reconnected while loading the queued inbox; no message was sent or replayed."
      pollChatIncoming
    else fail error

/-! ## The loop -/

/-- What follows a handled line: the reader may read on unless the chat was interrupted. -/
def resumeInput : ChatM δ Unit := do
  if ← ask .isCancelled then fail (← interruptError) else request .resumeInput

/-- The arms that are left when the receiver is empty. -/
def handleWoken : ChatWake → ChatM δ (Unit ⊕ Unit)
  | .interrupted | .events => pure (.inl ())
  | .closed =>
    fail { status := .connection, message := "the device event stream closed during chat" }
  | .line (.error error) => fail error
  | .line (.ok none) => pure (.inr ())
  | .line (.ok (some line)) => do
    match ← handleChatLine control line with
    | .quit => pure (.inr ())
    | .continue =>
      resumeInput
      pure (.inl ())
    | .sessionReconnected count =>
      let session ← get
      setPending (saturatingAdd session.pendingReconnectConfirmations count)
      resumeInput
      pure (.inl ())

/-- The arm of the event receiver, which is tried first. -/
def handleReceived (woken : ChatWake) :
    Received → ChatM δ (Unit ⊕ Unit)
  | .event event => do
    handleChatEvent control event
    pure (.inl ())
  | .lagged skipped => do
    setPending 0
    let session ← get
    emitChatState session.target "lagged" session.retainedDraft.isSome
      ("Chat event consumer skipped " ++ toString skipped ++ " bounded event(s).")
    pure (.inl ())
  | .empty => handleWoken control woken

/-- One turn of the loop of `run_chat_lines`. The arms are tried in the order of the source; an
arm that finds nothing waits for the next turn. -/
def chatTurn : ChatM δ (Unit ⊕ Unit) := do
  match ← ask .wake with
  | .interrupted => fail (← interruptError)
  | woken => handleReceived control woken (← receive)

/-- `run_chat_lines` before its loop. -/
def openChat : ChatM δ Unit := do
  drainChatInboxWithReconnect control
  request .spawnInput
  setRetained none
  setPending 0

def runChatLines : ChatM δ Unit := do
  openChat control
  loop Session.remaining (fun _ => chatTurn control) ()

/-- The sessions in which a turn of the loop starts. -/
def TurnStart (session start : Session δ) : Prop :=
  ∃ opened, openChat control session = (.done (), opened) ∧
    Visits (fun _ => chatTurn control) () opened () start

end Chat

/-! ## A scripted environment -/

/-- An environment in which only the sends may fail: the contacts it lists, the outcomes of the
sends, the lines that are typed, and how many events it has yet to wake the chat for. -/
structure Script where
  contacts : List Contact := []
  sends : List (Except CoreError Unit) := []
  lines : List String
  events : Nat := 0

namespace Script

/-- The companion behind the script. -/
def info : SelfInfo :=
  { advertisingType := 1, txPower := 20, maxTxPower := 22
    publicKey := ⟨List.replicate 32 1, List.length_replicate⟩, advLat := 0, advLon := 0
    multiAcks := 0, advertLocPolicy := 0, telemetryModeEnv := 0, telemetryModeLoc := 0
    telemetryModeBase := 0, manualAddContacts := false, radioFrequencyMhz := 868
    radioBandwidthKhz := 250, radioSpreadingFactor := 10, radioCodingRate := 5, name := "base" }

/-- The outcome of the next send. -/
def send (script : Script) : Except CoreError Unit := script.sends.headD (.ok ())

def answer {α : Type} (call : ChatCall α) (script : Script) : Option α × List Event × Script :=
  match call with
  | .reconnect =>
    (some (some (.ok info)), [.disconnected, .connected],
      { script with events := script.events + 2 })
  | .listContacts => (some (some (.ok script.contacts)), [], script)
  | .syncNextMessage => (some (some (.ok none)), [], script)
  | .waitForAck _ _ => (some (some (.error .timeout)), [], script)
  | .sendDirectText _ _ _ =>
    (some (script.send.map fun _ => { ackCode := ⟨[7, 0, 0, 0], rfl⟩, timeoutMs := 1000 }), [],
      { script with sends := script.sends.tail })
  | .sendChannelMessage _ _ _ =>
    (some script.send, [], { script with sends := script.sends.tail })
  | .cancelPendingOperations => (some (), [], script)
  | .shutdown => (some (.ok ()), [], script)
  | .sleep _ => (some true, [], script)
  | .isCancelled | .handlerFailed | .isClosed => (some false, [], script)
  | .prepareSend destination text => (some (.ok { destination, text }), [], script)
  | .beginOutgoing _ _ _ => (some (.ok "message"), [], script)
  | .incoming _ _ => (some (.ok none), [], script)
  | .workflow _ | .emitHistory _ _ | .write _ | .spawnInput | .resumeInput =>
    (some (.ok ()), [], script)
  | .wake =>
    match script.events with
    | 0 => (some (.line (.ok script.lines.head?)), [], { script with lines := script.lines.tail })
    | events + 1 => (some .events, [], { script with events })

instance : ChatEnvironment Script where
  lowercase := String.toLower
  answer := answer

end Script

def sampleControl : ChatSessionControl :=
  { ackTimeout := 1, reconnectPolicy := { retryDelay := 1, maximumDelay := 1 } }

end Meshquill
