import Meshquill.Async
import Meshquill.Client.State

/-!
# The asynchronous client

The private async functions of `client.rs`: writing, reading, the response loops, the
inbox synchronisation and the ACK wait. A world is a client with its transport and the
turns the environment still grants to the operation in progress. Every await takes one
turn. An operation with no turn left is dropped at its next await, so the turns of an
invocation decide where, if anywhere, it is cancelled.

A call that does not resolve in its turn either runs into the deadline of the
surrounding `timeout` or is dropped. `tokio::time::timeout` polls its future before its
deadline, so a call that resolves is never preempted. Durations select nothing here:
whether a deadline passes is the environment's choice.

A panic of the parser would unwind the caller; it ends an operation like a drop.
-/
namespace Meshquill

/-- What the environment does during one await, and whether an enclosing deadline passes
if the call does not resolve. -/
structure Turn (ε : Type) where
  io : ε
  elapsed : Bool := false

structure World (τ ε : Type) where
  trace : Trace := {}
  transport : τ
  turns : List (Turn ε) := []
  deadline : Bool := false

abbrev ClientM (τ ε α : Type) : Type := Async CoreError (World τ ε) α

namespace World

variable {τ ε : Type}

def client (world : World τ ε) : Client := world.trace.client

def history (world : World τ ε) : List Entry := world.trace.history

/-- How many awaits the operation in progress can still pass. -/
def remaining (world : World τ ε) : Nat := world.turns.length

end World

/-- `PacketWait`, with the accumulating case of the contact listing. -/
inductive PacketWait (β α : Type) where
  | ready (value : α)
  | keep (carried : β)
  | fail (error : CoreError)
  | proceed

namespace Client

open Async

variable {τ ε α β : Type}

/-- A statement that does not suspend. -/
def locally (change : Trace → Trace) : ClientM τ ε Unit :=
  modify fun world => { world with trace := change world.trace }

/-- Read the client's fields. -/
def self : ClientM τ ε Client := fun world => (.done world.client, world)

/-- Await one transport call. -/
def await (call : ε → τ → Call α × τ) : ClientM τ ε (Except TransportError α) := fun world =>
  match world.turns with
  | [] => (.dropped, world)
  | turn :: turns =>
    match call turn.io world.transport with
    | (some result, transport) => (.done result, { world with transport, turns })
    | (none, transport) =>
      (if world.deadline && turn.elapsed then .failed .timeout else .dropped,
        { world with transport, turns })

/-- `tokio::time::timeout(..)` with its elapsed error mapped to `CoreError::Timeout`. -/
def timeout (_duration : Duration) (body : ClientM τ ε α) : ClientM τ ε α := fun world =>
  ((body { world with deadline := true }).1,
    { (body { world with deadline := true }).2 with deadline := world.deadline })

def markDisconnected : ClientM τ ε Unit := locally Trace.markDisconnected

/-- `if terminal { self.mark_disconnected(); }`. -/
def markDisconnectedIf (terminal : Bool) : ClientM τ ε Unit :=
  if terminal then markDisconnected else pure ()

def publishEvent (packet : Packet) : ClientM τ ε Unit := locally (Trace.publishEvent packet)

def updateTracking (packet : Packet) : ClientM τ ε Unit := locally (Trace.updateTracking packet)

def ensureConnected : ClientM τ ε Unit := fun world =>
  if world.client.connected then (.done (), world) else (.failed .disconnected, world)

def parsePacket (raw : Bytes) : ClientM τ ε Packet := fun world =>
  match world.trace.parsePacket raw with
  | (.ok packet, trace) => (.done packet, { world with trace })
  | (.error (.rejected error), trace) => (.failed (.parse error), { world with trace })
  | (.error .panicked, trace) => (.dropped, { world with trace })

def validateOperationTimeout (duration : Duration) : Except CoreError Unit :=
  if duration = 0 ∨ duration > maxOperationTimeout then
    .error (.invalidArgument "timeout" "must be greater than zero and at most 24 hours")
  else .ok ()

/-- The error of `send_raw` while a synchronisation is unanswered. -/
def unreconciledSync : CoreError :=
  .protocolInvariant
    "a prior inbox synchronization response must be reconciled before another command"

section Transported

variable [Transport τ ε]

def writeRaw (payload : Bytes) : ClientM τ ε Unit := do
  if payload.isEmpty then
    locally (Trace.note (.unsendable payload))
    fail (.protocolInvariant "cannot send an empty companion packet")
  else if payload.length > maxInnerPayload then
    locally (Trace.note (.unsendable payload))
    fail (.parse (.oversizedPacketPayload payload.length maxInnerPayload))
  else
    locally (Trace.note (.wrote payload))
    match ← await (fun io => Transport.write io payload) with
    | .ok () => pure ()
    | .error error =>
      markDisconnectedIf (isTerminalWriteError error)
      fail (.transport error)

def sendRaw (payload : Bytes) : ClientM τ ε Unit := do
  if (← self).syncState = .awaitingResponse then
    locally (Trace.note (.refused payload))
    fail unreconciledSync
  else writeRaw payload

variable (command : Command)

/-- The check and the write that every command starts with: `send_only`, and the first
two statements of the command loops. -/
def sendOnly : ClientM τ ε Unit := do
  ensureConnected
  sendRaw command.intoEncoded

def readNextPacket : ClientM τ ε Packet := do
  match ← await Transport.read with
  | .ok (some raw) => parsePacket raw
  | .ok none =>
    markDisconnected
    fail .disconnected
  | .error error =>
    markDisconnectedIf (isDisconnectError error)
    fail (.transport error)

def readNextPacketWithTimeout : ClientM τ ε Packet := do
  timeout (← self).requestTimeout readNextPacket

/-- The loop of every operation that waits for a response: a packet that is not for the
operation is published and tracked, then the next one is read. -/
def awaitResponse (read : ClientM τ ε Packet) (judge : β → Packet → PacketWait β α)
    (carried : β) : ClientM τ ε α :=
  loop World.remaining (fun carried => do
    let packet ← read
    match judge carried packet with
    | .ready value => pure (.inr value)
    | .keep next => pure (.inl next)
    | .fail error => fail error
    | .proceed =>
      publishEvent packet
      updateTracking packet
      pure (.inl carried)) carried

/-- The branches of `send_command_expect`. -/
def expectJudge (context : String) (extract : Packet → Option α) (_ : Unit) (packet : Packet) :
    PacketWait Unit α :=
  match extract packet with
  | some value => .ready value
  | none =>
    match packet with
    | .disabled => .fail (.featureDisabled context)
    | .error code => .fail (.deviceRejected context code)
    | _ => .proceed

def sendCommandExpect (context : String) (extract : Packet → Option α) : ClientM τ ε α := do
  sendOnly command
  awaitResponse readNextPacketWithTimeout (expectJudge context extract) ()

def okJudge (_ : Unit) : Packet → PacketWait Unit Unit
  | .ok _ => .ready ()
  | .disabled => .fail (.featureDisabled "requested operation")
  | .error code => .fail (.deviceRejected "command" code)
  | _ => .proceed

def sendCommandExpectOk : ClientM τ ε Unit := do
  sendOnly command
  awaitResponse readNextPacketWithTimeout okJudge ()

def msgSentJudge (_ : Unit) : Packet → PacketWait Unit CommandTracking
  | .msgSent _ expectedAck suggestedTimeoutMs =>
    .ready { ackCode := expectedAck, timeoutMs := suggestedTimeoutMs }
  | .error code => .fail (.deviceRejected "message send" code)
  | _ => .proceed

/-- `send_command_expect_msg_sent_inner`. -/
def sendCommandExpectMsgSentInner (trackAck : Bool) : ClientM τ ε CommandTracking := do
  sendOnly command
  let tracking ← awaitResponse readNextPacketWithTimeout msgSentJudge ()
  locally (if trackAck then Trace.trackSent tracking else id)
  pure tracking

def sendCommandExpectMsgSent : ClientM τ ε CommandTracking :=
  sendCommandExpectMsgSentInner command true

def sendCommandExpectMsgSentUntracked : ClientM τ ε CommandTracking :=
  sendCommandExpectMsgSentInner command false

/-- The branches of `wait_for_packet`, after the caller's own. -/
def waitJudge (operation : String) (extract : Packet → PacketWait Unit α) (_ : Unit)
    (packet : Packet) : PacketWait Unit α :=
  match extract packet with
  | .proceed =>
    match packet with
    | .error code => .fail (.deviceRejected operation code)
    | .disabled => .fail (.featureDisabled operation)
    | _ => .proceed
  | decided => decided

def waitForPacket (responseTimeout : Duration) (operation : String)
    (extract : Packet → PacketWait Unit α) : ClientM τ ε α :=
  timeout responseTimeout (awaitResponse readNextPacket (waitJudge operation extract) ())

/-- `remote_response_timeout`. -/
def remoteResponseTimeout (suggestedTimeoutMs : UInt32) : ClientM τ ε Duration := do
  let suggested := suggestedTimeoutMs.toNat * 1000000 + Duration.seconds 1
  pure (min (max (← self).requestTimeout suggested) (Duration.seconds 60))

/-- `send_disconnect_command`. -/
def sendDisconnectCommand : ClientM τ ε Unit := do
  sendOnly command
  let _ ← await Transport.disconnect
  markDisconnected

/-! ## Inbox synchronisation -/

/-- `ready_sync_result`, and what the branches of `wait_for_sync_response` return. -/
def readySyncResult : ReadySync → Except CoreError (Option Message)
  | .message message => .ok (some message)
  | .noMoreMessages => .ok none
  | .error => .error (.protocolInvariant "sync next message returned an error")

/-- `self.deferred_sync.take()`. -/
def takeDeferredSync : ClientM τ ε (Option ReadySync) := do
  let deferred := (← self).deferredSync
  locally Trace.takeDeferredSync
  pure deferred

/-- `try_read`, which never suspends: without a turn nothing is ready. -/
def tryRead : ClientM τ ε (Except TransportError ReadyRead) := fun world =>
  match world.turns with
  | [] => (.done (.ok .pending), world)
  | turn :: turns =>
    (.done (Transport.tryRead turn.io world.transport).1,
      { world with transport := (Transport.tryRead turn.io world.transport).2, turns })

/-- One iteration of `drain_ready_packets_before_sync`: on to the next, or its result. -/
def drainReadyPacket : ClientM τ ε (Unit ⊕ Option ReadySync) := do
  match ← tryRead with
  | .ok .pending => pure (.inr none)
  | .ok .closed =>
    markDisconnected
    fail .disconnected
  | .error error =>
    markDisconnectedIf (isDisconnectError error)
    fail (.transport error)
  | .ok (.packet raw) =>
    let packet ← parsePacket raw
    match packet.readySync with
    | some ready =>
      locally (Trace.handOver packet ready)
      pure (.inr (some ready))
    | none =>
      publishEvent packet
      updateTracking packet
      pure (.inl ())

/-- The iterations from index `256 - left` on. -/
def drainReadyPackets : Nat → ClientM τ ε (Option ReadySync)
  | 0 => do
    match ← drainReadyPacket with
    | .inr result => pure result
    | .inl () => fail (.protocolInvariant "too many buffered packets before inbox synchronization")
  | left + 1 => do
    match ← drainReadyPacket with
    | .inr result => pure result
    | .inl () => drainReadyPackets left

def drainReadyPacketsBeforeSync : ClientM τ ε (Option ReadySync) :=
  drainReadyPackets clientSyncReadyDrainCapacity

def waitForSyncResponse : ClientM τ ε (Option Message) :=
  loop World.remaining (fun _ => do
    let packet ← readNextPacketWithTimeout
    match packet.readySync with
    | some ready =>
      locally (Trace.handOver packet ready)
      ofExcept ((readySyncResult ready).map .inr)
    | none =>
      publishEvent packet
      updateTracking packet
      pure (.inl ())) ()

/-- The state is set before the write is awaited: a drop after the write must not leave
an untracked response. -/
def syncNextMessage : ClientM τ ε (Option Message) := do
  ensureConnected
  match ← takeDeferredSync with
  | some ready => ofExcept (readySyncResult ready)
  | none =>
    match ← drainReadyPacketsBeforeSync with
    | some ready => ofExcept (readySyncResult ready)
    | none =>
      if (← self).syncState = .awaitingResponse then waitForSyncResponse
      else
        locally Trace.synchronise
        writeRaw Command.syncNextMessage.intoEncoded
        waitForSyncResponse

/-! ## Waiting for an ACK -/

variable (ackCode : AckCode)

/-- The loop of `wait_for_ack`. Its last branch does not update the trackers, and its
error branch neither retains nor publishes the packet. -/
def awaitAck : ClientM τ ε Ack :=
  loop World.remaining (fun _ => do
    let packet ← readNextPacket
    match packet with
    | .ack ack =>
      if ack.code = ackCode then
        locally (Trace.claimAck ack)
        pure (.inr ack)
      else
        publishEvent packet
        updateTracking packet
        pure (.inl ())
    | .error _ =>
      locally (Trace.note .dismissed)
      fail (.protocolInvariant "ack request returned an error")
    | other =>
      publishEvent other
      pure (.inl ())) ()

/-- How `wait_for_ack` ends after its loop: a failed wait drops its code. -/
def settleWait : Except CoreError Ack → ClientM τ ε Ack
  | .ok ack => pure ack
  | .error error => do
    locally (Trace.abandonAck ackCode)
    fail error

def waitForAck (requestTimeout : Option Duration) : ClientM τ ε Ack := do
  ofExcept (requestTimeout.elim (.ok ()) validateOperationTimeout)
  ensureConnected
  let taken := ((← self).takeCompletedAck ackCode).1
  locally (Trace.takeCompletedAck ackCode)
  match taken with
  | some ack => pure ack
  | none =>
    let timeoutAt := requestTimeout.getD (← self).requestTimeout
    settleWait ackCode (← attempt (timeout timeoutAt (awaitAck ackCode)))

/-! ## Sessions -/

def initJudge (_ : Unit) : Packet → PacketWait Unit SelfInfo
  | .selfInfo info => .ready info
  | .error _ => .fail (.protocolInvariant "APP_START returned an error")
  | _ => .proceed

def init : ClientM τ ε SelfInfo := do
  ensureConnected
  sendOnly Command.appStart
  let info ← awaitResponse readNextPacketWithTimeout initJudge ()
  publishEvent (.selfInfo info)
  pure info

/-- What `connect` and `reconnect` do once the transport is open. -/
def startSession : ClientM τ ε SelfInfo := do
  locally Trace.establish
  match ← attempt init with
  | .ok info =>
    locally (Trace.publishDomainEvent .connected)
    pure info
  | .error error =>
    let _ ← await Transport.disconnect
    markDisconnected
    fail error

def connect : ClientM τ ε SelfInfo := do
  locally Trace.forget
  match ← await Transport.connect with
  | .ok () => startSession
  | .error error => fail (.transport error)

def reconnect : ClientM τ ε SelfInfo := do
  markDisconnected
  match ← await Transport.reconnect with
  | .ok () => startSession
  | .error error => fail (.transport error)

def disconnect : ClientM τ ε Unit := do
  let result ← await Transport.disconnect
  markDisconnected
  match result with
  | .ok () => pure ()
  | .error error => fail (.transport error)

def nextEvent : ClientM τ ε (Option Event) := do
  ensureConnected
  let packet ← readNextPacket
  locally (Trace.retainSyncResponse packet)
  updateTracking packet
  match packet.intoEvent with
  | none => pure none
  | some event =>
    locally (Trace.publishDomainEvent event)
    pure (some event)

end Transported

end Client

end Meshquill
