import Meshquill.FifoMap
import Meshquill.Protocol.Command
import Meshquill.Protocol.Parse
import Meshquill.Transport

/-!
# Client state and its history

The fields of `Client` and every function of `client.rs` that runs without suspending.
`pending_acks` with `pending_ack_order`, and `completed_acks` with
`completed_ack_order`, are one `FifoMap` each.

A run is recorded in a history, newest entry first. An entry is what was observed and
the client right after it, so a suffix of a history is the whole past of one of its
entries. The broadcast channel is the `published` entries. The other observations only
mark where the source does something a later reader asks about; no function reads the
history.
-/
namespace Meshquill

/-- `Duration`, in nanoseconds. -/
abbrev Duration := Nat

def Duration.seconds (count : Nat) : Duration := count * 1000000000

/-- `CLIENT_REQUEST_TIMEOUT`. -/
def clientRequestTimeout : Duration := Duration.seconds 5

/-- `MAX_OPERATION_TIMEOUT`. -/
def maxOperationTimeout : Duration := Duration.seconds (24 * 60 * 60)

/-- `CLIENT_PENDING_ACK_CAPACITY`. -/
def clientPendingAckCapacity : Nat := 256

/-- `CLIENT_COMPLETED_ACK_CAPACITY`. -/
def clientCompletedAckCapacity : Nat := 256

/-- `CLIENT_SYNC_READY_DRAIN_CAPACITY`. -/
def clientSyncReadyDrainCapacity : Nat := 256

/-- A consumed answer to an inbox synchronisation. -/
inductive ReadySync where
  | message (message : Message)
  | noMoreMessages
  | error

inductive SyncState where
  | idle
  | awaitingResponse
deriving DecidableEq

/-- The fields of `Client` other than its transport and its event channel. -/
structure Client where
  requestTimeout : Duration := clientRequestTimeout
  connected : Bool := false
  pendingAcks : FifoMap AckCode CommandTracking := .empty
  completedAcks : FifoMap AckCode Ack := .empty
  nextMessageObservationId : UInt64 := 1
  syncState : SyncState := .idle
  deferredSync : Option ReadySync := none

/-- The answer a packet gives to an outstanding synchronisation, if it is one. -/
def Packet.readySync : Packet → Option ReadySync
  | .contactMsg message | .channelMsg message => some (.message message)
  | .noMoreMsgs => some .noMoreMessages
  | .error _ => some .error
  | _ => none

/-- The message an answer carries, if any. -/
def ReadySync.message? : ReadySync → Option Message
  | .message carried => some carried
  | _ => none

/-- Fill in the observation id of a message packet. -/
def Packet.withObservationId (id : UInt64) : Packet → Packet
  | .contactMsg message => .contactMsg { message with observationId := some id }
  | .channelMsg message => .channelMsg { message with observationId := some id }
  | other => other

/-- The observation id after this packet: a message uses one up, and zero is skipped when
the ids wrap. -/
def Packet.nextObservationId (packet : Packet) (id : UInt64) : UInt64 :=
  if packet.message?.isSome then if id + 1 = 0 then 1 else id + 1 else id

/-- What a run lets a reader of its history see. -/
inductive Observation where
  /-- `connect` cleared the trackers, before it asked the transport. -/
  | forgot
  /-- The transport opened and the client became connected. -/
  | opened
  /-- `mark_disconnected`. -/
  | closed
  /-- The transport was asked to write this payload. -/
  | wrote (payload : Bytes)
  /-- `send_raw` refused this payload: an earlier synchronisation is unanswered. -/
  | refused (payload : Bytes)
  /-- `write_raw` turned this payload away: it is empty or too long. -/
  | unsendable (payload : Bytes)
  /-- These inbound bytes did not parse. -/
  | rejected (raw : Bytes)
  /-- An inbound packet was decoded; a message has its id by now. -/
  | decoded (packet : Packet)
  | published (event : Event)
  /-- An answer was kept for the next `sync_next_message`. -/
  | retained (ready : ReadySync)
  /-- `sync_next_message` returns this answer. -/
  | handed (ready : ReadySync)
  /-- A `MsgSent` for this code is tracked. -/
  | issued (code : AckCode)
  /-- The ACK of a pending code was kept for a later `wait_for_ack`. -/
  | recorded (ack : Ack)
  /-- `wait_for_ack` returns this ACK. -/
  | claimed (ack : Ack)
  /-- `wait_for_ack` failed on an `Error` packet. -/
  | dismissed
  /-- A failed `wait_for_ack` dropped its code. -/
  | abandoned (code : AckCode)

/-- An observation and the client right after it. -/
structure Entry where
  seen : Observation
  client : Client

/-- A client and the history that led to it. -/
structure Trace where
  client : Client := {}
  history : List Entry := []

namespace Client

/-- `clear_tracking`. -/
def clearTracking (client : Client) : Client :=
  { client with pendingAcks := .empty, completedAcks := .empty }

/-- `clear_sync_tracking`. -/
def clearSyncTracking (client : Client) : Client :=
  { client with syncState := .idle, deferredSync := none }

def rememberPendingAck (tracking : CommandTracking) (client : Client) : Client :=
  { client with
    pendingAcks := client.pendingAcks.remember clientPendingAckCapacity tracking.ackCode tracking }

variable (code : AckCode)

def discardPendingAck (client : Client) : Client :=
  { client with pendingAcks := client.pendingAcks.discard code }

def takePendingAck (client : Client) : Option CommandTracking × Client :=
  ((client.pendingAcks.take code).1, { client with pendingAcks := (client.pendingAcks.take code).2 })

def rememberCompletedAck (ack : Ack) (client : Client) : Client :=
  { client with
    completedAcks := client.completedAcks.remember clientCompletedAckCapacity ack.code ack }

def discardCompletedAck (client : Client) : Client :=
  { client with completedAcks := client.completedAcks.discard code }

def takeCompletedAck (client : Client) : Option Ack × Client :=
  ((client.completedAcks.take code).1,
    { client with completedAcks := (client.completedAcks.take code).2 })

/-- The client that `parse_packet` leaves behind: only a message uses up an id. -/
def observing (packet : Packet) (client : Client) : Client :=
  { client with
    nextMessageObservationId := packet.nextObservationId client.nextMessageObservationId }

end Client

namespace Trace

def note (seen : Observation) (trace : Trace) : Trace :=
  { trace with history := ⟨seen, trace.client⟩ :: trace.history }

def update (change : Client → Client) (trace : Trace) : Trace :=
  { trace with client := change trace.client }

def publishDomainEvent (event : Event) (trace : Trace) : Trace := trace.note (.published event)

variable (packet : Packet) (trace : Trace)

def retainSyncResponse : Trace :=
  if trace.client.syncState ≠ .awaitingResponse then trace
  else
    match packet.readySync with
    | some ready =>
      (trace.update fun client =>
        { client with deferredSync := some ready, syncState := .idle }).note (.retained ready)
    | none => trace

def publishEvent : Trace :=
  match packet.intoEvent with
  | some event => (trace.retainSyncResponse packet).publishDomainEvent event
  | none => trace.retainSyncResponse packet

/-- Track an accepted send: a completed ACK of an earlier use of its code is dropped. -/
def trackSent (tracking : CommandTracking) (trace : Trace) : Trace :=
  (trace.update fun client =>
    (client.discardCompletedAck tracking.ackCode).rememberPendingAck tracking).note
      (.issued tracking.ackCode)

/-- `update_tracking` for an ACK packet. -/
def trackAck (ack : Ack) (trace : Trace) : Trace :=
  match trace.client.takePendingAck ack.code with
  | (some _, client) =>
    ({ trace with client := client.rememberCompletedAck ack }).note (.recorded ack)
  | (none, client) => { trace with client }

def updateTracking : Trace :=
  match packet with
  | .msgSent _ expectedAck suggestedTimeoutMs =>
    trace.trackSent { ackCode := expectedAck, timeoutMs := suggestedTimeoutMs }
  | .ack ack => trace.trackAck ack
  | _ => trace

def markDisconnected : Trace :=
  let closed := (trace.update fun client =>
    { client.clearTracking.clearSyncTracking with connected := false }).note .closed
  if trace.client.connected then closed.publishDomainEvent .disconnected else closed

/-- The first two statements of `connect`. -/
def forget : Trace :=
  (trace.update fun client => client.clearTracking.clearSyncTracking).note .forgot

/-- `self.connected = true` after the transport has opened. -/
def establish : Trace :=
  (trace.update fun client => { client with connected := true }).note .opened

/-- A synchronisation takes its answer from the wire: the client is idle again, a message
is published, and the answer is returned. -/
def handOver (ready : ReadySync) (trace : Trace) : Trace :=
  let idle := trace.update fun client => { client with syncState := .idle }
  let shown := if packet.message?.isSome then idle.publishEvent packet else idle
  shown.note (.handed ready)

/-- A synchronisation takes the retained answer, if there is one. -/
def takeDeferredSync : Trace :=
  match trace.client.deferredSync with
  | some ready => (trace.update fun client => { client with deferredSync := none }).note (.handed ready)
  | none => trace

theorem takeDeferredSync_of_none {trace : Trace} (nothing : trace.client.deferredSync = none) :
    trace.takeDeferredSync = trace := by
  simp [takeDeferredSync, nothing]

theorem takeDeferredSync_of_some {trace : Trace} {ready : ReadySync}
    (kept : trace.client.deferredSync = some ready) :
    trace.takeDeferredSync =
      (trace.update fun client => { client with deferredSync := none }).note (.handed ready) := by
  simp [takeDeferredSync, kept]

/-- A wait takes the completed ACK of its code, if there is one. -/
def takeCompletedAck (code : AckCode) (trace : Trace) : Trace :=
  match trace.client.takeCompletedAck code with
  | (some ack, client) => ({ trace with client }).note (.claimed ack)
  | (none, client) => { trace with client }

/-- A wait reads the ACK it waits for. -/
def claimAck (ack : Ack) (trace : Trace) : Trace :=
  ((trace.update (Client.discardPendingAck ack.code)).publishEvent (.ack ack)).note (.claimed ack)

/-- A wait that failed drops its code from both trackers. -/
def abandonAck (code : AckCode) (trace : Trace) : Trace :=
  (trace.update fun client =>
    (client.discardPendingAck code).discardCompletedAck code).note (.abandoned code)

/-- A parsed packet as the client passes it on: a message has its observation id. -/
def number (parsed : Packet) (trace : Trace) : Packet :=
  parsed.withObservationId trace.client.nextMessageObservationId

/-- The updates that `parse_packet` makes for a packet that parsed. -/
def decode (parsed : Packet) (trace : Trace) : Trace :=
  (trace.update (Client.observing parsed)).note (.decoded (trace.number parsed))

/-- `parse_packet`. -/
def parsePacket (raw : Bytes) (trace : Trace) : Except Fault Packet × Trace :=
  match Packet.parse raw with
  | .ok parsed => (.ok (trace.number parsed), trace.decode parsed)
  | .error (.rejected error) => (.error (.rejected error), trace.note (.rejected raw))
  | .error .panicked => (.error .panicked, trace)

/-- Set the state of a fresh synchronisation, whose write follows at once. -/
def synchronise : Trace :=
  trace.update fun client => { client with syncState := .awaitingResponse }

end Trace

end Meshquill
