import Meshquill.Client.Conversations
import Meshquill.Client.Steps

/-!
# What an operation makes of a trace

Most of what the client does without suspending is one of four things: it notes something that
is neither an event nor an outgoing payload, it updates fields other than `connected`, it
publishes the event of a packet, or it marks itself disconnected. A preorder on traces that
contains these is `Tolerant`. `Trails` says that a computation moves its trace along such a
preorder, however it ends. The rules here follow the operations; what is left to show for one is
what its own payloads do, and what opening a session does. A preorder that is `Tolerant` but for
the answers that a synchronisation hands over is `Steady`, which is enough for the operations that
hand nothing over.
-/
namespace Meshquill

/-- An observation other than an event, an outgoing payload and a change of the connection. -/
def Observation.isPlain : Observation → Bool
  | .wrote _ | .refused _ | .unsendable _ | .published _ | .opened | .closed => false
  | _ => true

/-- A preorder on traces that contains what any operation may do. -/
class Tolerant (along : Trace → Trace → Prop) : Prop where
  refl : ∀ trace, along trace trace
  trans : ∀ {first second third}, along first second → along second third → along first third
  noted : ∀ trace seen, Observation.isPlain seen = true → along trace (trace.note seen)
  updated : ∀ trace change, (change trace.client).connected = trace.client.connected →
    along trace (trace.update change)
  shown : ∀ trace (packet : Packet) event, packet.intoEvent = some event →
    along trace (trace.publishDomainEvent event)
  closed : ∀ trace, along trace trace.markDisconnected

/-- An observation that any operation may make, and not only a synchronisation. -/
def Observation.isSteady : Observation → Bool
  | .handed _ => false
  | seen => seen.isPlain

theorem Observation.plain_of_steady {seen : Observation} (steady : seen.isSteady = true) :
    seen.isPlain = true := by
  cases seen with
  | handed => cases steady
  | _ => exact steady

/-- A preorder on traces that contains what an operation may do that hands nothing over. -/
class Steady (along : Trace → Trace → Prop) : Prop where
  refl : ∀ trace, along trace trace
  trans : ∀ {first second third}, along first second → along second third → along first third
  noted : ∀ trace seen, Observation.isSteady seen = true → along trace (trace.note seen)
  updated : ∀ trace change, (change trace.client).connected = trace.client.connected →
    along trace (trace.update change)
  shown : ∀ trace (packet : Packet) event, packet.intoEvent = some event →
    along trace (trace.publishDomainEvent event)
  closed : ∀ trace, along trace trace.markDisconnected

instance {along : Trace → Trace → Prop} [tolerant : Tolerant along] : Steady along where
  refl := tolerant.refl
  trans := tolerant.trans
  noted trace seen steady := tolerant.noted trace seen (Observation.plain_of_steady steady)
  updated := tolerant.updated
  shown := tolerant.shown
  closed := tolerant.closed

namespace Steady

variable {along : Trace → Trace → Prop} [Steady along] (trace : Trace)

/-- An update and a note of it. -/
theorem marked {change : Client → Client} {seen : Observation}
    (same : (change trace.client).connected = trace.client.connected)
    (steady : seen.isSteady = true) : along trace ((trace.update change).note seen) :=
  trans (updated trace change same) (noted _ _ steady)

theorem retainSyncResponse (packet : Packet) : along trace (trace.retainSyncResponse packet) := by
  unfold Trace.retainSyncResponse
  split
  · exact refl _
  · split
    · exact marked trace rfl rfl
    · exact refl _

theorem publishEvent (packet : Packet) : along trace (trace.publishEvent packet) := by
  unfold Trace.publishEvent
  split
  · rename_i event carried
    exact trans (retainSyncResponse trace packet) (shown _ packet event carried)
  · exact retainSyncResponse trace packet

theorem updateTracking (packet : Packet) : along trace (trace.updateTracking packet) := by
  unfold Trace.updateTracking
  split
  · exact marked trace rfl rfl
  · rename_i ack
    cases found : trace.client.pendingAcks.map.lookup ack.code with
    | none =>
      rw [Trace.trackAck_of_unknown found]
      exact refl _
    | some tracking =>
      rw [Trace.trackAck_of_pending found]
      exact marked trace rfl rfl
  · exact refl _

theorem takeCompletedAck (code : AckCode) : along trace (trace.takeCompletedAck code) := by
  have same : (trace.client.takeCompletedAck code).2.connected = trace.client.connected := rfl
  unfold Trace.takeCompletedAck
  split
  · rename_i ack client taken
    rw [taken] at same
    exact trans (updated trace (fun _ => client) same) (noted _ _ rfl)
  · rename_i client taken
    rw [taken] at same
    exact updated trace (fun _ => client) same

theorem claimAck (ack : Ack) : along trace (trace.claimAck ack) :=
  trans (trans (updated trace _ rfl) (publishEvent _ _)) (noted _ _ rfl)

end Steady

namespace Tolerant

variable {along : Trace → Trace → Prop} [Tolerant along] (trace : Trace)

theorem takeDeferredSync : along trace trace.takeDeferredSync := by
  unfold Trace.takeDeferredSync
  split
  · exact trans (updated trace _ rfl) (noted _ _ rfl)
  · exact refl _

theorem handOver (packet : Packet) (ready : ReadySync) :
    along trace (trace.handOver packet ready) := by
  unfold Trace.handOver
  refine trans ?_ (noted _ _ rfl)
  split
  · exact trans (updated trace _ rfl) (Steady.publishEvent _ packet)
  · exact updated trace _ rfl

end Tolerant

namespace Client

open Async

variable {τ ε α β : Type} {along : Trace → Trace → Prop}

/-- The computation moves its trace along the preorder. -/
def Trails (along : Trace → Trace → Prop) (body : ClientM τ ε α) : Prop :=
  Moves (fun world reached => along world.trace reached.trace) body

/-- Whatever becomes of this payload when it is sent, it is tolerated. -/
structure Sends (along : Trace → Trace → Prop) (payload : Bytes) : Prop where
  wrote : ∀ trace : Trace, along trace (trace.note (.wrote payload))
  refused : ∀ trace : Trace, along trace (trace.note (.refused payload))
  unsendable : payload = [] ∨ maxInnerPayload < payload.length →
    ∀ trace : Trace, along trace (trace.note (.unsendable payload))

section Rules

variable [Steady along]

theorem trails_pure (value : α) : Trails along (pure value : ClientM τ ε α) := fun _ => Steady.refl _

theorem trails_fail (error : CoreError) : Trails along (fail error : ClientM τ ε α) :=
  fun _ => Steady.refl _

theorem trails_self : Trails along (self : ClientM τ ε Client) := fun _ => Steady.refl _

theorem trails_bind {first : ClientM τ ε α} {next : α → ClientM τ ε β} (head : Trails along first)
    (tail : ∀ value, Trails along (next value)) : Trails along (first >>= next) := by
  apply moves_bind _ head tail
  intro world middle reached before later
  exact Steady.trans before later

variable {body : ClientM τ ε α}

omit [Steady along] in
theorem trails_attempt (trails : Trails along body) : Trails along (attempt body) :=
  moves_attempt trails

theorem trails_loop {body : β → ClientM τ ε (β ⊕ α)} (round : ∀ carried, Trails along (body carried))
    (carried : β) : Trails along (loop World.remaining body carried) := by
  apply moves_loop
  · intro world
    exact Steady.refl world.trace
  · intro world middle reached before later
    exact Steady.trans before later
  · exact round

theorem trails_ofExcept (result : Except CoreError α) :
    Trails along (ofExcept result : ClientM τ ε α) := by
  cases result with
  | ok value => exact trails_pure value
  | error error => exact trails_fail error

/-- An operation that first checks its arguments. -/
theorem trails_validated {check : Except CoreError Unit} {next : Unit → ClientM τ ε α}
    (valid : check = .ok () → Trails along (next ())) :
    Trails along (ofExcept check >>= next) := by
  cases checked : check with
  | error error => exact (trails_fail error : Trails along (fail error : ClientM τ ε α))
  | ok => exact valid checked

theorem trails_discard (trails : Trails along body) :
    Trails along (discard body : ClientM τ ε Unit) :=
  trails_bind trails fun _ => trails_pure ()

theorem trails_await (call : ε → τ → Call α × τ) : Trails along (await call) := by
  intro world
  unfold await
  split
  · exact Steady.refl _
  · split <;> exact Steady.refl _

omit [Steady along] in
theorem trails_timeout (duration : Duration) (trails : Trails along body) :
    Trails along (timeout duration body) := fun world => trails { world with deadline := true }

theorem trails_ensureConnected : Trails along (ensureConnected : ClientM τ ε Unit) := by
  intro world
  unfold ensureConnected
  split <;> exact Steady.refl _

omit [Steady along] in
theorem trails_locally {change : Trace → Trace}
    (tolerated : ∀ trace : Trace, along trace (change trace)) :
    Trails along (locally change : ClientM τ ε Unit) :=
  fun world => tolerated world.trace

theorem trails_markDisconnected : Trails along (markDisconnected : ClientM τ ε Unit) :=
  trails_locally Steady.closed

theorem trails_markDisconnectedIf (terminal : Bool) :
    Trails along (markDisconnectedIf terminal : ClientM τ ε Unit) := by
  cases terminal with
  | true => exact trails_markDisconnected
  | false => exact trails_pure ()

theorem trails_parsePacket (raw : Bytes) : Trails along (parsePacket raw : ClientM τ ε Packet) := by
  intro world
  simp only [parsePacket, Trace.parsePacket]
  rcases Packet.parse raw with (error | _) | parsed
  · exact Steady.noted _ _ rfl
  · exact Steady.refl _
  · exact Steady.marked world.trace rfl rfl

theorem trails_publishEvent (packet : Packet) :
    Trails along (publishEvent packet : ClientM τ ε Unit) :=
  trails_locally fun trace => Steady.publishEvent trace packet

theorem trails_updateTracking (packet : Packet) :
    Trails along (updateTracking packet : ClientM τ ε Unit) :=
  trails_locally fun trace => Steady.updateTracking trace packet

/-- A packet is passed on, and the loop goes on. -/
theorem trails_passOn (packet : Packet) (carried : β) :
    Trails along (publishEvent packet >>= fun _ => updateTracking packet >>= fun _ =>
      pure (.inl carried) : ClientM τ ε (β ⊕ α)) :=
  trails_bind (trails_publishEvent packet) fun _ =>
    trails_bind (trails_updateTracking packet) fun _ => trails_pure _

theorem trails_awaitResponse {read : ClientM τ ε Packet} (trails : Trails along read)
    (judge : β → Packet → PacketWait β α) (carried : β) :
    Trails along (awaitResponse read judge carried) := by
  refine trails_loop (fun carried => trails_bind trails fun packet => ?_) carried
  cases judge carried packet with
  | ready | keep => exact trails_pure _
  | fail error => exact trails_fail _
  | proceed => exact trails_passOn packet carried

section Transported

variable [Transport τ ε]

theorem trails_readNextPacket : Trails along (readNextPacket : ClientM τ ε Packet) := by
  refine trails_bind (trails_await _) fun result => ?_
  rcases result with error | (_ | raw)
  · exact trails_bind (trails_markDisconnectedIf _) fun _ => trails_fail _
  · exact trails_bind trails_markDisconnected fun _ => trails_fail _
  · exact trails_parsePacket raw

theorem trails_readNextPacketWithTimeout :
    Trails along (readNextPacketWithTimeout : ClientM τ ε Packet) :=
  trails_bind trails_self fun _ => trails_timeout _ trails_readNextPacket

/-- Waiting for the response to a command that has been written. -/
theorem trails_response (judge : β → Packet → PacketWait β α) (carried : β) :
    Trails along (awaitResponse readNextPacketWithTimeout judge carried : ClientM τ ε α) :=
  trails_awaitResponse trails_readNextPacketWithTimeout judge carried

theorem trails_tryRead :
    Trails along (tryRead : ClientM τ ε (Except TransportError ReadyRead)) := by
  intro world
  unfold tryRead
  split <;> exact Steady.refl _

variable {payload : Bytes} {command : Command}

theorem trails_writeRaw (sends : Sends along payload) :
    Trails along (writeRaw payload : ClientM τ ε Unit) := by
  unfold writeRaw
  split
  · rename_i empty
    have turned := sends.unsendable (.inl (List.isEmpty_iff.mp empty))
    exact trails_bind (trails_locally turned) fun _ => trails_fail _
  split
  · rename_i long
    exact trails_bind (trails_locally (sends.unsendable (.inr long))) fun _ => trails_fail _
  refine trails_bind (trails_locally sends.wrote) fun _ => trails_bind (trails_await _) fun result => ?_
  cases result with
  | ok => exact trails_pure _
  | error error => exact trails_bind (trails_markDisconnectedIf _) fun _ => trails_fail _

theorem trails_sendRaw (sends : Sends along payload) :
    Trails along (sendRaw payload : ClientM τ ε Unit) := by
  refine trails_bind trails_self fun client => ?_
  split
  · exact trails_bind (trails_locally sends.refused) fun _ => trails_fail _
  · exact trails_writeRaw sends

section Sent

variable (sends : Sends along command.intoEncoded)

include sends

theorem trails_sendOnly :
    Trails along (sendOnly command : ClientM τ ε Unit) :=
  trails_bind trails_ensureConnected fun _ => trails_sendRaw sends

/-- A command, then its response. -/
theorem trails_exchange
    (judge : β → Packet → PacketWait β α) (carried : β) :
    Trails along (sendOnly command >>= fun _ =>
      awaitResponse readNextPacketWithTimeout judge carried : ClientM τ ε α) :=
  trails_bind (trails_sendOnly sends) fun _ => trails_response judge carried

theorem trails_sent (trackAck : Bool) :
    Trails along (sendCommandExpectMsgSentInner command trackAck : ClientM τ ε CommandTracking) := by
  refine trails_bind (trails_sendOnly sends) fun _ =>
    trails_bind (trails_response _ _) fun tracking =>
      trails_bind (trails_locally fun trace => ?_) fun _ => trails_pure _
  cases trackAck with
  | true => exact Steady.marked trace rfl rfl
  | false => exact Steady.refl _

/-- A send, and the remote answer to it. -/
theorem trails_remote (operation : String)
    (extract : CommandTracking → Packet → PacketWait Unit α) :
    Trails along (do
      let tracking ← sendCommandExpectMsgSentUntracked command
      waitForPacket (← remoteResponseTimeout tracking.timeoutMs) operation
        (extract tracking) : ClientM τ ε α) :=
  trails_bind (trails_sent sends false) fun _ =>
    trails_bind (trails_bind trails_self fun _ => trails_pure _) fun _ =>
      trails_timeout _ (trails_awaitResponse trails_readNextPacket _ _)

theorem trails_farewell :
    Trails along (sendDisconnectCommand command : ClientM τ ε Unit) :=
  trails_bind (trails_sendOnly sends) fun _ => trails_bind (trails_await _) fun _ =>
    trails_markDisconnected

end Sent

/-- What is built from exchanges, if any payload is tolerated. -/
theorem trails_converses (sends : ∀ payload, Sends along payload) {body : ClientM τ ε α}
    (converses : Converses body) : Trails along body := by
  induction converses with
  | pure value => exact trails_pure value
  | fail error => exact trails_fail error
  | bind head tail first rest => exact trails_bind first rest
  | ensureConnected => exact trails_ensureConnected
  | exchange ordinary follows carried => exact trails_exchange (sends _) _ carried
  | sent direct trackAck => exact trails_sent (sends _) trackAck
  | remote remote operation extracts => exact trails_remote (sends _) operation _
  | farewell silent => exact trails_farewell (sends _)

/-! ## Sessions, the inbox and ACKs -/

theorem trails_init (sends : Sends along Command.appStart.intoEncoded) :
    Trails along (init : ClientM τ ε SelfInfo) :=
  trails_bind trails_ensureConnected fun _ => trails_bind (trails_sendOnly sends) fun _ =>
    trails_bind (trails_response _ _) fun _ =>
      trails_bind (trails_publishEvent _) fun _ => trails_pure _

section Opening

variable (sends : Sends along Command.appStart.intoEncoded)
  (established : ∀ trace : Trace, along trace trace.establish)
  (opened : ∀ trace : Trace, along trace (trace.publishDomainEvent .connected))

include sends established opened

theorem trails_startSession : Trails along (startSession : ClientM τ ε SelfInfo) := by
  refine trails_bind (trails_locally established) fun _ =>
    trails_bind (trails_attempt (trails_init sends)) fun result => ?_
  cases result with
  | ok info => exact trails_bind (trails_locally opened) fun _ => trails_pure _
  | error error =>
    exact trails_bind (trails_await _) fun _ => trails_bind trails_markDisconnected fun _ =>
      trails_fail _

/-- Opening the transport, then the session. -/
theorem trails_open (call : ε → τ → Call Unit × τ) :
    Trails along (do
      match ← await call with
      | .ok () => startSession
      | .error error => fail (.transport error) : ClientM τ ε SelfInfo) := by
  refine trails_bind (trails_await call) fun result => ?_
  cases result with
  | ok => exact trails_startSession sends established opened
  | error error => exact trails_fail _

theorem trails_connect : Trails along (connect : ClientM τ ε SelfInfo) :=
  trails_bind (trails_locally fun trace => Steady.marked trace rfl rfl) fun _ =>
    trails_open sends established opened _

theorem trails_reconnect : Trails along (reconnect : ClientM τ ε SelfInfo) :=
  trails_bind trails_markDisconnected fun _ => trails_open sends established opened _

end Opening

theorem trails_disconnect : Trails along (disconnect : ClientM τ ε Unit) := by
  refine trails_bind (trails_await _) fun result => trails_bind trails_markDisconnected fun _ => ?_
  cases result with
  | ok => exact trails_pure _
  | error error => exact trails_fail _

theorem trails_nextEvent : Trails along (nextEvent : ClientM τ ε (Option Event)) := by
  refine trails_bind trails_ensureConnected fun _ => trails_bind trails_readNextPacket
    fun packet => trails_bind
      (trails_locally fun trace => Steady.retainSyncResponse trace packet) fun _ =>
        trails_bind (trails_updateTracking packet) fun _ => ?_
  cases shown : packet.intoEvent with
  | none => exact trails_pure _
  | some event =>
    exact trails_bind (trails_locally fun trace => Steady.shown trace packet event shown)
      fun _ => trails_pure _

theorem trails_awaitAck (ackCode : AckCode) : Trails along (awaitAck ackCode : ClientM τ ε Ack) := by
  refine trails_loop (fun _ => trails_bind trails_readNextPacket fun packet => ?_) ()
  cases packet with
  | ack ack =>
    simp only
    split
    · exact trails_bind (trails_locally fun trace => Steady.claimAck trace ack)
        fun _ => trails_pure _
    · exact trails_passOn _ _
  | error code =>
    exact trails_bind (trails_locally fun trace => Steady.noted trace _ rfl) fun _ => trails_fail _
  | _ => exact trails_bind (trails_publishEvent _) fun _ => trails_pure _

theorem trails_waitForAck (ackCode : AckCode) (requestTimeout : Option Duration) :
    Trails along (waitForAck ackCode requestTimeout : ClientM τ ε Ack) := by
  refine trails_bind (trails_ofExcept _) fun _ => trails_bind trails_ensureConnected fun _ =>
    trails_bind trails_self fun client =>
      trails_bind (trails_locally fun trace => Steady.takeCompletedAck trace ackCode) fun _ => ?_
  cases (client.takeCompletedAck ackCode).1 with
  | some ack => exact trails_pure _
  | none =>
    refine trails_bind trails_self fun _ => trails_bind
      (trails_attempt (trails_timeout _ (trails_awaitAck ackCode))) fun result => ?_
    cases result with
    | ok ack => exact trails_pure _
    | error error =>
      exact trails_bind (trails_locally fun trace => Steady.marked trace rfl rfl) fun _ =>
        trails_fail _

end Transported

end Rules

/-! ## Synchronisation -/

section Synchronising

variable [Tolerant along] [Transport τ ε]

theorem trails_drainReadyPacket :
    Trails along (drainReadyPacket : ClientM τ ε (Unit ⊕ Option ReadySync)) := by
  refine trails_bind trails_tryRead fun result => ?_
  rcases result with error | (_ | _ | raw)
  · exact trails_bind (trails_markDisconnectedIf _) fun _ => trails_fail _
  · exact trails_pure _
  · exact trails_bind trails_markDisconnected fun _ => trails_fail _
  · refine trails_bind (trails_parsePacket raw) fun packet => ?_
    cases packet.readySync with
    | some ready =>
      exact trails_bind (trails_locally fun trace => Tolerant.handOver trace packet ready)
        fun _ => trails_pure _
    | none => exact trails_passOn packet ()

theorem trails_drainReadyPackets (left : Nat) :
    Trails along (drainReadyPackets left : ClientM τ ε (Option ReadySync)) := by
  induction left with
  | zero =>
    refine trails_bind trails_drainReadyPacket fun result => ?_
    cases result with
    | inl => exact trails_fail _
    | inr result => exact trails_pure _
  | succ left ih =>
    refine trails_bind trails_drainReadyPacket fun result => ?_
    cases result with
    | inl => exact ih
    | inr result => exact trails_pure _

theorem trails_waitForSyncResponse :
    Trails along (waitForSyncResponse : ClientM τ ε (Option Message)) := by
  refine trails_loop (fun _ => trails_bind trails_readNextPacketWithTimeout fun packet => ?_) ()
  cases packet.readySync with
  | some ready =>
    exact trails_bind (trails_locally fun trace => Tolerant.handOver trace packet ready)
      fun _ => trails_ofExcept _
  | none => exact trails_passOn packet ()

theorem trails_syncNextMessage (sends : Sends along Command.syncNextMessage.intoEncoded) :
    Trails along (syncNextMessage : ClientM τ ε (Option Message)) := by
  refine trails_bind trails_ensureConnected fun _ => trails_bind ?_ fun deferred => ?_
  · exact trails_bind trails_self fun _ =>
      trails_bind (trails_locally Tolerant.takeDeferredSync) fun _ => trails_pure _
  cases deferred with
  | some ready => exact trails_ofExcept _
  | none =>
    refine trails_bind (trails_drainReadyPackets _) fun drained => ?_
    cases drained with
    | some ready => exact trails_ofExcept _
    | none =>
      refine trails_bind trails_self fun client => ?_
      split
      · exact trails_waitForSyncResponse
      · exact trails_bind (trails_locally fun trace => Steady.updated trace _ rfl) fun _ =>
          trails_bind (trails_writeRaw sends) fun _ => trails_waitForSyncResponse

end Synchronising

end Client

/-! ## What an operation adds to the history

`Logs` says that a computation adds observations of one kind only. Most of what the client
does adds ordinary ones. The others are the payloads it is asked to send and the event that
ends a successful opening of a session, so to show that an operation logs a kind that includes
the ordinary observations it is enough to look at these.
-/

open History

/-- Anything but an outgoing payload and the event of a new session. -/
def Observation.isOrdinary : Observation → Bool
  | .wrote _ | .refused _ | .unsendable _ | .published .connected => false
  | _ => true

variable (kind : Observation → Prop)

/-- The history continues the earlier one by observations of one kind. -/
abbrev Logged : List Entry → List Entry → Prop :=
  Adds fun entry => kind entry.seen

/-- The trace continues the earlier one by observations of one kind. -/
def Logging (trace reached : Trace) : Prop :=
  Logged kind trace.history reached.history

/-- No packet stands for a new session. -/
theorem Packet.intoEvent_ne_connected (packet : Packet) : packet.intoEvent ≠ some .connected := by
  cases packet <;> exact nofun

theorem Observation.ordinary_of_plain {seen : Observation} (plain : seen.isPlain = true) :
    seen.isOrdinary = true := by
  cases seen <;> first
    | rfl
    | cases plain

theorem Observation.ordinary_published {packet : Packet} {event : Event}
    (shown : packet.intoEvent = some event) : (Observation.published event).isOrdinary = true := by
  cases event <;> first
    | rfl
    | exact absurd shown packet.intoEvent_ne_connected

/-- A kind that includes the ordinary observations is tolerant. -/
theorem tolerant_logging {kind : Observation → Prop}
    (ordinary : ∀ seen : Observation, seen.isOrdinary = true → kind seen) :
    Tolerant (Logging kind) where
  refl _ := .refl _
  trans before later := before.trans later
  noted _ _ plain := .cons (ordinary _ (Observation.ordinary_of_plain plain)) (.refl _)
  updated _ _ _ := .refl _
  shown _ _ _ carried := .cons (ordinary _ (Observation.ordinary_published carried)) (.refl _)
  closed trace := by
    unfold Trace.markDisconnected
    split
    · exact .cons (ordinary _ rfl) (.cons (ordinary _ rfl) (.refl _))
    · exact .cons (ordinary _ rfl) (.refl _)

/-- The computation adds observations of this kind only. -/
abbrev Client.Logs {τ ε α : Type} (body : ClientM τ ε α) : Prop :=
  Trails (Logging kind) body

end Meshquill
