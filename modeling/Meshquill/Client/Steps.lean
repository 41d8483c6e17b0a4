import Meshquill.Client.Requests
import Meshquill.Protocol.Response
import Meshquill.History

/-!
# What a client can do between two suspension points

`Act` lists every block of statements that the client runs without suspending, with the
guards under which the source reaches it. The main result is `run_acts`: every run, with
any calls, cancellations, transport and inbound bytes, is a path of such acts. An
invariant of all runs is then a property that each act keeps, and no proof about runs
looks at the operations again.

`Safe` is partial correctness of an operation against paths of acts. Its conditions are
on the client only, because the transport and the turns appear in no act.
-/
namespace Meshquill

/-- Nothing is tracked, outstanding or retained. -/
structure Client.Clear (client : Client) : Prop where
  pending : client.pendingAcks = .empty
  completed : client.completedAcks = .empty
  idle : client.syncState = .idle
  nothing : client.deferredSync = none

/-- What passing a packet on adds to a history. -/
def Observation.isShown : Observation → Bool
  | .published _ | .retained _ => true
  | _ => false

/-- What tracking a packet adds to a history. -/
def Observation.isTracking : Observation → Bool
  | .issued _ | .recorded _ => true
  | _ => false

/-- The payload handed to the transport, if this is a write. -/
def Observation.written? : Observation → Option Bytes
  | .wrote payload => some payload
  | _ => none

/-- The payload of `SYNC_NEXT_MESSAGE`. -/
def syncPayload : Bytes := Command.syncNextMessage.intoEncoded

theorem SyncState.idle_of_ne {state : SyncState} (different : state ≠ .awaitingResponse) :
    state = .idle := by
  cases state with
  | idle => rfl
  | awaitingResponse => exact absurd rfl different

/-! ## Frame lemmas -/

namespace Trace

open History

variable (trace : Trace) (packet : Packet)

@[simp] theorem note_client (seen : Observation) : (trace.note seen).client = trace.client := rfl

@[simp] theorem note_history (seen : Observation) :
    (trace.note seen).history = ⟨seen, trace.client⟩ :: trace.history := rfl

@[simp] theorem update_client (change : Client → Client) :
    (trace.update change).client = change trace.client := rfl

@[simp] theorem update_history (change : Client → Client) :
    (trace.update change).history = trace.history := rfl

@[simp] theorem publishDomainEvent_client (event : Event) :
    (trace.publishDomainEvent event).client = trace.client := rfl

@[simp] theorem publishDomainEvent_history (event : Event) :
    (trace.publishDomainEvent event).history = ⟨.published event, trace.client⟩ :: trace.history :=
  rfl

/-- An idle client retains nothing. -/
theorem retainSyncResponse_of_idle {trace : Trace} (idle : trace.client.syncState = .idle) :
    trace.retainSyncResponse packet = trace := by
  simp [retainSyncResponse, idle]

/-- A packet that answers no synchronisation is not retained. -/
theorem retainSyncResponse_of_other {packet : Packet} (other : packet.readySync = none) :
    trace.retainSyncResponse packet = trace := by
  simp [retainSyncResponse, other]

theorem retainSyncResponse_of_awaiting {trace : Trace} {packet : Packet} {ready : ReadySync}
    (awaiting : trace.client.syncState = .awaitingResponse)
    (answer : packet.readySync = some ready) :
    trace.retainSyncResponse packet =
      (trace.update fun client =>
        { client with deferredSync := some ready, syncState := .idle }).note (.retained ready) := by
  simp [retainSyncResponse, awaiting, answer]

/-- The client after publishing is the client after retaining. -/
@[simp] theorem publishEvent_client :
    (trace.publishEvent packet).client = (trace.retainSyncResponse packet).client := by
  unfold publishEvent
  split <;> rfl

theorem retainSyncResponse_adds :
    Adds (fun entry => entry.seen.isShown) trace.history
      (trace.retainSyncResponse packet).history := by
  unfold retainSyncResponse
  split
  · exact .refl _
  · split
    · exact .cons rfl (.refl _)
    · exact .refl _

theorem publishEvent_adds :
    Adds (fun entry => entry.seen.isShown) trace.history (trace.publishEvent packet).history := by
  unfold publishEvent
  split
  · exact .cons rfl (trace.retainSyncResponse_adds packet)
  · exact trace.retainSyncResponse_adds packet

/-- Retaining touches the synchronisation fields only. -/
theorem retainSyncResponse_frame :
    (trace.retainSyncResponse packet).client =
      { trace.client with
        syncState := (trace.retainSyncResponse packet).client.syncState
        deferredSync := (trace.retainSyncResponse packet).client.deferredSync } := by
  unfold retainSyncResponse
  split
  · rfl
  · split <;> rfl

@[simp] theorem retainSyncResponse_connected :
    (trace.retainSyncResponse packet).client.connected = trace.client.connected := by
  rw [retainSyncResponse_frame]

@[simp] theorem retainSyncResponse_pendingAcks :
    (trace.retainSyncResponse packet).client.pendingAcks = trace.client.pendingAcks := by
  rw [retainSyncResponse_frame]

@[simp] theorem retainSyncResponse_completedAcks :
    (trace.retainSyncResponse packet).client.completedAcks = trace.client.completedAcks := by
  rw [retainSyncResponse_frame]

variable {ack : Ack} {code : AckCode}

/-- The ACK of a pending code moves to the completed ones. -/
theorem trackAck_of_pending {trace : Trace} {tracking : CommandTracking}
    (pending : trace.client.pendingAcks.map.lookup ack.code = some tracking) :
    trace.trackAck ack =
      (trace.update fun client =>
        (client.discardPendingAck ack.code).rememberCompletedAck ack).note (.recorded ack) := by
  simp [trackAck, Client.takePendingAck, FifoMap.take_of_lookup pending, update,
    Client.discardPendingAck]

/-- Any other ACK is ignored. -/
theorem trackAck_of_unknown {trace : Trace}
    (unknown : trace.client.pendingAcks.map.lookup ack.code = none) :
    trace.trackAck ack = trace := by
  simp [trackAck, Client.takePendingAck, FifoMap.take_of_not_found unknown]

theorem trackAck_adds (ack : Ack) :
    Adds (fun entry => entry.seen.isTracking) trace.history (trace.trackAck ack).history := by
  cases found : trace.client.pendingAcks.map.lookup ack.code with
  | none =>
    rw [trackAck_of_unknown found]
    exact .refl _
  | some tracking =>
    rw [trackAck_of_pending found]
    exact .cons rfl (.refl _)

theorem updateTracking_adds :
    Adds (fun entry => entry.seen.isTracking) trace.history
      (trace.updateTracking packet).history := by
  unfold updateTracking
  split
  · exact .cons rfl (.refl _)
  · exact trace.trackAck_adds _
  · exact .refl _

/-- Tracking touches the two trackers only. -/
theorem updateTracking_frame :
    (trace.updateTracking packet).client =
      { trace.client with
        pendingAcks := (trace.updateTracking packet).client.pendingAcks
        completedAcks := (trace.updateTracking packet).client.completedAcks } := by
  unfold updateTracking
  split
  · rfl
  · rename_i ack
    cases found : trace.client.pendingAcks.map.lookup ack.code with
    | none => rw [trackAck_of_unknown found]
    | some tracking => rw [trackAck_of_pending found]; rfl
  · rfl

@[simp] theorem updateTracking_connected :
    (trace.updateTracking packet).client.connected = trace.client.connected := by
  rw [updateTracking_frame]

@[simp] theorem updateTracking_syncState :
    (trace.updateTracking packet).client.syncState = trace.client.syncState := by
  rw [updateTracking_frame]

@[simp] theorem updateTracking_deferredSync :
    (trace.updateTracking packet).client.deferredSync = trace.client.deferredSync := by
  rw [updateTracking_frame]

@[simp] theorem updateTracking_nextMessageObservationId :
    (trace.updateTracking packet).client.nextMessageObservationId =
      trace.client.nextMessageObservationId := by
  rw [updateTracking_frame]

/-- A completed ACK is taken out of its tracker. -/
theorem takeCompletedAck_of_found {trace : Trace}
    (found : trace.client.completedAcks.map.lookup code = some ack) :
    trace.takeCompletedAck code =
      (trace.update (Client.discardCompletedAck code)).note (.claimed ack) := by
  simp [takeCompletedAck, Client.takeCompletedAck, FifoMap.take_of_lookup found, update,
    Client.discardCompletedAck]

theorem takeCompletedAck_of_missing {trace : Trace}
    (missing : trace.client.completedAcks.map.lookup code = none) :
    trace.takeCompletedAck code = trace := by
  simp [takeCompletedAck, Client.takeCompletedAck, FifoMap.take_of_not_found missing]

@[simp] theorem takeCompletedAck_connected (code : AckCode) :
    (trace.takeCompletedAck code).client.connected = trace.client.connected := by
  cases found : trace.client.completedAcks.map.lookup code with
  | none => rw [takeCompletedAck_of_missing found]
  | some ack => rw [takeCompletedAck_of_found found]; rfl

/-- Taking an answer from the wire ends the synchronisation and changes nothing else. -/
@[simp] theorem handOver_client (ready : ReadySync) :
    (trace.handOver packet ready).client = { trace.client with syncState := .idle } := by
  unfold handOver
  split
  · rw [note_client, publishEvent_client, retainSyncResponse_of_idle packet rfl, update_client]
  · rfl

@[simp] theorem takeDeferredSync_client :
    trace.takeDeferredSync.client = { trace.client with deferredSync := none } := by
  unfold takeDeferredSync
  split
  · rfl
  · rename_i nothing
    rw [← nothing]

/-- An ACK answers no synchronisation, so claiming it only drops the pending code. -/
@[simp] theorem claimAck_client (ack : Ack) :
    (trace.claimAck ack).client = trace.client.discardPendingAck ack.code := by
  unfold claimAck
  rw [note_client, publishEvent_client, retainSyncResponse_of_other _ rfl, update_client]

@[simp] theorem markDisconnected_client :
    trace.markDisconnected.client =
      { trace.client.clearTracking.clearSyncTracking with connected := false } := by
  unfold markDisconnected
  split <;> rfl

theorem markDisconnected_clear : trace.markDisconnected.client.Clear := by
  rw [markDisconnected_client]
  exact ⟨rfl, rfl, rfl, rfl⟩

@[simp] theorem decode_client :
    (trace.decode packet).client = trace.client.observing packet := rfl

@[simp] theorem decode_history :
    (trace.decode packet).history =
      ⟨.decoded (trace.number packet), trace.client.observing packet⟩ :: trace.history := rfl

end Trace

section Observing

variable (packet : Packet) (client : Client)

@[simp] theorem Client.observing_connected :
    (client.observing packet).connected = client.connected := rfl

@[simp] theorem Client.observing_syncState :
    (client.observing packet).syncState = client.syncState := rfl

@[simp] theorem Client.observing_deferredSync :
    (client.observing packet).deferredSync = client.deferredSync := rfl

@[simp] theorem Client.observing_pendingAcks :
    (client.observing packet).pendingAcks = client.pendingAcks := rfl

@[simp] theorem Client.observing_completedAcks :
    (client.observing packet).completedAcks = client.completedAcks := rfl

end Observing

/-- Only a message is numbered. -/
theorem Trace.number_of_message_none {parsed : Packet} (plain : parsed.message? = none)
    (trace : Trace) : trace.number parsed = parsed := by
  cases parsed <;> first | rfl | exact absurd plain (by simp [Packet.message?])

/-- A packet that is numbered is still a message. -/
theorem Trace.number_message? (trace : Trace) (parsed : Packet) :
    (trace.number parsed).message? =
      parsed.message?.map fun message =>
        { message with observationId := some trace.client.nextMessageObservationId } := by
  cases parsed <;> rfl

/-- The packet before numbering, when the numbered one is not a message. -/
theorem Trace.eq_of_number {trace : Trace} {parsed packet : Packet}
    (numbered : trace.number parsed = packet) (plain : packet.message? = none) :
    parsed = packet := by
  rw [← numbered, number_message?, Option.map_eq_none_iff] at plain
  rw [← numbered, number_of_message_none plain]

/-! ## Acts and paths -/

/-- One block of statements without a suspension point. A decoded packet and what the
operation does with it are one block. `allowed` says on which clients `connect` is called. -/
inductive Act (allowed : Client → Prop) : Trace → Trace → Prop
  /-- `connect` clears the trackers, whatever the client is doing. -/
  | forgot (trace : Trace) (called : allowed trace.client) : Act allowed trace trace.forget
  /-- The transport has opened; everything was cleared before the call was awaited. -/
  | established (trace : Trace) (clear : trace.client.Clear) : Act allowed trace trace.establish
  | closed (trace : Trace) : Act allowed trace trace.markDisconnected
  /-- An event that is not a message: `Connected`, or the answer to `APP_START`. -/
  | announced (trace : Trace) (event : Event) (plain : ∀ message, event ≠ .message message) :
      Act allowed trace (trace.publishDomainEvent event)
  /-- A command other than a synchronisation is handed to the transport. -/
  | wrote (trace : Trace) (payload : Bytes) (connected : trace.client.connected = true)
      (idle : trace.client.syncState = .idle) (command : payload ≠ syncPayload) :
      Act allowed trace (trace.note (.wrote payload))
  /-- A fresh synchronisation is handed to the transport. -/
  | synchronised (trace : Trace) (connected : trace.client.connected = true)
      (idle : trace.client.syncState = .idle) (nothing : trace.client.deferredSync = none) :
      Act allowed trace (trace.synchronise.note (.wrote syncPayload))
  | refused (trace : Trace) (payload : Bytes)
      (awaiting : trace.client.syncState = .awaitingResponse) :
      Act allowed trace (trace.note (.refused payload))
  | unsendable (trace : Trace) (payload : Bytes) :
      Act allowed trace (trace.note (.unsendable payload))
  | rejected (trace : Trace) (raw : Bytes) (error : ParseError)
      (connected : trace.client.connected = true)
      (malformed : Packet.parse raw = .error (.rejected error)) :
      Act allowed trace (trace.note (.rejected raw))
  /-- A loop publishes and tracks a packet that is not for it. -/
  | passed (trace : Trace) (parsed : Packet) (connected : trace.client.connected = true) :
      Act allowed trace (((trace.decode parsed).publishEvent (trace.number parsed)).updateTracking
        (trace.number parsed))
  /-- `next_event` retains, tracks and then publishes. -/
  | surfaced (trace : Trace) (parsed : Packet) (event : Event)
      (connected : trace.client.connected = true)
      (shown : (trace.number parsed).intoEvent = some event) :
      Act allowed trace ((((trace.decode parsed).retainSyncResponse (trace.number parsed)).updateTracking
        (trace.number parsed)).publishDomainEvent event)
  /-- `next_event` on a packet without an event. -/
  | swallowed (trace : Trace) (parsed : Packet) (connected : trace.client.connected = true)
      (hidden : (trace.number parsed).intoEvent = none) :
      Act allowed trace (((trace.decode parsed).retainSyncResponse (trace.number parsed)).updateTracking
        (trace.number parsed))
  /-- `wait_for_ack` publishes a packet that is neither an ACK nor an error, untracked. -/
  | watched (trace : Trace) (parsed : Packet) (connected : trace.client.connected = true)
      (other : ∀ ack, parsed ≠ .ack ack) :
      Act allowed trace ((trace.decode parsed).publishEvent (trace.number parsed))
  /-- A synchronisation takes its answer from the wire. -/
  | handed (trace : Trace) (parsed : Packet) (ready : ReadySync)
      (connected : trace.client.connected = true)
      (answer : (trace.number parsed).readySync = some ready) :
      Act allowed trace ((trace.decode parsed).handOver (trace.number parsed) ready)
  /-- A command takes a packet as its own response. -/
  | accepted (trace : Trace) (parsed : Packet) (connected : trace.client.connected = true)
      (idle : trace.client.syncState = .idle) (plain : parsed.isDelivery = false) :
      Act allowed trace (trace.decode parsed)
  /-- `wait_for_ack` reads the ACK it waits for. -/
  | claimed (trace : Trace) (ack : Ack) (connected : trace.client.connected = true) :
      Act allowed trace ((trace.decode (.ack ack)).claimAck ack)
  /-- `wait_for_ack` fails on an error packet. -/
  | dismissed (trace : Trace) (code : Option UInt8) (connected : trace.client.connected = true) :
      Act allowed trace ((trace.decode (.error code)).note .dismissed)
  | tookDeferred (trace : Trace) (connected : trace.client.connected = true) :
      Act allowed trace trace.takeDeferredSync
  | tookCompleted (trace : Trace) (code : AckCode) (connected : trace.client.connected = true) :
      Act allowed trace (trace.takeCompletedAck code)
  | issued (trace : Trace) (tracking : CommandTracking)
      (connected : trace.client.connected = true) : Act allowed trace (trace.trackSent tracking)
  | abandoned (trace : Trace) (code : AckCode) : Act allowed trace (trace.abandonAck code)

/-- Any number of acts. -/
abbrev Acts (allowed : Client → Prop) : Trace → Trace → Prop :=
  Relation.ReflTransGen (Act allowed)

/-! ## Partial correctness of operations -/

namespace Client

open Async

variable {τ ε α β : Type} {allowed : Client → Prop}

/-- From a client satisfying `before`, the operation is a path of acts however it ends,
and a value it returns leaves a client satisfying `after`. -/
def Safe (allowed before : Client → Prop) (body : ClientM τ ε α) (after : α → Client → Prop) :
    Prop :=
  Spec (fun world => before world.client) body
    (fun world reached => Acts allowed world.trace reached.trace)
    (fun value reached => after value reached.client)

/-- The rest of an operation, in the middle of a block that began at `start`. -/
def Leads (allowed : Client → Prop) (start : Trace) (body : ClientM τ ε α)
    (after : α → Client → Prop) (world : World τ ε) : Prop :=
  Acts allowed start (body world).2.trace ∧
    ∀ value, (body world).1 = .done value → after value (body world).2.client

section Rules

variable {before : Client → Prop} {after : α → Client → Prop}

variable {body : ClientM τ ε α} {next : α → ClientM τ ε β} {final : β → Client → Prop}

theorem Safe.weaken {weaker : Client → Prop} {stronger : α → Client → Prop}
    (safe : Safe allowed weaker body stronger) (entry : ∀ client, before client → weaker client)
    (leave : ∀ value client, stronger value client → after value client) :
    Safe allowed before body after :=
  Spec.weaken safe (fun _ holds => entry _ holds) (fun value _ holds => leave value _ holds)

theorem safe_pure (value : α) (ready : ∀ client, before client → after value client) :
    Safe allowed before (pure value : ClientM τ ε α) after :=
  spec_pure (fun _ => .refl) value (fun _ holds => ready _ holds)

theorem safe_fail (error : CoreError) : Safe allowed before (fail error : ClientM τ ε α) after :=
  spec_fail (fun _ => .refl) error

theorem safe_bind {first : ClientM τ ε α} {middle : α → Client → Prop}
    (head : Safe allowed before first middle)
    (tail : ∀ value, Safe allowed (middle value) (next value) final) :
    Safe allowed before (first >>= next) final :=
  spec_bind (fun _ _ _ => .trans) head tail

theorem safe_discard (safe : Safe allowed before body after) :
    Safe allowed before (discard body) (fun _ _ => True) :=
  safe_bind safe (fun _ => safe_pure () (fun _ _ => trivial))

theorem safe_attempt (safe : Safe allowed before body after) :
    Safe allowed before (attempt body)
      (fun result client => ∀ value, result = .ok value → after value client) :=
  spec_attempt safe

/-- A loop whose rounds all start from clients satisfying one condition. -/
theorem safe_loop {body : β → ClientM τ ε (β ⊕ α)} {invariant : Client → Prop}
    (round : ∀ carried, Safe allowed invariant (body carried)
      (fun result client => match result with
        | .inl _ => invariant client
        | .inr value => after value client)) (carried : β) :
    Safe allowed invariant (loop World.remaining body carried) after := by
  let holdsIn (_ : β) (world : World τ ε) : Prop := invariant world.client
  have rounds : ∀ carried, Spec (holdsIn carried) (body carried)
      (fun world reached => Acts allowed world.trace reached.trace)
      (fun result reached => match result with
        | .inl next => holdsIn next reached
        | .inr value => after value reached.client) := by
    intro carried world holds
    obtain ⟨moved, returned⟩ := round carried world holds
    refine ⟨moved, ?_⟩
    intro result ended
    have settled := returned result ended
    cases result <;> exact settled
  exact spec_loop (fun _ => .refl) (fun _ _ _ => .trans) World.remaining rounds carried

/-- A statement that does not suspend is safe when it is a block of acts. -/
theorem safe_locally {change : Trace → Trace} (final : Client → Prop)
    (acts : ∀ trace, before trace.client → Acts allowed trace (change trace))
    (ends : ∀ trace : Trace, before trace.client → final (change trace).client) :
    Safe allowed before (locally change : ClientM τ ε Unit) (fun _ => final) := by
  intro world holds
  exact ⟨acts _ holds, fun _ _ => ends _ holds⟩

theorem safe_self : Safe allowed before (self : ClientM τ ε Client)
    (fun value client => value = client ∧ before client) := by
  intro world holds
  refine ⟨.refl, ?_⟩
  rintro value ended
  obtain rfl : world.client = value := by simpa [self] using ended
  exact ⟨rfl, holds⟩

theorem safe_ofExcept (result : Except CoreError α) :
    Safe allowed before (ofExcept result : ClientM τ ε α)
      (fun value client => result = .ok value ∧ before client) := by
  cases result with
  | ok value => exact safe_pure value (fun _ holds => ⟨rfl, holds⟩)
  | error error => exact safe_fail error

/-- Awaiting a transport call is no act, however the call ends. -/
theorem safe_await (call : ε → τ → Call α × τ) :
    Safe allowed before (await call) (fun _ => before) := by
  intro world holds
  unfold await
  split
  · exact ⟨.refl, by simp⟩
  · split
    · exact ⟨.refl, fun _ _ => holds⟩
    · refine ⟨.refl, ?_⟩
      intro value ended
      split at ended <;> simp at ended

theorem safe_timeout (duration : Duration) (safe : Safe allowed before body after) :
    Safe allowed before (timeout duration body) after := by
  intro world holds
  exact safe { world with deadline := true } holds

theorem safe_ensureConnected : Safe allowed before (ensureConnected : ClientM τ ε Unit)
    (fun _ client => client.connected = true ∧ before client) := by
  intro world holds
  unfold ensureConnected
  split
  · rename_i connected
    exact ⟨.refl, fun _ _ => ⟨connected, holds⟩⟩
  · exact ⟨.refl, by simp⟩

theorem safe_markDisconnected : Safe allowed before (markDisconnected : ClientM τ ε Unit)
    (fun _ client => client.Clear) :=
  safe_locally Clear (fun trace _ => .single (.closed trace))
    (fun trace _ => trace.markDisconnected_clear)

/-- Nothing runs after an operation that never returns a value. -/
theorem safe_exit (exits : Safe allowed before body (fun _ _ => False)) :
    Safe allowed before (body >>= next) final :=
  safe_bind exits (fun _ _ impossible => impossible.elim)

theorem safe_note {seen : Observation}
    (act : ∀ trace : Trace, before trace.client → Act allowed trace (trace.note seen)) :
    Safe allowed before (locally (Trace.note seen) : ClientM τ ε Unit) (fun _ => before) :=
  safe_locally before (fun trace holds => .single (act trace holds)) (fun _ holds => holds)

theorem safe_markDisconnectedIf (terminal : Bool) :
    Safe allowed before (markDisconnectedIf terminal : ClientM τ ε Unit) (fun _ _ => True) := by
  cases terminal with
  | true => exact safe_markDisconnected.weaken (fun _ holds => holds) (fun _ _ _ => trivial)
  | false => exact safe_pure () (fun _ _ => trivial)

end Rules

/-! ## Writing -/

section Writing

variable [Transport τ ε]

/-- Connected, with no synchronisation outstanding: how a command leaves the client after
its write, and as long as it waits for its response. -/
def Commanding (client : Client) : Prop :=
  client.connected = true ∧ client.syncState = .idle

variable {payload : Bytes} {command : Command}

theorem safe_writeRaw (command : payload ≠ syncPayload) :
    Safe allowed Commanding (writeRaw payload : ClientM τ ε Unit) (fun _ => Commanding) := by
  unfold writeRaw
  split
  · exact safe_bind (safe_note fun trace _ => .unsendable trace payload) fun _ => safe_fail _
  · split
    · exact safe_bind (safe_note fun trace _ => .unsendable trace payload) fun _ => safe_fail _
    · refine safe_bind (safe_note fun trace ready =>
        .wrote trace payload ready.1 ready.2 command) ?_
      intro _
      refine safe_bind (safe_await _) ?_
      intro result
      cases result with
      | ok _ => exact safe_pure () (fun _ ready => ready)
      | error error => exact safe_bind (safe_markDisconnectedIf _) (fun _ => safe_fail _)

theorem safe_sendRaw (command : payload ≠ syncPayload) :
    Safe allowed (fun client => client.connected = true) (sendRaw payload : ClientM τ ε Unit)
      (fun _ => Commanding) := by
  refine safe_bind safe_self ?_
  intro client
  split
  · rename_i awaiting
    exact safe_bind
      (safe_note fun trace same => .refused trace payload (same.1 ▸ awaiting))
      (fun _ => safe_fail _)
  · rename_i notAwaiting
    refine (safe_writeRaw command).weaken ?_ (fun _ _ ready => ready)
    rintro current ⟨rfl, connected⟩
    exact ⟨connected, SyncState.idle_of_ne notAwaiting⟩

/-- Every command that is not a synchronisation differs from it in its first byte. -/
theorem ordinary_of_code (code : CommandCode) (same : command.code = code)
    (different : code.toU8 ≠ 0x0a) : command.intoEncoded ≠ syncPayload := by
  subst same
  intro equal
  exact different (List.cons.inj equal).1

theorem safe_sendOnly {before : Client → Prop} (ordinary : command.intoEncoded ≠ syncPayload) :
    Safe allowed before (sendOnly command : ClientM τ ε Unit) (fun _ => Commanding) :=
  safe_bind safe_ensureConnected (fun _ =>
    (safe_sendRaw ordinary).weaken (fun _ ready => ready.1) (fun _ _ ready => ready))

end Writing

/-! ## Reading -/

section Reading

/-- A read followed by what the operation does with the packet: the decoding and the
handling are one block. -/
def Reads (allowed : Client → Prop) (read : ClientM τ ε Packet) : Prop :=
  ∀ {α : Type} {before : Client → Prop} {after : α → Client → Prop}
    (handle : Packet → ClientM τ ε α),
    (∀ client, before client → client.connected = true) →
    (∀ (world : World τ ε) (trace : Trace) (parsed : Packet), before trace.client →
      world.trace = trace.decode parsed →
      Leads allowed trace (handle (trace.number parsed)) after world) →
    Safe allowed before (read >>= handle) after

theorem reads_parsePacket (raw : Bytes) : Reads allowed (parsePacket raw : ClientM τ ε Packet) := by
  intro α before after handle connected handled world holds
  simp only [bind_apply, parsePacket, Trace.parsePacket]
  cases parsed : Packet.parse raw with
  | ok packet =>
    exact handled { world with trace := world.trace.decode packet } world.trace packet holds rfl
  | error fault =>
    cases fault with
    | rejected error =>
      exact ⟨.single (.rejected world.trace raw error (connected _ holds) parsed), by simp⟩
    | panicked => exact ⟨.refl, by simp⟩

theorem reads_readNextPacket [Transport τ ε] : Reads allowed (readNextPacket : ClientM τ ε Packet) := by
  intro α before after handle connected handled
  rw [readNextPacket, bind_assoc]
  refine safe_bind (safe_await _) ?_
  rintro (error | _ | raw)
  · exact safe_exit (safe_bind (safe_markDisconnectedIf _) (fun _ => safe_fail _))
  · exact safe_exit (safe_bind safe_markDisconnected (fun _ => safe_fail _))
  · exact reads_parsePacket raw handle connected handled

/-- A deadline around the read only changes how an unresolved read ends. -/
theorem Reads.timeout {read : ClientM τ ε Packet} (reads : Reads allowed read) (duration : Duration) :
    Reads allowed (timeout duration read) := by
  intro α before after handle connected handled world holds
  let restored (packet : Packet) : ClientM τ ε α := fun inner =>
    handle packet { inner with deadline := world.deadline }
  have inside := reads restored connected
    (fun inner trace parsed holds same => handled { inner with deadline := world.deadline }
      trace parsed holds same) { world with deadline := true } holds
  simp only [bind_apply, Client.timeout] at inside ⊢
  rcases ran : read { world with deadline := true } with ⟨exit, reached⟩
  rw [ran] at inside
  cases exit with
  | done | failed | dropped => exact inside

theorem reads_readNextPacketWithTimeout [Transport τ ε] :
    Reads allowed (readNextPacketWithTimeout : ClientM τ ε Packet) := by
  intro α before after handle connected handled
  rw [readNextPacketWithTimeout, bind_assoc]
  refine safe_bind safe_self ?_
  intro client
  refine (reads_readNextPacket.timeout _ handle connected handled).weaken ?_ ?_
  · exact fun _ same => same.2
  · exact fun _ _ ends => ends

end Reading

end Client

end Meshquill
