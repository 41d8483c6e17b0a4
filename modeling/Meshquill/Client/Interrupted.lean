import Meshquill.Client.Managed
import Meshquill.Client.Outcomes
import Meshquill.Protocol.Total
import Meshquill.Transport.Device

/-!
# What a cancellation leaves behind

An interrupted operation may leave a part of its response unread, so the actor closes the
session before it takes the next one. A wait for an ACK has written nothing: its session goes
on, every packet it read has been passed on, and every packet it has not read is still there.
-/
namespace Meshquill

open History

/-! ## The disconnect after an interruption -/

namespace Client

open Async

variable {τ ε : Type}

@[simp] theorem connected_markDisconnected (trace : Trace) :
    trace.markDisconnected.client.connected = false := by
  unfold Trace.markDisconnected
  split <;> rfl

/-- The client is disconnected, unless this error is that of a timer. -/
def Severed (error : CoreError) (trace : Trace) (_ : τ) : Prop :=
  error ≠ .timeout → trace.client.connected = false

variable [Transport τ ε]

/-- A disconnect that ends, other than by a timer, leaves the client disconnected. -/
theorem ends_disconnect :
    Ends (fun _ _ => True) (disconnect : ClientM τ ε Unit)
      (fun _ trace _ => trace.client.connected = false) Severed (fun _ _ => True) := by
  have awaits : Ends (fun _ _ => True) (await Transport.disconnect : ClientM τ ε _)
      (fun _ _ _ => True) Severed (fun _ _ => True) :=
    ends_await (fun _ _ _ _ _ _ _ => trivial)
      (fun _ _ _ _ _ _ => ⟨fun other => absurd rfl other, trivial⟩) fun _ _ _ => trivial
  have marks : Ends (fun _ _ => True) (markDisconnected : ClientM τ ε Unit)
      (fun _ trace _ => trace.client.connected = false) Severed (fun _ _ => True) :=
    ends_locally fun trace _ _ => connected_markDisconnected trace
  refine ends_bind awaits fun result => ends_bind marks fun _ => ?_
  cases result with
  | ok => exact ends_pure () fun _ _ closed => closed
  | error error => exact ends_fail _ fun _ _ closed _ => closed

/-- If the timer has not expired, the client is disconnected. -/
theorem ends_interruptedDisconnect :
    Ends (fun _ _ => True) (interruptedDisconnect : ClientM τ ε Bool)
      (fun inTime trace _ => inTime = true → trace.client.connected = false)
      (fun _ _ _ => True) (fun _ _ => True) := by
  refine ends_bind (ends_attempt (ends_timeout _ ends_disconnect)) fun result => ?_
  cases result with
  | ok => exact ends_pure true fun _ _ closed _ => closed
  | error error =>
    exact ends_pure _ fun _ _ severed inTime => severed (of_decide_eq_true inTime)

end Client

/-- An interruption after which the session is closed. -/
def ActorEvent.severs : ActorEvent → Prop
  | .interrupted submission => submission.command.isWaitForAck = false
  | _ => False

namespace Managed

variable {τ ε : Type}

/-- An operation was interrupted, not a wait, and none has started since. -/
def Broken (log : List ActorEvent) : Prop := Since ActorEvent.severs ActorEvent.isStart log

/-- Until the next start after such an interruption the actor is in the disconnect, or idle
and disconnected, or past its loop; and at that start the client was disconnected. -/
structure Severed (managed : Managed τ ε) : Prop where
  now : Broken managed.log → managed.phase = .closing ∨ managed.phase = .stopped ∨
    (managed.phase = .ready ∧ managed.world.client.connected = false)
  starts : Always (fun event earlier => ∀ queued epoch cancels connected,
    event = .started queued epoch cancels connected → Broken earlier → connected = false)
    managed.log

/-- A state with the same log, where the actor has not moved. -/
theorem Severed.unmoved {managed next : Managed τ ε} (severed : Severed managed)
    (log : next.log = managed.log) (phase : next.phase = managed.phase)
    (world : next.world = managed.world) : Severed next where
  now broken := by
    rw [phase, world]
    exact severed.now (log ▸ broken)
  starts := log ▸ severed.starts

/-- A state with a new log entry that is neither of the two, where the actor has not moved. -/
theorem Severed.noted {managed next : Managed τ ε} (severed : Severed managed)
    {event : ActorEvent} (log : next.log = event :: managed.log) (harmless : ¬ event.severs)
    (other : ¬ event.isStart) (phase : next.phase = managed.phase)
    (world : next.world = managed.world) : Severed next where
  now broken := by
    rw [phase, world]
    rw [log] at broken
    exact severed.now ((since_cons_of_neither harmless other).mp broken)
  starts := by
    rw [log]
    exact ⟨fun _ _ _ _ same => absurd same (ActorEvent.ne_started other), severed.starts⟩

/-- While an operation runs, no interruption is pending. -/
theorem Severed.not_broken {managed : Managed τ ε} (severed : Severed managed)
    {queued : QueuedCommand} (running : managed.phase = .running queued) :
    ¬ Broken managed.log := by
  intro broken
  rcases severed.now broken with closing | stopped | ⟨ready, -⟩
  · cases running.symm.trans closing
  · cases running.symm.trans stopped
  · cases running.symm.trans ready

theorem step_severed [Transport τ ε] {capacity : Nat} (managed next : Managed τ ε)
    (step : Step capacity managed next) (severed : Severed managed) : Severed next := by
  cases step with
  | request command live | abandon before after queued waits | cancelPendingOperations live
  | release nobody | noticed ready changed => exact severed.unmoved rfl rfl rfl
  | send before after queued waits room => exact severed.noted rfl id id rfl rfl
  | discard queued rest ready next stale => exact severed.noted rfl id id rfl rfl
  | nextEvent turns ready connected =>
    refine ⟨fun broken => ?_, severed.starts⟩
    rcases severed.now broken with closing | stopped | ⟨-, disconnected⟩
    · cases ready.symm.trans closing
    · cases ready.symm.trans stopped
    · cases connected.symm.trans disconnected
  | start queued rest ready next current =>
    refine ⟨fun broken => absurd broken (not_since_cons_of_stop id trivial), ?_, severed.starts⟩
    intro started epoch cancels connected same broken
    obtain ⟨-, -, -, rfl⟩ := ActorEvent.started.inj same
    rcases severed.now broken with closing | stopped | ⟨-, disconnected⟩
    · cases ready.symm.trans closing
    · cases ready.symm.trans stopped
    · exact disconnected
  | finish queued turns goesOn reached running ended =>
    refine ⟨fun broken => ?_, fun _ _ _ _ same => absurd same (ActorEvent.ne_started id),
      severed.starts⟩
    exact absurd ((since_cons_of_neither id id).mp broken) (severed.not_broken running)
  | interrupt queued turns reached running changed dropped =>
    refine ⟨fun broken => ?_, fun _ _ _ _ same => absurd same (ActorEvent.ne_started id),
      severed.starts⟩
    cases waiting : queued.command.isWaitForAck with
    | false => exact .inl rfl
    | true =>
      have harmless : ¬ (ActorEvent.interrupted queued).severs := by
        simp [ActorEvent.severs, waiting]
      exact absurd ((since_cons_of_neither harmless id).mp broken) (severed.not_broken running)
  | close turns inTime reached closing ended =>
    refine ⟨fun _ => ?_, severed.starts⟩
    have closed := Client.ends_interruptedDisconnect (managed.world.granted turns) trivial
    rw [ended] at closed
    cases inTime with
    | true => exact .inr (.inr ⟨rfl, closed rfl⟩)
    | false => exact .inr (.inl rfl)
  | exhausted ready released empty => exact ⟨fun _ => .inr (.inl rfl), severed.starts⟩
  | leave turns stopped => exact ⟨fun _ => .inr (.inl stopped), severed.starts⟩

end Managed

/-! ## The interrupted wait -/

/-- The events that were published, newest first. -/
def Trace.events (trace : Trace) : List Event :=
  trace.history.filterMap fun entry =>
    match entry.seen with
    | .published event => some event
    | _ => none

namespace Trace

theorem events_retainSyncResponse (packet : Packet) (trace : Trace) :
    (trace.retainSyncResponse packet).events = trace.events := by
  unfold retainSyncResponse
  split
  · rfl
  split <;> rfl

theorem events_publishEvent (packet : Packet) (trace : Trace) :
    (trace.publishEvent packet).events = packet.intoEvent.toList ++ trace.events := by
  have same := events_retainSyncResponse packet trace
  unfold publishEvent
  split
  · rename_i event known
    rw [known]
    exact congrArg (event :: ·) same
  · rename_i unknown
    rw [unknown]
    exact same

theorem events_takeCompletedAck (code : AckCode) (trace : Trace) :
    (trace.takeCompletedAck code).events = trace.events := by
  unfold takeCompletedAck
  split <;> rfl

theorem pendingAcks_takeCompletedAck (code : AckCode) (trace : Trace) :
    (trace.takeCompletedAck code).client.pendingAcks = trace.client.pendingAcks := by
  unfold takeCompletedAck
  split <;> (rename_i taken; exact congrArg (·.2.pendingAcks) taken.symm)

theorem events_trackAck (ack : Ack) (trace : Trace) :
    (trace.trackAck ack).events = trace.events := by
  unfold trackAck
  split <;> rfl

/-- The ACK of another code leaves this one pending. -/
theorem pending_trackAck {code : AckCode} {ack : Ack} (other : ack.code ≠ code) (trace : Trace) :
    (trace.trackAck ack).client.pendingAcks.map.lookup code =
      trace.client.pendingAcks.map.lookup code := by
  cases found : trace.client.pendingAcks.map.lookup ack.code with
  | none => rw [trackAck_of_unknown found]
  | some tracking =>
    rw [trackAck_of_pending found]
    exact FifoMap.lookup_discard_of_ne (Ne.symm other) _

end Trace

/-- The packet that these bytes become. -/
def Decodes (raw : Bytes) (packet : Packet) : Prop :=
  ∃ parsed id, Packet.parse raw = .ok parsed ∧ packet = parsed.withObservationId id

/-- What a wait for this code has done since it began with this trace and this transport. It
consumed packets in the order in which they arrived, each one of them was decoded and its event
published, and the code is pending as before. The packets `taken` are out of the transport and
not yet published. -/
structure Heard {τ : Type} (inbound : τ → List Bytes) (code : AckCode) (opening : Trace) (start : τ)
    (taken : List Bytes) (trace : Trace) (transport : τ) : Prop where
  passedOn : ∃ consumed arrivals packets,
    inbound start ++ arrivals = consumed ++ taken ++ inbound transport ∧
      List.Forall₂ Decodes consumed packets ∧
        trace.events = (packets.filterMap Packet.intoEvent).reverse ++ opening.events
  pending : trace.client.pendingAcks.map.lookup code = opening.client.pendingAcks.map.lookup code

namespace Heard

variable {τ ε : Type} {inbound : τ → List Bytes} {code : AckCode} {opening trace : Trace}
  {start transport next : τ}

theorem begin : Heard inbound code opening start [] opening start :=
  ⟨⟨[], [], [], by simp, .nil, rfl⟩, rfl⟩

/-- The transport moves a packet on, or only receives more. -/
theorem moves {taken : List Bytes} (heard : Heard inbound code opening start [] trace transport)
    (moved : ∃ arrivals, inbound transport ++ arrivals = taken ++ inbound next) :
    Heard inbound code opening start taken trace next := by
  obtain ⟨⟨consumed, arrivals, packets, same, decoded, events⟩, pending⟩ := heard
  obtain ⟨newer, moved⟩ := moved
  refine ⟨⟨consumed, arrivals ++ newer, packets, ?_, decoded, events⟩, pending⟩
  rw [← List.append_assoc, same, List.append_nil, List.append_assoc, moved, List.append_assoc]

/-- The trace changes where neither its events nor its pending codes do. -/
theorem unheard {taken : List Bytes} {changed : Trace}
    (heard : Heard inbound code opening start taken trace transport)
    (events : changed.events = trace.events)
    (pending : changed.client.pendingAcks.map.lookup code =
      trace.client.pendingAcks.map.lookup code) :
    Heard inbound code opening start taken changed transport :=
  ⟨events ▸ heard.passedOn, pending.trans heard.pending⟩

/-- The event of a packet is published. -/
theorem publishes {raw : Bytes} {packet : Packet}
    (heard : Heard inbound code opening start [raw] trace transport)
    (decodes : Decodes raw packet) :
    Heard inbound code opening start [] (trace.publishEvent packet) transport := by
  obtain ⟨⟨consumed, arrivals, packets, same, decoded, events⟩, pending⟩ := heard
  refine ⟨⟨consumed ++ [raw], arrivals, packets ++ [packet], ?_, ?_, ?_⟩, ?_⟩
  · rw [same, List.append_nil]
  · exact List.rel_append decoded (.cons decodes .nil)
  · rw [Trace.events_publishEvent, events, List.filterMap_append, List.reverse_append]
    cases known : packet.intoEvent <;> simp [known]
  · rw [Trace.publishEvent_client, Trace.retainSyncResponse_pendingAcks]
    exact pending

end Heard

namespace Client

open Async

variable {τ ε : Type} [Transport τ ε] {inbound : τ → List Bytes} {code : AckCode} {opening : Trace}
  {start : τ}

/-- A packet has been read and is not yet published. -/
def Hearing (inbound : τ → List Bytes) (code : AckCode) (opening : Trace) (start : τ)
    (packet : Packet) (trace : Trace) (transport : τ) : Prop :=
  ∃ raw, Decodes raw packet ∧ Heard inbound code opening start [raw] trace transport

/-- What a resolved read takes out of the transport. -/
def HeardRead (inbound : τ → List Bytes) (code : AckCode) (opening : Trace) (start : τ) :
    Except TransportError (Option Bytes) → Trace → τ → Prop
  | .ok (some raw) => Heard inbound code opening start [raw]
  | _ => fun _ _ => True

variable (safe : CancellationSafe inbound)

include safe

theorem ends_hearing :
    Ends (Heard inbound code opening start []) (readNextPacket : ClientM τ ε Packet)
      (Hearing inbound code opening start) (fun _ _ _ => True)
      (Heard inbound code opening start []) := by
  have reads : Ends (Heard inbound code opening start []) (await Transport.read : ClientM τ ε _)
      (HeardRead inbound code opening start) (fun _ _ _ => True)
      (Heard inbound code opening start []) := by
    refine ends_await (fun io trace transport result next heard ran => ?_)
      (fun io trace transport next heard ran => ?_) fun _ _ heard => heard
    · rcases result with error | (_ | raw)
      · trivial
      · trivial
      · exact heard.moves (safe.reads io transport next raw ran)
    · exact ⟨trivial, heard.moves (safe.drops io transport next ran)⟩
  refine ends_bind reads fun result => ?_
  rcases result with error | (_ | raw)
  · cases terminal : isDisconnectError error with
    | true =>
      simp only [terminal, markDisconnectedIf]
      exact ends_locally_fail fun _ _ _ => trivial
    | false =>
      simp only [terminal, markDisconnectedIf]
      exact ends_fail _ fun _ _ _ => trivial
  · exact ends_locally_fail fun _ _ _ => trivial
  · refine ends_parsePacket (fun trace transport packet heard parses => ?_)
      (fun _ _ _ _ _ => trivial) fun _ _ _ panics => absurd panics (Packet.total_parse raw)
    exact ⟨raw, ⟨packet, _, parses, rfl⟩, heard.unheard rfl rfl⟩

theorem ends_heard_awaitAck :
    Ends (Heard inbound code opening start []) (awaitAck code : ClientM τ ε Ack)
      (fun _ _ _ => True) (fun _ _ _ => True) (Heard inbound code opening start []) := by
  refine ends_loop (fun _ _ heard => heard) (fun _ => ?_) ()
  refine ends_bind (ends_hearing safe) fun packet => ?_
  have publishes : Ends (Hearing inbound code opening start packet)
      (publishEvent packet : ClientM τ ε Unit)
      (fun _ => Heard inbound code opening start []) (fun _ _ _ => True)
      (Heard inbound code opening start []) :=
    ends_locally fun _ _ ⟨_, decodes, heard⟩ => heard.publishes decodes
  cases packet with
  | ack ack =>
    simp only
    split
    · exact ends_locally_pure fun _ _ _ => trivial
    · rename_i other
      refine ends_bind publishes fun _ => ends_locally_pure fun trace _ heard => ?_
      exact heard.unheard (Trace.events_trackAck ack trace) (Trace.pending_trackAck other trace)
  | error code => exact ends_locally_fail fun _ _ _ => trivial
  | _ => exact ends_bind publishes fun _ => ends_pure _ fun _ _ heard => heard

/-- A dropped wait. -/
theorem ends_heard_waitForAck (requestTimeout : Option Duration) :
    Ends (Heard inbound code opening start []) (waitForAck code requestTimeout : ClientM τ ε Ack)
      (fun _ _ _ => True) (fun _ _ _ => True) (Heard inbound code opening start []) := by
  refine ends_bind (ends_ofExcept _ (fun _ _ _ _ heard => heard) fun _ _ _ _ _ => trivial) fun _ =>
    ends_bind (ends_ensureConnected fun _ _ _ _ => trivial) fun _ => ?_
  have takes : Ends (Heard inbound code opening start [])
      (locally (Trace.takeCompletedAck code) : ClientM τ ε Unit)
      (fun _ => Heard inbound code opening start []) (fun _ _ _ => True)
      (Heard inbound code opening start []) :=
    ends_locally fun trace _ heard => heard.unheard (Trace.events_takeCompletedAck code trace)
      (congrArg (·.map.lookup code) (Trace.pendingAcks_takeCompletedAck code trace))
  refine ends_bind (ends_self.weaken (fun _ _ held => held.1) fun _ _ _ held => held.1) fun client =>
    ends_bind takes fun _ => ?_
  cases (client.takeCompletedAck code).1 with
  | some ack => exact ends_pure ack fun _ _ _ => trivial
  | none =>
    refine ends_bind (ends_self.weaken (fun _ _ held => held) fun _ _ _ held => held.1) fun client =>
      ends_bind (ends_attempt (ends_timeout _ (ends_heard_awaitAck safe))) fun result => ?_
    cases result with
    | ok ack => exact ends_pure ack fun _ _ _ => trivial
    | error error => exact ends_locally_fail fun _ _ _ => trivial

theorem ends_heard_handleCommand
    {requestTimeout : Option Duration}
    (offered : (Request.waitForAck code requestTimeout).isOffered = true) :
    Ends (Heard inbound code opening start [])
      (handleCommand (.operation (.waitForAck code requestTimeout) offered) : ClientM τ ε Bool)
      (fun _ _ _ => True) (fun _ _ _ => True) (Heard inbound code opening start []) := by
  have performs : Ends (Heard inbound code opening start [])
      ((Request.waitForAck code requestTimeout).perform : ClientM τ ε Unit)
      (fun _ _ _ => True) (fun _ _ _ => True) (Heard inbound code opening start []) :=
    ends_bind (ends_heard_waitForAck safe requestTimeout) fun _ => ends_pure () fun _ _ _ => trivial
  exact ends_bind (ends_attempt performs) fun _ => ends_pure true fun _ _ _ => trivial

end Client

namespace Managed

variable {τ ε : Type} [Transport τ ε] {inbound : τ → List Bytes} {capacity : Nat}

/-- An interrupted wait: the actor goes on with the same session. -/
theorem heard_of_interrupted (safe : CancellationSafe inbound) {managed next : Managed τ ε}
    (step : Step capacity managed next) {queued : QueuedCommand} {code : AckCode}
    {requestTimeout : Option Duration}
    {offered : (Request.waitForAck code requestTimeout).isOffered = true}
    (interrupted : next.log = .interrupted queued :: managed.log)
    (waits : queued.command = .operation (.waitForAck code requestTimeout) offered) :
    next.phase = .ready ∧ Heard inbound code managed.world.trace managed.world.transport []
      next.world.trace next.world.transport := by
  cases step with
  | request command live | abandon before after other waits | cancelPendingOperations live
  | release nobody | noticed ready changed | nextEvent turns ready connected
  | close turns inTime reached closing ended | exhausted ready released empty
  | leave turns stopped => exact absurd interrupted (List.cons_ne_self _ _).symm
  | send before after other waits room => cases (List.cons.inj interrupted).1
  | discard other rest ready next stale => cases (List.cons.inj interrupted).1
  | start other rest ready next current => cases (List.cons.inj interrupted).1
  | finish other turns goesOn reached running ended => cases (List.cons.inj interrupted).1
  | interrupt other turns reached running changed dropped =>
    obtain rfl := ActorEvent.interrupted.inj (List.cons.inj interrupted).1
    rw [waits] at dropped
    have heard := Client.ends_heard_handleCommand safe offered (managed.world.granted turns)
      (Heard.begin)
    rw [dropped] at heard
    exact ⟨by simp [note, waits, ActorCommand.isWaitForAck], heard⟩

/-- In every state that an actor reaches: an operation started only in the epoch it captured,
and if there were cancellations in between, then as many as the epoch has values, or a multiple;
operations started once each, in the order of the queue; after an interrupted operation other
than a wait the next one started disconnected, or the actor has stopped; and an interrupted wait
goes on in the same session, without having lost a packet and with its code still pending. -/
theorem reached_guarded (safe : CancellationSafe inbound) {world : World τ ε}
    {managed : Managed τ ε} (reached : Reaches capacity world managed) :
    (∀ queued epoch cancels connected, .started queued epoch cancels connected ∈ managed.log →
      queued.generation = epoch ∧ queued.captured ≤ cancels ∧ 2 ^ 64 ∣ cancels - queued.captured) ∧
    (queuedIds managed.log).Nodup ∧ (startedIds managed.log).Sublist (queuedIds managed.log) ∧
    (∀ later queued epoch cancels connected earlier,
      managed.log = later ++ .started queued epoch cancels connected :: earlier →
        Broken earlier → connected = false) ∧
    (Broken managed.log → managed.phase = .closing ∨ managed.phase = .stopped ∨
      (managed.phase = .ready ∧ managed.world.client.connected = false)) ∧
    (∀ next queued code requestTimeout offered, Step capacity managed next →
      next.log = .interrupted queued :: managed.log →
        queued.command = .operation (.waitForAck code requestTimeout) offered →
          next.phase = .ready ∧ Heard inbound code managed.world.trace managed.world.transport []
            next.world.trace next.world.transport) := by
  have counted : Counted managed := Transition.keeps step_counted reached
    ⟨rfl, fun _ inside => absurd inside List.not_mem_nil,
      fun _ _ _ _ inside => absurd inside List.not_mem_nil⟩
  have inOrder : InOrder managed := Transition.keeps step_inOrder reached
    ⟨⟨[], rfl, .slnil⟩, .nil, fun _ inside => absurd inside List.not_mem_nil⟩
  have severed : Severed managed := Transition.keeps step_severed reached
    ⟨fun broken => absurd broken not_since_nil, trivial⟩
  obtain ⟨taken, same, sublist⟩ := inOrder.taken
  refine ⟨counted.started, (List.nodup_append.mp inOrder.distinct).2.1, ?_, ?_, severed.now, ?_⟩
  · rw [same]
    exact sublist.trans (List.sublist_append_right _ _)
  · intro later queued epoch cancels connected earlier split broken
    exact always_iff.mp severed.starts _ _ _ split queued epoch cancels connected rfl broken
  · intro next queued code requestTimeout offered step interrupted waits
    exact heard_of_interrupted safe step interrupted waits

/-! ## Scenarios -/

/-- `MESSAGES_WAITING`, which no command asks for. -/
def waitingNotice : Unsolicited where
  raw := [0x83]
  kind packet parsed := by
    cases parsed
    rfl

/-- A connected client with one code pending and one packet to read. -/
def pendingWorld : World Device DeviceIo :=
  { trace :=
      { client :=
          { connected := true
            pendingAcks := FifoMap.empty.remember clientPendingAckCapacity
              (AckCode.ofBytes 1 2 3 4) { ackCode := .ofBytes 1 2 3 4, timeoutMs := 1000 } } }
    transport := { outbox := some [.unsolicited waitingNotice] } }

/-- The actor has started a wait for this code, and a cancellation has come. -/
def cancelledWait : Managed Device DeviceIo :=
  let command := .operation (.waitForAck (.ofBytes 1 2 3 4) none) rfl
  let queued : QueuedCommand := { command, generation := 0, id := 0, captured := 0 }
  { world := pendingWorld, epoch := 1, changed := true, phase := .running queued, cancels := 1
    captures := 1, log := [.started queued 0 0 true, .queued queued] }

theorem reaches_cancelledWait : Reaches 1 pendingWorld cancelledWait :=
  ((((Relation.ReflTransGen.refl.tail (.request _ _ rfl)).tail
    (.send _ [] [] _ rfl Nat.zero_lt_one)).tail (.start _ _ [] rfl rfl rfl)).tail
      (.cancelPendingOperations _ rfl))

/-- The wait reads the packet and is dropped at its next read. -/
theorem interrupted_wait_heard :
    ∃ next, Step 1 cancelledWait next ∧ Device.inbound next.world.transport = [] ∧
      next.phase = .ready ∧
      Heard Device.inbound ⟨[1, 2, 3, 4], rfl⟩ pendingWorld.trace pendingWorld.transport []
        next.world.trace next.world.transport := by
  have step : Step 1 cancelledWait _ := .interrupt cancelledWait _ [{ io := {} }] _ rfl rfl rfl
  exact ⟨_, step, rfl, (reached_guarded Device.cancellationSafe reaches_cancelledWait).2.2.2.2.2
    _ _ _ _ rfl step rfl rfl⟩

/-- Any number of further cancellations. -/
theorem reaches_cancels {managed : Managed τ ε} (live : managed.handles = true)
    (changed : managed.changed = true) (count : Nat) :
    Relation.ReflTransGen (Step capacity) managed
      { managed with
        epoch := managed.epoch + UInt64.ofNat count, cancels := managed.cancels + count } := by
  induction count with
  | zero => simpa using Relation.ReflTransGen.refl
  | succ count ih =>
    refine ih.tail ?_
    have step : Step capacity _ _ := .cancelPendingOperations
      { managed with
        epoch := managed.epoch + UInt64.ofNat count, cancels := managed.cancels + count } live
    rw [UInt64.ofNat_add, ← UInt64.add_assoc, ← Nat.add_assoc]
    simpa [changed] using step

/-- With as many cancellations as the epoch has values, an operation that was submitted before
them starts after them. -/
theorem stale_operation_starts :
    ∃ managed : Managed Device DeviceIo,
      Reaches 1 (World.initial {} clientRequestTimeout) managed ∧
        ∃ queued epoch cancels connected, .started queued epoch cancels connected ∈ managed.log ∧
          queued.captured < cancels := by
  let submitted : Managed Device DeviceIo :=
    { world := World.initial {} clientRequestTimeout
      callers := [{ command := .operation .getTime rfl, generation := 0, id := 0, captured := 0 }]
      captures := 1, epoch := 1, changed := true, cancels := 1 }
  have submits : Reaches 1 (World.initial {} clientRequestTimeout) submitted :=
    (Relation.ReflTransGen.refl.tail (.request _ (.operation .getTime rfl) rfl)).tail
      (.cancelPendingOperations _ rfl)
  have cancelled := submits.trans (reaches_cancels rfl rfl (2 ^ 64 - 1))
  have wrapped : (0 : UInt64) = 1 + UInt64.ofNat (2 ^ 64 - 1) := by decide
  refine ⟨_, (cancelled.tail (.send _ [] [] _ rfl Nat.zero_lt_one)).tail
    (.start _ _ [] rfl rfl wrapped), _, _, _, _, List.mem_cons_self, ?_⟩
  exact Nat.lt_of_lt_of_le Nat.zero_lt_one (Nat.le_add_right _ _)

end Managed

end Meshquill
