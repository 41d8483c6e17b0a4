import Meshquill.Client.Conversations
import Meshquill.Client.Steps
import Meshquill.Transition

/-!
# Every run is a path of acts

One `Safe` lemma for each operation of the client, assembled from the rules of
`Client.Steps`. The response loops share `safe_awaitResponse`: all it asks of an operation
is that it never takes a message or an ACK as its own response. `run_acts` follows for
any sequence of calls.
-/
namespace Meshquill

namespace Client

open Async

variable {τ ε α β : Type} {allowed : Client → Prop}

/-- Numbering keeps the kind of a packet. -/
@[simp] theorem number_isDelivery (trace : Trace) (parsed : Packet) :
    (trace.number parsed).isDelivery = parsed.isDelivery := by
  cases parsed <;> rfl

/-! ## The end of a block -/

section Blocks

variable {start trace : Trace} {world : World τ ε} (middle : Client → Prop)
  {rest : ClientM τ ε α} {after : α → Client → Prop}

/-- A statement completes the block; what follows starts a new one. -/
theorem leads_locally {change : Trace → Trace} (acts : Acts allowed start (change world.trace))
    (holds : middle (change world.trace).client) (safe : Safe allowed middle rest after) :
    Leads allowed start (locally change >>= fun _ => rest) after world := by
  obtain ⟨onward, ends⟩ := safe { world with trace := change world.trace } holds
  exact ⟨acts.trans onward, ends⟩

/-- Publishing and tracking complete the block of a packet that is passed on. -/
theorem leads_passed {parsed : Packet} (connected : trace.client.connected = true)
    (same : world.trace = trace.decode parsed)
    (holds : middle (((trace.decode parsed).publishEvent (trace.number parsed)).updateTracking
      (trace.number parsed)).client)
    (safe : Safe allowed middle rest after) :
    Leads allowed trace
      (publishEvent (trace.number parsed) >>= fun _ =>
        updateTracking (trace.number parsed) >>= fun _ => rest) after world := by
  obtain ⟨onward, ends⟩ := safe { world with
    trace := ((trace.decode parsed).publishEvent (trace.number parsed)).updateTracking
      (trace.number parsed) } holds
  have evaluated : (publishEvent (trace.number parsed) >>= fun _ =>
      updateTracking (trace.number parsed) >>= fun _ => rest) world =
      rest { world with
        trace := ((trace.decode parsed).publishEvent (trace.number parsed)).updateTracking
          (trace.number parsed) } := by
    simp only [publishEvent, updateTracking, locally, bind_apply, modify_apply, same]
  unfold Leads
  rw [evaluated]
  exact ⟨.head (.passed trace parsed connected) onward, ends⟩

end Blocks

/-! ## Response loops -/

section Responses

/-- A judge that never takes a message or an ACK for its operation's response. -/
def Spares (judge : β → Packet → PacketWait β α) : Prop :=
  ∀ carried packet, packet.isDelivery = true → judge carried packet = .proceed

variable {judge : β → Packet → PacketWait β α} {command : Command} {code : CommandCode}

theorem safe_awaitResponse {read : ClientM τ ε Packet} (reads : Reads allowed read)
    (spares : Spares judge) (carried : β) :
    Safe allowed Commanding (awaitResponse read judge carried) (fun _ => Commanding) := by
  refine safe_loop ?_ carried
  intro carried
  refine reads _ (fun _ ready => ready.1) ?_
  intro world trace parsed ready same
  have taken : judge carried (trace.number parsed) ≠ .proceed → Acts allowed trace world.trace := by
    intro decided
    rw [same]
    refine .single (.accepted trace parsed ready.1 ready.2 ?_)
    cases delivery : parsed.isDelivery with
    | false => rfl
    | true => exact absurd (spares carried _ (by simpa using delivery)) decided
  have unmoved : Commanding world.client := by
    simpa [World.client, same, Commanding] using ready
  cases decided : judge carried (trace.number parsed) with
  | ready | keep => exact ⟨taken (by simp [decided]), fun _ ended => by cases ended; exact unmoved⟩
  | fail error => exact ⟨taken (by simp [decided]), fun _ ended => by cases ended⟩
  | proceed =>
    have idle : (trace.decode parsed).client.syncState = .idle := by simpa using ready.2
    refine leads_passed Commanding ready.1 same ?_ (safe_pure _ fun _ holds => holds)
    simpa [Commanding, Trace.retainSyncResponse_of_idle _ idle] using ready

variable [Transport τ ε] {before : Client → Prop}

theorem safe_response (ordinary : command.intoEncoded ≠ syncPayload) (spares : Spares judge)
    (carried : β) :
    Safe allowed before
      (sendOnly command >>= fun _ =>
        awaitResponse readNextPacketWithTimeout judge carried : ClientM τ ε α)
      (fun _ => Commanding) :=
  safe_bind (safe_sendOnly ordinary)
    (fun _ => safe_awaitResponse reads_readNextPacketWithTimeout spares carried)

theorem spares_of_follows (ordinary : code.toU8 ≠ 0x0a) (follows : Follows code judge) :
    Spares judge := by
  intro carried packet delivery
  have role := (follows carried packet).trans (CommandCode.role_of_delivery ordinary delivery)
  cases decided : judge carried packet with
  | proceed => rfl
  | ready _ | keep _ | fail _ =>
    rw [decided] at role
    cases role

theorem safe_sendCommandExpectMsgSentInner (ordinary : command.code.toU8 ≠ 0x0a) (trackAck : Bool) :
    Safe allowed before (sendCommandExpectMsgSentInner command trackAck : ClientM τ ε CommandTracking)
      (fun _ => Commanding) := by
  have spares := spares_of_follows (by decide) follows_msgSentJudge
  refine safe_bind (safe_sendOnly (ordinary_of_code _ rfl ordinary)) fun _ =>
    safe_bind (safe_awaitResponse reads_readNextPacketWithTimeout spares ()) fun tracking =>
      safe_bind (safe_locally Commanding ?_ ?_) fun _ => safe_pure tracking fun _ ready => ready
  · intro trace ready
    cases trackAck with
    | true => exact .single (.issued trace tracking ready.1)
    | false => exact .refl
  · intro trace ready
    cases trackAck with
    | true | false => exact ready

theorem safe_waitForPacket (duration : Duration) (operation : String)
    (ordinary : code.toU8 ≠ 0x0a) {extract : Packet → PacketWait Unit α}
    (extracts : EndsWith code extract) :
    Safe allowed Commanding (waitForPacket duration operation extract : ClientM τ ε α)
      (fun _ => Commanding) := by
  refine safe_timeout duration (safe_awaitResponse reads_readNextPacket ?_ ())
  intro _ packet delivery
  have passes : extract packet = .proceed := (extracts packet).resolve_right fun last => by
    cases (CommandCode.role_of_delivery ordinary delivery).symm.trans last
  cases packet <;> first
    | exact absurd delivery Bool.false_ne_true
    | simp [waitJudge, passes]

theorem safe_sendDisconnectCommand (ordinary : command.code.toU8 ≠ 0x0a) :
    Safe allowed before (sendDisconnectCommand command : ClientM τ ε Unit)
      (fun _ client => client.Clear) :=
  safe_bind (safe_sendOnly (ordinary_of_code _ rfl ordinary)) fun _ =>
    safe_bind (safe_await _) fun _ => safe_markDisconnected

end Responses

/-! ## Synchronisation -/

section Synchronisation

variable {before : Client → Prop}

/-- Connected with nothing retained: what a synchronisation knows before it writes. -/
def Unanswered (client : Client) : Prop :=
  client.connected = true ∧ client.deferredSync = none

theorem safe_takeDeferredSync :
    Safe allowed (fun client => client.connected = true) (takeDeferredSync : ClientM τ ε _)
      (fun _ => Unanswered) := by
  refine safe_bind safe_self fun client =>
    safe_bind (safe_locally Unanswered ?_ ?_) fun _ => safe_pure _ fun _ ready => ready
  · exact fun trace same => .single (.tookDeferred trace same.2)
  · intro trace same
    unfold Trace.takeDeferredSync
    split
    · exact ⟨same.2, rfl⟩
    · exact ⟨same.2, ‹_›⟩

/-- A packet that answers nothing is passed on and leaves the retained answer alone. -/
theorem passed_deferredSync {trace : Trace} {parsed : Packet}
    (other : (trace.number parsed).readySync = none) :
    (((trace.decode parsed).publishEvent (trace.number parsed)).updateTracking
      (trace.number parsed)).client.deferredSync = trace.client.deferredSync := by
  simp [Trace.retainSyncResponse_of_other _ other]

/-- Handing over completes the block of an answer. -/
theorem leads_handed {trace : Trace} {parsed : Packet} {ready : ReadySync} {world : World τ ε}
    {rest : ClientM τ ε α} {after : α → Client → Prop}
    (connected : trace.client.connected = true) (same : world.trace = trace.decode parsed)
    (answer : (trace.number parsed).readySync = some ready)
    (safe : Safe allowed (fun _ => True) rest after) :
    Leads allowed trace (locally (Trace.handOver (trace.number parsed) ready) >>= fun _ => rest) after
      world := by
  refine leads_locally (fun _ => True) (.single ?_) trivial safe
  rw [same]
  exact .handed trace parsed ready connected answer

variable [Transport τ ε]

theorem safe_tryRead : Safe allowed before (tryRead : ClientM τ ε _) (fun _ => before) := by
  intro world holds
  unfold tryRead
  split <;> exact ⟨.refl, fun _ _ => holds⟩

/-- One iteration of the drain: unless it has found an answer, nothing is retained. -/
theorem safe_drainReadyPacket :
    Safe allowed Unanswered (drainReadyPacket : ClientM τ ε _)
      (fun result client => (∀ ready, result ≠ .inr (some ready)) → Unanswered client) := by
  refine safe_bind safe_tryRead ?_
  rintro (error | _ | _ | raw)
  · exact safe_bind (safe_markDisconnectedIf _) fun _ => safe_fail _
  · exact safe_pure _ fun _ ready _ => ready
  · exact safe_bind safe_markDisconnected fun _ => safe_fail _
  · refine reads_parsePacket raw _ (fun _ ready => ready.1) ?_
    intro world trace parsed ready same
    cases answer : (trace.number parsed).readySync with
    | some answered =>
      exact leads_handed ready.1 same answer
        (safe_pure _ fun _ _ absent => absurd rfl (absent answered))
    | none =>
      refine leads_passed Unanswered ready.1 same ?_ (safe_pure _ fun _ holds _ => holds)
      exact ⟨by simpa using ready.1, (passed_deferredSync answer).trans ready.2⟩

theorem safe_drainReadyPackets (left : Nat) :
    Safe allowed Unanswered (drainReadyPackets left : ClientM τ ε _)
      (fun result client => result = none → Unanswered client) := by
  induction left with
  | zero =>
    refine safe_bind safe_drainReadyPacket ?_
    rintro (_ | result)
    · exact safe_fail _
    · exact safe_pure _ fun _ ready missing => ready (by simp [missing])
  | succ left ih =>
    refine safe_bind safe_drainReadyPacket ?_
    rintro (_ | result)
    · exact ih.weaken (fun _ ready => ready (by simp)) fun _ _ ends => ends
    · exact safe_pure _ fun _ ready missing => ready (by simp [missing])

theorem safe_waitForSyncResponse :
    Safe allowed (fun client => client.connected = true) (waitForSyncResponse : ClientM τ ε _)
      (fun _ _ => True) := by
  refine safe_loop ?_ ()
  intro _
  refine reads_readNextPacketWithTimeout _ (fun _ connected => connected) ?_
  intro world trace parsed connected same
  cases answer : (trace.number parsed).readySync with
  | some ready =>
    refine leads_handed connected same answer ((safe_ofExcept _).weaken (fun _ holds => holds) ?_)
    rintro result client ⟨produced, -⟩
    cases value : readySyncResult ready with
    | error error => simp [value, Except.map] at produced
    | ok message =>
      obtain rfl : Sum.inr message = result := by simpa [value, Except.map] using produced
      trivial
  | none =>
    refine leads_passed (fun client => client.connected = true) connected same ?_
      (safe_pure _ fun _ holds => holds)
    simpa using connected

/-- What follows the write of a fresh synchronisation. -/
def syncWritten : ClientM τ ε Unit := do
  match ← await (fun io => Transport.write io syncPayload) with
  | .ok () => pure ()
  | .error error =>
    markDisconnectedIf (isTerminalWriteError error)
    fail (.transport error)

/-- Setting the state and handing over the payload are one block. -/
theorem synchronise_writeRaw :
    (locally Trace.synchronise >>= fun _ => writeRaw syncPayload : ClientM τ ε Unit) =
      (locally (fun trace => trace.synchronise.note (.wrote syncPayload)) >>= fun _ =>
        syncWritten) := rfl

theorem safe_syncWritten :
    Safe allowed (fun client => client.connected = true) (syncWritten : ClientM τ ε Unit)
      (fun _ client => client.connected = true) := by
  refine safe_bind (safe_await _) ?_
  rintro (error | _)
  · exact safe_bind (safe_markDisconnectedIf _) fun _ => safe_fail _
  · exact safe_pure () fun _ connected => connected

theorem safe_synchronise :
    Safe allowed (fun client => Unanswered client ∧ client.syncState = .idle)
      (locally Trace.synchronise >>= fun _ => writeRaw syncPayload : ClientM τ ε Unit)
      (fun _ client => client.connected = true) := by
  rw [synchronise_writeRaw]
  refine safe_bind (safe_locally (fun client => client.connected = true) ?_ ?_) fun _ =>
    safe_syncWritten
  · exact fun trace ready => .single (.synchronised trace ready.1.1 ready.2 ready.1.2)
  · exact fun _ ready => ready.1.1

theorem safe_syncNextMessage :
    Safe allowed before (syncNextMessage : ClientM τ ε _) (fun _ _ => True) := by
  refine safe_bind safe_ensureConnected fun _ => ?_
  refine safe_bind (safe_takeDeferredSync.weaken (fun _ ready => ready.1) fun _ _ ends => ends) ?_
  rintro (_ | ready)
  · refine safe_bind (safe_drainReadyPackets _) ?_
    rintro (_ | ready)
    · refine safe_bind safe_self fun client => ?_
      split
      · exact safe_waitForSyncResponse.weaken (fun _ ready => (ready.2 rfl).1) fun _ _ ends => ends
      · rename_i notAwaiting
        rw [← bind_assoc]
        refine safe_bind (safe_synchronise.weaken ?_ fun _ _ ends => ends) fun _ =>
          safe_waitForSyncResponse
        rintro current ⟨rfl, ready⟩
        exact ⟨ready rfl, SyncState.idle_of_ne notAwaiting⟩
    · exact (safe_ofExcept _).weaken (fun _ holds => holds) fun _ _ _ => trivial
  · exact (safe_ofExcept _).weaken (fun _ holds => holds) fun _ _ _ => trivial

end Synchronisation

/-! ## Waiting for an ACK -/

section Acks

variable [Transport τ ε] {before : Client → Prop}

theorem safe_awaitAck (ackCode : AckCode) :
    Safe allowed (fun client => client.connected = true) (awaitAck ackCode : ClientM τ ε Ack)
      (fun _ _ => True) := by
  refine safe_loop ?_ ()
  intro _
  refine reads_readNextPacket _ (fun _ connected => connected) ?_
  intro world trace parsed connected same
  split
  · rename_i ack packet
    obtain rfl : parsed = .ack ack := Trace.eq_of_number packet rfl
    split
    · refine leads_locally (fun _ => True) (.single ?_) trivial (safe_pure _ fun _ _ => trivial)
      rw [same]
      exact .claimed trace ack connected
    · exact leads_passed (fun client => client.connected = true) connected same
        (by simpa using connected) (safe_pure _ fun _ holds => holds)
  · rename_i code packet
    obtain rfl : parsed = .error code := Trace.eq_of_number packet rfl
    refine leads_locally (fun _ => True) (.single ?_) trivial (safe_fail _)
    rw [same]
    exact .dismissed trace code connected
  · rename_i notAck notError
    refine leads_locally (fun client => client.connected = true) (.single ?_) ?_
      (safe_pure _ fun _ holds => holds)
    · rw [same]
      exact .watched trace parsed connected fun ack isAck => notAck ack (by rw [isAck]; rfl)
    · rw [same]
      simpa using connected

theorem safe_waitForAck (ackCode : AckCode) (requestTimeout : Option Duration) :
    Safe allowed before (waitForAck ackCode requestTimeout : ClientM τ ε Ack) (fun _ _ => True) := by
  refine safe_bind (safe_ofExcept _) fun _ => ?_
  refine safe_bind safe_ensureConnected fun _ => ?_
  refine safe_bind safe_self fun client => ?_
  refine safe_bind (safe_locally (fun client => client.connected = true)
    (fun trace ready => .single (.tookCompleted trace ackCode ready.2.1)) ?_) fun _ => ?_
  · exact fun trace ready => (trace.takeCompletedAck_connected ackCode).trans ready.2.1
  · split
    · exact safe_pure _ fun _ _ => trivial
    · refine safe_bind safe_self fun _ => ?_
      refine safe_bind (safe_attempt (safe_timeout _ (safe_awaitAck ackCode)) |>.weaken
        (fun _ ready => ready.2) fun _ _ _ => trivial) ?_
      rintro (error | ack)
      · exact safe_bind (safe_locally (fun _ => True)
          (fun trace _ => .single (.abandoned trace ackCode)) fun _ _ => trivial)
          fun _ => safe_fail error
      · exact safe_pure ack fun _ _ => trivial

end Acks

/-! ## Sessions -/

section Sessions

variable [Transport τ ε] {before : Client → Prop}

/-- A client that has been initialised is still connected. -/
theorem safe_init :
    Safe allowed before (init : ClientM τ ε SelfInfo) (fun _ client => client.connected = true) := by
  refine safe_bind safe_ensureConnected fun _ => ?_
  refine safe_bind (safe_sendOnly (ordinary_of_code .appStart rfl (by decide))) fun _ => ?_
  refine safe_bind (safe_awaitResponse reads_readNextPacketWithTimeout ?_ ()) fun info => ?_
  · exact spares_of_follows (by decide) follows_initJudge
  · refine safe_bind (safe_locally (fun client => client.connected = true) ?_ ?_) fun _ =>
      safe_pure info fun _ connected => connected
    swap
    · intro trace ready
      simpa using ready.1
    intro trace _
    have announced : trace.publishEvent (.selfInfo info) =
        trace.publishDomainEvent (.selfInfo info) := by
      simp [Trace.publishEvent, Packet.intoEvent, Trace.retainSyncResponse_of_other trace
        (show (Packet.selfInfo info).readySync = none from rfl)]
    rw [announced]
    exact .single (.announced trace _ (by simp))

theorem safe_startSession :
    Safe allowed Clear (startSession : ClientM τ ε SelfInfo) (fun _ _ => True) := by
  refine safe_bind (safe_locally (fun _ => True)
    (fun trace clear => .single (.established trace clear)) fun _ _ => trivial) fun _ => ?_
  refine safe_bind (safe_attempt safe_init) ?_
  rintro (error | info)
  · exact safe_bind (safe_await _) fun _ => safe_bind safe_markDisconnected fun _ => safe_fail error
  · exact safe_bind (safe_locally (fun _ => True)
      (fun trace _ => .single (.announced trace .connected (by simp))) fun _ _ => trivial)
      fun _ => safe_pure info fun _ _ => trivial

theorem safe_connect : Safe allowed allowed (connect : ClientM τ ε SelfInfo) (fun _ _ => True) := by
  refine safe_bind (safe_locally Clear (fun trace called => .single (.forgot trace called))
    fun _ _ => ⟨rfl, rfl, rfl, rfl⟩) fun _ => ?_
  refine safe_bind (safe_await _) ?_
  rintro (error | _)
  · exact safe_fail _
  · exact safe_startSession

theorem safe_reconnect : Safe allowed before (reconnect : ClientM τ ε SelfInfo) (fun _ _ => True) := by
  refine safe_bind safe_markDisconnected fun _ => safe_bind (safe_await _) ?_
  rintro (error | _)
  · exact safe_fail _
  · exact safe_startSession

theorem safe_disconnect : Safe allowed before (disconnect : ClientM τ ε Unit) (fun _ _ => True) := by
  refine safe_bind (safe_await _) fun result => safe_bind safe_markDisconnected fun _ => ?_
  cases result with
  | ok _ => exact safe_pure () fun _ _ => trivial
  | error error => exact safe_fail _

theorem safe_nextEvent : Safe allowed before (nextEvent : ClientM τ ε _) (fun _ _ => True) := by
  refine safe_bind safe_ensureConnected fun _ => ?_
  refine reads_readNextPacket _ (fun _ ready => ready.1) ?_
  intro world trace parsed ready same
  simp only [Leads, locally, updateTracking, bind_apply, modify_apply, same]
  cases shown : (trace.number parsed).intoEvent with
  | none => exact ⟨.single (.swallowed trace parsed ready.1 shown), fun _ _ => trivial⟩
  | some event => exact ⟨.single (.surfaced trace parsed event ready.1 shown), fun _ _ => trivial⟩

end Sessions

/-! ## All operations -/

section Operations

variable [Transport τ ε]

/-- What is built from exchanges is a path of acts. -/
theorem safe_converses {body : ClientM τ ε α} (converses : Converses body) :
    Safe allowed (fun _ => True) body (fun _ _ => True) := by
  induction converses with
  | pure value => exact safe_pure value fun _ _ => trivial
  | fail error => exact safe_fail error
  | bind head tail first rest => exact safe_bind first rest
  | ensureConnected => exact safe_ensureConnected.weaken (fun _ _ => trivial) fun _ _ _ => trivial
  | exchange ordinary follows carried =>
    have spares := spares_of_follows ordinary follows
    exact (safe_response (ordinary_of_code _ rfl ordinary) spares carried).weaken
      (fun _ holds => holds) fun _ _ _ => trivial
  | sent direct trackAck =>
    exact (safe_sendCommandExpectMsgSentInner (by rw [direct]; decide) trackAck).weaken
      (fun _ holds => holds) fun _ _ _ => trivial
  | remote remote operation extracts =>
    have ordinary := ordinary_of_kind (.inr (.inl remote))
    refine safe_bind (safe_sendCommandExpectMsgSentInner ordinary false) fun tracking =>
      safe_bind (safe_bind safe_self fun _ => safe_pure _ fun _ same => same.2) fun duration =>
        (safe_waitForPacket duration operation ordinary (extracts tracking)).weaken
          (fun _ holds => holds) fun _ _ _ => trivial
  | farewell silent =>
    exact (safe_sendDisconnectCommand (ordinary_of_kind (.inr (.inr silent)))).weaken
      (fun _ holds => holds) fun _ _ _ => trivial

/-- Every operation is a path of acts, wherever it is cancelled. -/
theorem safe_perform (request : Request) :
    Safe allowed (fun client => request.isConnect = true → allowed client)
      (request.perform : ClientM τ ε Unit) (fun _ _ => True) := by
  cases conversation : request.isConversation with
  | true =>
    exact (safe_converses (converses_perform request conversation)).weaken (fun _ _ => trivial)
      fun _ _ _ => trivial
  | false =>
    cases request with
    | connect =>
      exact (safe_discard safe_connect).weaken (fun _ called => called rfl) fun _ _ holds => holds
    | init => exact safe_discard safe_init
    | disconnect => exact safe_discard safe_disconnect
    | reconnect => exact safe_discard safe_reconnect
    | nextEvent => exact safe_discard safe_nextEvent
    | syncNextMessage => exact safe_discard safe_syncNextMessage
    | waitForAck ackCode requestTimeout =>
      exact safe_discard (safe_waitForAck ackCode requestTimeout)
    | _ => cases conversation

end Operations

end Client

/-! ## Runs -/

namespace World

variable {τ ε : Type} [Transport τ ε]

theorem invoke_acts {allowed : Client → Prop} (world : World τ ε) (invocation : Invocation ε)
    (called : invocation.request.isConnect = true → allowed world.client) :
    Acts allowed world.trace (world.invoke invocation).trace :=
  (Client.safe_perform invocation.request (world.granted invocation.turns) called).1

/-- Every run is a path of acts. -/
theorem run_acts {allowed : Client → Prop} (world : World τ ε)
    (invocations : List (Invocation ε)) (called : world.ConnectsOn allowed invocations) :
    Acts allowed world.trace (world.run invocations).trace := by
  induction invocations generalizing world with
  | nil => exact .refl
  | cons invocation rest ih =>
    exact (invoke_acts world invocation called.1).trans (ih (world.invoke invocation) called.2)

/-- A property that every act keeps holds at the end of every run that connects only on
allowed clients. -/
theorem run_keeps {allowed : Client → Prop} {invariant : Trace → Prop} {world : World τ ε}
    {invocations : List (Invocation ε)} (called : world.ConnectsOn allowed invocations)
    (step : ∀ trace next, Act allowed trace next → invariant trace → invariant next)
    (holds : invariant world.trace) : invariant (world.run invocations).trace :=
  Transition.keeps step (run_acts world invocations called) holds

/-- A run may connect on any client. -/
theorem connectsOn_any (world : World τ ε) (invocations : List (Invocation ε)) :
    world.ConnectsOn (fun _ => True) invocations := by
  induction invocations generalizing world with
  | nil => trivial
  | cons invocation rest ih =>
    exact ⟨fun _ => trivial, ih _⟩

end World

end Meshquill
