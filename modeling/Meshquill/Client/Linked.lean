import Meshquill.Client.Conversations
import Meshquill.Client.Connect

/-!
# A connected client has a live transport

A transport decides after which outcomes it gives up its connection, and the client decides
after which outcomes it calls itself disconnected. `Reports` says of a transport that the two
decisions fit, call by call. Then every operation that completes leaves a client that is
connected only over a live transport, whatever the calls answered.

A call that is abandoned under a deadline does not end its operation, so the rules carry whether
a deadline is set. Only reads are made under one. An operation that is dropped is not covered:
`disconnect` gives up the stream before it waits.
-/
namespace Meshquill

/-- What the client has to be told about the calls of its transport. -/
structure Reports {τ ε : Type} [Transport τ ε] (live : τ → Prop) : Prop where
  connected : ∀ (io : ε) (transport next : τ),
    Transport.connect io transport = (some (.ok ()), next) → live next
  unconnected : ∀ (io : ε) (transport next : τ) (error : TransportError),
    Transport.connect io transport = (some (.error error), next) → live transport → live next
  reconnected : ∀ (io : ε) (transport next : τ),
    Transport.reconnect io transport = (some (.ok ()), next) → live next
  written : ∀ (io : ε) (payload : Bytes) (transport next : τ),
    Transport.write io payload transport = (some (.ok ()), next) → live transport → live next
  unwritten : ∀ (io : ε) (payload : Bytes) (transport next : τ) (error : TransportError),
    Transport.write io payload transport = (some (.error error), next) →
      isTerminalWriteError error = false → live transport → live next
  read : ∀ (io : ε) (transport next : τ) (raw : Bytes),
    Transport.read io transport = (some (.ok (some raw)), next) → live transport → live next
  unread : ∀ (io : ε) (transport next : τ) (error : TransportError),
    Transport.read io transport = (some (.error error), next) →
      isDisconnectError error = false → live transport → live next
  abandoned : ∀ (io : ε) (transport next : τ),
    Transport.read io transport = (none, next) → live transport → live next
  polled : ∀ (io : ε) (transport : τ) (ready : ReadyRead), ready ≠ .closed →
    (Transport.tryRead io transport).1 = .ok ready → live transport →
      live (Transport.tryRead io transport).2
  unpolled : ∀ (io : ε) (transport : τ) (error : TransportError),
    (Transport.tryRead io transport).1 = .error error → isDisconnectError error = false →
      live transport → live (Transport.tryRead io transport).2

namespace Client

open Async

variable {τ ε α β : Type} {live : τ → Prop} {deadline : Bool}

/-- The client is connected only over a live transport. -/
def Linked (live : τ → Prop) (trace : Trace) (transport : τ) : Prop :=
  trace.client.connected = true → live transport

/-- The link, and whether a deadline is set. -/
def Held (live : τ → Prop) (deadline : Bool) (world : World τ ε) : Prop :=
  world.deadline = deadline ∧ Linked live world.trace world.transport

/-- A computation that keeps the link, unless it is dropped. -/
def Keeps (live : τ → Prop) (deadline : Bool) (body : ClientM τ ε α) : Prop :=
  Outcome (Held live deadline) body (fun _ => Held live deadline) (fun _ => Held live deadline)
    (fun _ => True)

/-! ## Rules -/

theorem linked_pure (value : α) : Keeps live deadline (pure value : ClientM τ ε α) :=
  outcome_pure value fun _ held => held

theorem linked_fail (error : CoreError) : Keeps live deadline (fail error : ClientM τ ε α) :=
  outcome_fail error fun _ held => held

theorem linked_bind {first : ClientM τ ε α} {next : α → ClientM τ ε β}
    (head : Keeps live deadline first) (tail : ∀ value, Keeps live deadline (next value)) :
    Keeps live deadline (first >>= next) :=
  outcome_bind head tail

variable {body : ClientM τ ε α} {call : ε → τ → Call α × τ}

theorem linked_discard (keeps : Keeps live deadline body) : Keeps live deadline (discard body) :=
  linked_bind keeps fun _ => linked_pure ()

theorem linked_ofExcept (result : Except CoreError α) :
    Keeps live deadline (ofExcept result : ClientM τ ε α) := by
  cases result with
  | ok value => exact linked_pure value
  | error error => exact linked_fail error

theorem linked_self : Keeps live deadline (self : ClientM τ ε Client) := fun _ held => held

/-- A statement that does not connect the client. -/
theorem linked_locally {change : Trace → Trace}
    (same : ∀ trace, (change trace).client.connected = trace.client.connected) :
    Keeps live deadline (locally change : ClientM τ ε Unit) :=
  fun world ⟨set, linked⟩ => ⟨set, fun connected => linked ((same world.trace).symm.trans connected)⟩

/-- Such a statement, and what follows it. -/
theorem linked_then {change : Trace → Trace} {next : Unit → ClientM τ ε β}
    (same : ∀ trace, (change trace).client.connected = trace.client.connected)
    (tail : Keeps live deadline (next ())) : Keeps live deadline (locally change >>= next) :=
  linked_bind (linked_locally same) fun _ => tail

theorem linked_attempt (keeps : Keeps live deadline body) : Keeps live deadline (attempt body) := by
  refine (outcome_attempt keeps).weaken (fun _ held => held) fun result _ held => ?_
  cases result <;> exact held

theorem linked_timeout (duration : Duration) (keeps : Keeps live true body) :
    Keeps live deadline (timeout duration body) := by
  intro world ⟨set, linked⟩
  have ended := keeps { world with deadline := true } ⟨rfl, linked⟩
  simp only [timeout]
  rcases ran : body { world with deadline := true } with ⟨value | error | _, reached⟩
  all_goals rw [ran] at ended
  · exact ⟨set, ended.2⟩
  · exact ⟨set, ended.2⟩
  · trivial

theorem linked_loop {body : β → ClientM τ ε (β ⊕ α)}
    (round : ∀ carried, Keeps live deadline (body carried)) (carried : β) :
    Keeps live deadline (loop World.remaining body carried) := by
  let invariant (_ : β) : World τ ε → Prop := Held live deadline
  have kept : Outcome (invariant carried) (loop World.remaining body carried)
      (fun _ => Held live deadline) (fun _ => Held live deadline) (fun _ => True) := by
    refine outcome_loop World.remaining (fun _ _ _ => trivial) (fun carried => ?_) carried
    refine (round carried).weaken (fun _ held => held) fun result _ held => ?_
    cases result <;> exact held
  exact kept

theorem linked_ensureConnected : Keeps live deadline (ensureConnected : ClientM τ ε Unit) := by
  intro world held
  by_cases connected : world.client.connected = true
  · have ended : ensureConnected world = (.done (), world) := if_pos connected
    rw [ended]
    exact held
  · have ended : ensureConnected world = (.failed .disconnected, world) := if_neg connected
    rw [ended]
    exact held

theorem linked_parsePacket (raw : Bytes) :
    Keeps live deadline (parsePacket raw : ClientM τ ε Packet) := by
  intro world held
  simp only [parsePacket, Trace.parsePacket]
  rcases Packet.parse raw with (error | _) | packet
  · exact held
  · trivial
  · exact held

/-- An await, with what its result says. -/
theorem linked_await (before : Trace → τ → Prop)
    (after : Except TransportError α → Trace → τ → Prop)
    (resolved : ∀ io trace transport result next, before trace transport →
      call io transport = (some result, next) → after result trace next)
    (unresolved : deadline = true → ∀ io trace transport next, before trace transport →
      call io transport = (none, next) → Linked live trace next) :
    Outcome (fun world => world.deadline = deadline ∧ before world.trace world.transport)
      (await call)
      (fun result world => world.deadline = deadline ∧ after result world.trace world.transport)
      (fun _ => Held live deadline) (fun _ => True) := by
  intro world ⟨set, holds⟩
  cases granted : world.turns with
  | nil =>
    have ended : await call world = (.dropped, world) := by simp [await, granted]
    rw [ended]
    trivial
  | cons turn turns =>
    rcases ran : call turn.io world.transport with ⟨_ | result, transport⟩
    · have ended : await call world =
          (if world.deadline && turn.elapsed then .failed .timeout else .dropped,
            { world with transport, turns }) := by simp [await, granted, ran]
      rw [ended, set]
      cases deadline with
      | false => trivial
      | true =>
        cases turn.elapsed with
        | false => trivial
        | true => exact ⟨rfl, unresolved rfl _ _ _ _ holds ran⟩
    · have ended : await call world = (.done result, { world with transport, turns }) := by
        simp [await, granted, ran]
      rw [ended]
      exact ⟨set, resolved _ _ _ _ _ holds ran⟩

/-- An await without a deadline. -/
theorem linked_await_untimed (before : Trace → τ → Prop)
    (after : Except TransportError α → Trace → τ → Prop)
    (resolved : ∀ io trace transport result next, before trace transport →
      call io transport = (some result, next) → after result trace next) :
    Outcome (fun world => world.deadline = false ∧ before world.trace world.transport)
      (await call)
      (fun result world => world.deadline = false ∧ after result world.trace world.transport)
      (fun _ => Held live false) (fun _ => True) :=
  linked_await before after resolved fun set => absurd set Bool.false_ne_true

/-- Once it has marked itself disconnected, a client is linked to anything. -/
theorem linked_marked {before : World τ ε → Prop}
    (set : ∀ world, before world → world.deadline = deadline) :
    Outcome before markDisconnected (fun _ => Held live deadline) (fun _ => Held live deadline)
      (fun _ => True) := by
  intro world holds
  refine ⟨set world holds, fun connected => ?_⟩
  have closed : world.trace.markDisconnected.client.connected = true := connected
  simp at closed

/-- After an error, the client is marked disconnected if the error says so. -/
theorem linked_told {error : CoreError} (terminal : Bool) :
    Outcome
      (fun world => world.deadline = deadline ∧
        (terminal = false → Linked live world.trace world.transport))
      (markDisconnectedIf terminal >>= fun _ => fail error : ClientM τ ε α)
      (fun _ => Held live deadline) (fun _ => Held live deadline) (fun _ => True) := by
  have marks : Outcome
      (fun world => world.deadline = deadline ∧
        (terminal = false → Linked live world.trace world.transport))
      (markDisconnectedIf terminal : ClientM τ ε Unit) (fun _ => Held live deadline)
      (fun _ => Held live deadline) (fun _ => True) := by
    cases terminal with
    | true => exact linked_marked fun _ holds => holds.1
    | false => exact outcome_pure () fun _ holds => ⟨holds.1, holds.2 rfl⟩
  exact outcome_bind marks fun _ => linked_fail error

/-- What the result of a call says about the link, if these errors end the connection. -/
def Told (terminal : TransportError → Bool) (live : τ → Prop) :
    Except TransportError α → Trace → τ → Prop
  | .ok _ => Linked live
  | .error error => fun trace transport => terminal error = false → Linked live trace transport

/-! ## Calls of the transport -/

section Transported

variable [Transport τ ε] (reports : Reports live)
include reports

theorem linked_writeRaw (payload : Bytes) : Keeps live false (writeRaw payload) := by
  unfold writeRaw
  split
  · exact linked_then (fun _ => rfl) <| linked_fail _
  · split
    · exact linked_then (fun _ => rfl) <| linked_fail _
    · refine linked_then (fun _ => rfl) <| outcome_bind
        (linked_await_untimed (Linked live) (Told isTerminalWriteError live)
          fun io trace transport result next linked ran => ?_) fun result => ?_
      · rcases result with error | ⟨⟩
        · exact fun minor connected => reports.unwritten _ _ _ _ _ ran minor (linked connected)
        · exact fun connected => reports.written _ _ _ _ ran (linked connected)
      · rcases result with error | ⟨⟩
        · exact linked_told (isTerminalWriteError error)
        · exact outcome_pure () fun _ held => held

theorem linked_sendRaw (payload : Bytes) : Keeps live false (sendRaw payload) := by
  refine linked_bind linked_self fun client => ?_
  split
  · exact linked_then (fun _ => rfl) <| linked_fail _
  · exact linked_writeRaw reports payload

theorem linked_sendOnly (command : Command) : Keeps live false (sendOnly command) :=
  linked_bind linked_ensureConnected fun _ => linked_sendRaw reports _

theorem linked_readNextPacket : Keeps live deadline (readNextPacket : ClientM τ ε Packet) := by
  refine outcome_bind (linked_await (Linked live)
    (fun result trace transport => result ≠ .ok none → Told isDisconnectError live result trace
      transport) (fun io trace transport result next linked ran other => ?_)
    fun _ io trace transport next linked ran connected =>
      reports.abandoned _ _ _ ran (linked connected)) fun result => ?_
  · rcases result with error | _ | raw
    · exact fun minor connected => reports.unread _ _ _ _ ran minor (linked connected)
    · exact absurd rfl other
    · exact fun connected => reports.read _ _ _ _ ran (linked connected)
  · rcases result with error | _ | raw
    · exact (linked_told (isDisconnectError error)).weaken
        (fun world holds => ⟨holds.1, holds.2 nofun⟩) fun _ _ held => held
    · exact outcome_bind (linked_marked fun _ holds => holds.1) fun _ => linked_fail _
    · exact (linked_parsePacket raw).weaken (fun world holds => ⟨holds.1, holds.2 nofun⟩)
        fun _ _ held => held

theorem linked_readNextPacketWithTimeout :
    Keeps live deadline (readNextPacketWithTimeout : ClientM τ ε Packet) :=
  linked_bind linked_self fun _ => linked_timeout _ (linked_readNextPacket reports)

omit [Transport τ ε] reports in
theorem linked_passOn (packet : Packet) (carried : β) :
    Keeps live deadline (publishEvent packet >>= fun _ => updateTracking packet >>= fun _ =>
      pure (.inl carried) : ClientM τ ε (β ⊕ α)) :=
  linked_then (fun _ => by simp) <| linked_then (fun _ => by simp) <| linked_pure _

omit [Transport τ ε] reports in
theorem linked_awaitResponse {read : ClientM τ ε Packet} (reads : Keeps live deadline read)
    (judge : β → Packet → PacketWait β α) (carried : β) :
    Keeps live deadline (awaitResponse read judge carried) := by
  refine linked_loop (fun carried => linked_bind reads fun packet => ?_) carried
  cases judge carried packet with
  | ready | keep => exact linked_pure _
  | fail error => exact linked_fail error
  | proceed => exact linked_passOn packet carried

theorem linked_sent (command : Command) (trackAck : Bool) :
    Keeps live false (sendCommandExpectMsgSentInner command trackAck) := by
  refine linked_bind (linked_sendOnly reports command) fun _ =>
    linked_bind (linked_awaitResponse (linked_readNextPacketWithTimeout reports) _ _) fun tracking =>
      linked_bind (linked_locally fun trace => ?_) fun _ => linked_pure _
  cases trackAck <;> rfl

omit reports in
/-- Closing the transport, whatever it answers, then marking the client. -/
theorem linked_disconnecting {next : Except TransportError Unit → ClientM τ ε α}
    (keeps : ∀ result, Keeps live false (next result)) :
    Keeps live false (await Transport.disconnect >>= fun result =>
      markDisconnected >>= fun _ => next result) := by
  exact outcome_bind (linked_await_untimed (Linked live) (fun _ _ _ => True)
    fun _ _ _ _ _ _ _ => trivial) fun result =>
      outcome_bind (linked_marked fun _ holds => holds.1) fun _ => keeps result

/-! ## Operations -/

theorem linked_converses {body : ClientM τ ε α} (converses : Converses body) :
    Keeps live false body := by
  induction converses with
  | pure value => exact linked_pure value
  | fail error => exact linked_fail error
  | bind head tail first rest => exact linked_bind first rest
  | ensureConnected => exact linked_ensureConnected
  | exchange ordinary follows carried =>
    exact linked_bind (linked_sendOnly reports _) fun _ =>
      linked_awaitResponse (linked_readNextPacketWithTimeout reports) _ carried
  | sent direct trackAck => exact linked_sent reports _ trackAck
  | remote remote operation extracts =>
    exact linked_bind (linked_sent reports _ false) fun tracking =>
      linked_bind (linked_bind linked_self fun _ => linked_pure _) fun duration =>
        linked_timeout duration (linked_awaitResponse (linked_readNextPacket reports) _ ())
  | farewell silent =>
    exact linked_bind (linked_sendOnly reports _) fun _ =>
      linked_disconnecting fun _ => linked_pure ()

theorem linked_init : Keeps live false (init : ClientM τ ε SelfInfo) :=
  linked_bind linked_ensureConnected fun _ => linked_bind (linked_sendOnly reports _) fun _ =>
    linked_bind (linked_awaitResponse (linked_readNextPacketWithTimeout reports) _ _) fun _ =>
      linked_then (fun _ => by simp) <| linked_pure _

/-- A session starts once the transport is live. -/
theorem linked_startSession :
    Outcome (fun world => world.deadline = false ∧ live world.transport)
      (startSession : ClientM τ ε SelfInfo) (fun _ => Held live false) (fun _ => Held live false)
      (fun _ => True) := by
  have establishes : Outcome (fun world => world.deadline = false ∧ live world.transport)
      (locally Trace.establish : ClientM τ ε Unit) (fun _ => Held live false)
      (fun _ => Held live false) (fun _ => True) := fun _ holds => ⟨holds.1, fun _ => holds.2⟩
  refine outcome_bind establishes fun _ =>
    linked_bind (linked_attempt (linked_init reports)) fun result => ?_
  cases result with
  | ok info => exact linked_then (fun _ => rfl) <| linked_pure _
  | error error => exact linked_disconnecting fun _ => linked_fail error

/-- Opening the transport, then the session. -/
theorem linked_open {call : ε → τ → Call Unit × τ} (before : Trace → τ → Prop)
    (opened : ∀ io trace transport next, before trace transport →
      call io transport = (some (.ok ()), next) → live next)
    (unopened : ∀ io trace transport next error, before trace transport →
      call io transport = (some (.error error), next) → Linked live trace next) :
    Outcome (fun world => world.deadline = false ∧ before world.trace world.transport)
      (do
        match ← await call with
        | .ok () => startSession
        | .error error => fail (.transport error))
      (fun _ => Held live false) (fun _ => Held live false) (fun _ => True) := by
  refine outcome_bind (linked_await_untimed before
    (fun result trace transport => (result = .ok () → live transport) ∧
      (result ≠ .ok () → Linked live trace transport))
    fun io trace transport result next holds ran => ?_) fun result => ?_
  · rcases result with error | ⟨⟩
    · exact ⟨nofun, fun _ => unopened _ _ _ _ _ holds ran⟩
    · exact ⟨fun _ => opened _ _ _ _ holds ran, fun failed => absurd rfl failed⟩
  · rcases result with error | ⟨⟩
    · exact outcome_fail _ fun _ holds => ⟨holds.1, holds.2.2 nofun⟩
    · exact (linked_startSession reports).weaken (fun _ holds => ⟨holds.1, holds.2.1 rfl⟩)
        fun _ _ held => held

theorem linked_connect : Keeps live false (connect : ClientM τ ε SelfInfo) :=
  linked_then (fun _ => rfl) <| linked_open reports (Linked live)
    (fun _ _ _ _ _ ran => reports.connected _ _ _ ran)
    fun _ _ _ _ _ linked ran connected => reports.unconnected _ _ _ _ ran (linked connected)

theorem linked_reconnect : Keeps live false (reconnect : ClientM τ ε SelfInfo) := by
  let closed (trace : Trace) (_ : τ) : Prop := trace.client.connected = false
  have marks : Outcome (Held live false) (markDisconnected : ClientM τ ε Unit)
      (fun _ world => world.deadline = false ∧ closed world.trace world.transport)
      (fun _ => Held live false) (fun _ => True) := by
    intro world held
    refine ⟨held.1, ?_⟩
    change world.trace.markDisconnected.client.connected = false
    simp
  refine outcome_bind marks fun _ => linked_open reports closed
    (fun _ _ _ _ _ ran => reports.reconnected _ _ _ ran)
    fun _ trace _ _ _ shut _ connected => ?_
  cases (show trace.client.connected = false from shut).symm.trans connected

theorem linked_nextEvent : Keeps live false (nextEvent : ClientM τ ε _) := by
  refine linked_bind linked_ensureConnected fun _ =>
    linked_bind (linked_readNextPacket reports) fun packet =>
      linked_then (fun _ => by simp) <| linked_then (fun _ => by simp) <| ?_
  cases packet.intoEvent with
  | none => exact linked_pure _
  | some event => exact linked_then (fun _ => rfl) <| linked_pure _

theorem linked_awaitAck (ackCode : AckCode) :
    Keeps live deadline (awaitAck ackCode : ClientM τ ε Ack) := by
  refine linked_loop (fun _ => linked_bind (linked_readNextPacket reports) fun packet => ?_) ()
  cases packet with
  | ack ack =>
    simp only
    split
    · exact linked_bind (linked_locally fun _ => by rw [Trace.claimAck_client]; rfl) fun _ =>
        linked_pure _
    · exact linked_passOn _ _
  | error code => exact linked_then (fun _ => rfl) <| linked_fail _
  | _ => exact linked_then (fun _ => by simp) <| linked_pure _

theorem linked_waitForAck (ackCode : AckCode) (requestTimeout : Option Duration) :
    Keeps live false (waitForAck ackCode requestTimeout : ClientM τ ε Ack) := by
  refine linked_bind (linked_ofExcept _) fun _ => linked_bind linked_ensureConnected fun _ =>
    linked_bind linked_self fun _ => linked_then (fun _ => by simp) <| ?_
  split
  · exact linked_pure _
  · refine linked_bind linked_self fun _ => linked_bind (linked_attempt
      (linked_timeout _ (linked_awaitAck reports ackCode))) fun result => ?_
    cases result with
    | ok ack => exact linked_pure _
    | error error => exact linked_then (fun _ => rfl) <| linked_fail _

theorem linked_waitForSyncResponse : Keeps live false (waitForSyncResponse : ClientM τ ε _) := by
  refine linked_loop (fun _ =>
    linked_bind (linked_readNextPacketWithTimeout reports) fun packet => ?_) ()
  cases packet.readySync with
  | none => exact linked_passOn packet ()
  | some ready => exact linked_then (fun _ => by simp) <| linked_ofExcept _

/-- A poll. -/
theorem linked_tryRead :
    Outcome (Held live deadline) (tryRead : ClientM τ ε _)
      (fun result world => world.deadline = deadline ∧ (result ≠ .ok .closed →
        Told isDisconnectError live result world.trace world.transport))
      (fun _ => Held live deadline) (fun _ => True) := by
  intro world ⟨set, linked⟩
  cases granted : world.turns with
  | nil =>
    have ended : tryRead world = (.done (.ok .pending), world) := by simp [tryRead, granted]
    rw [ended]
    exact ⟨set, fun _ => linked⟩
  | cons turn turns =>
    have ended : tryRead world = (.done (Transport.tryRead turn.io world.transport).1,
        { world with transport := (Transport.tryRead turn.io world.transport).2, turns }) := by
      simp [tryRead, granted]
    rw [ended]
    refine ⟨set, fun other => ?_⟩
    rcases polled : (Transport.tryRead turn.io world.transport).1 with error | ready
    · exact fun minor connected => reports.unpolled _ _ _ polled minor (linked connected)
    · have unclosed : ready ≠ .closed := fun closed => other (polled.trans (congrArg _ closed))
      exact fun connected => reports.polled _ _ _ unclosed polled (linked connected)

theorem linked_drainReadyPacket : Keeps live deadline (drainReadyPacket : ClientM τ ε _) := by
  refine outcome_bind (linked_tryRead reports) fun result => ?_
  rcases result with error | (_ | _ | raw)
  · exact (linked_told (isDisconnectError error)).weaken
      (fun world holds => ⟨holds.1, holds.2 nofun⟩) fun _ _ held => held
  · exact outcome_pure _ fun _ holds => ⟨holds.1, holds.2 nofun⟩
  · exact outcome_bind (linked_marked fun _ holds => holds.1) fun _ => linked_fail _
  · refine outcome_bind ((linked_parsePacket raw).weaken
      (fun world holds => ⟨holds.1, holds.2 nofun⟩) fun _ _ held => held) fun packet => ?_
    cases packet.readySync with
    | none => exact linked_passOn packet ()
    | some ready => exact linked_then (fun _ => by simp) <| linked_pure _

theorem linked_drainReadyPackets (left : Nat) :
    Keeps live deadline (drainReadyPackets left : ClientM τ ε _) := by
  induction left with
  | zero =>
    refine linked_bind (linked_drainReadyPacket reports) fun result => ?_
    cases result with
    | inl => exact linked_fail _
    | inr drained => exact linked_pure _
  | succ left ih =>
    refine linked_bind (linked_drainReadyPacket reports) fun result => ?_
    cases result with
    | inl => exact ih
    | inr drained => exact linked_pure _

theorem linked_syncNextMessage : Keeps live false (syncNextMessage : ClientM τ ε _) := by
  refine linked_bind linked_ensureConnected fun _ => linked_bind
    (linked_bind linked_self fun _ => linked_then (fun _ => by simp) <|
      linked_pure _) fun deferred => ?_
  cases deferred with
  | some ready => exact linked_ofExcept _
  | none =>
    refine linked_bind (linked_drainReadyPackets reports _) fun drained => ?_
    cases drained with
    | some ready => exact linked_ofExcept _
    | none =>
      refine linked_bind linked_self fun client => ?_
      split
      · exact linked_waitForSyncResponse reports
      · exact linked_then (fun _ => rfl) <|
          linked_bind (linked_writeRaw reports _) fun _ => linked_waitForSyncResponse reports

omit reports in
theorem linked_disconnect : Keeps live false (disconnect : ClientM τ ε Unit) := by
  refine linked_disconnecting fun result => ?_
  cases result with
  | ok => exact linked_pure ()
  | error error => exact linked_fail _

/-- Every operation keeps the link, unless it is dropped. -/
theorem linked_perform (request : Request) : Keeps live false (request.perform : ClientM τ ε _) := by
  cases conversation : request.isConversation with
  | true => exact linked_converses reports (converses_perform request conversation)
  | false =>
    cases request with
    | connect => exact linked_discard (linked_connect reports)
    | init => exact linked_discard (linked_init reports)
    | disconnect => exact linked_discard linked_disconnect
    | reconnect => exact linked_discard (linked_reconnect reports)
    | nextEvent => exact linked_discard (linked_nextEvent reports)
    | syncNextMessage => exact linked_discard (linked_syncNextMessage reports)
    | waitForAck ackCode requestTimeout =>
      exact linked_discard (linked_waitForAck reports ackCode requestTimeout)
    | _ => cases conversation

end Transported

end Client

/-! ## TCP and serial -/

namespace StreamTransport

variable {io : StreamIo} {transport next : StreamTransport}

theorem stream_of_connect (ran : connect io transport = (some (.ok ()), next)) :
    next.stream = true := by
  unfold connect at ran
  split at ran
  · cases ran
  · split at ran
    · cases ran
    · cases ran
      rfl
    · rename_i outcome other _
      rcases outcome with _ | _ | _
      · exact absurd rfl other
      all_goals cases ran
    all_goals cases ran

/-- A connect that fails leaves an open stream alone. -/
theorem stream_of_connect_error {error : TransportError}
    (ran : connect io transport = (some (.error error), next)) (held : transport.stream = true) :
    next.stream = true := by
  rw [connect_of_stream io held] at ran
  cases ran
  exact held

/-- Every write that fails on an open stream drops it, with an error that is terminal. -/
theorem stream_of_write {payload : Bytes} {result : Except TransportError Unit}
    (ran : write io payload transport = (some result, next))
    (minor : ∀ error, result = .error error → isTerminalWriteError error = false)
    (held : transport.stream = true) : next.stream = true := by
  unfold write at ran
  split at ran
  · cases ran
    exact held
  · simp only [held, Bool.not_true, Bool.false_eq_true, if_false] at ran
    split at ran
    · cases ran
    · cases ran
      exact held
    · cases ran
      cases minor _ rfl
    · cases ran
      cases minor _ rfl

theorem isDisconnectError_contextual (transport : StreamTransport) (action : StreamAction)
    (error : TransportError) :
    isDisconnectError (transport.contextual action error) = isDisconnectError error := by
  cases error <;> rfl

/-- A read keeps an open stream unless it reports the end of the stream or an error that ends
the connection. -/
theorem stream_of_read {result : Call (Option Bytes)} (ran : read io transport = (result, next))
    (unended : result ≠ some (.ok none))
    (minor : ∀ error, result = some (.error error) → isDisconnectError error = false)
    (held : transport.stream = true) : next.stream = true := by
  unfold read at ran
  simp only [held, Bool.not_true, Bool.false_eq_true, if_false] at ran
  split at ran
  · cases ran
    rfl
  · cases ran
    exact absurd rfl unended
  · cases ran
    rfl
  · cases ran
    have kept := minor _ rfl
    rw [isDisconnectError_contextual, ← isTerminalReadError_eq] at kept
    simp only [kept, Bool.false_eq_true, if_false]

theorem reports : Reports (fun transport : StreamTransport => transport.stream = true) where
  connected _ _ _ ran := stream_of_connect ran
  unconnected _ _ _ _ ran := stream_of_connect_error ran
  reconnected io transport next ran := by
    change reconnectByDefault connect disconnect io transport = _ at ran
    unfold reconnectByDefault at ran
    split at ran
    · exact stream_of_connect ran
    · cases ran
    · cases ran
  written _ _ _ _ ran := stream_of_write ran nofun
  unwritten _ _ _ _ _ ran minor := stream_of_write ran fun _ same => by cases same; exact minor
  read _ _ _ _ ran := stream_of_read ran nofun nofun
  unread _ _ _ _ ran minor := stream_of_read ran nofun fun _ same => by cases same; exact minor
  abandoned _ _ _ ran := stream_of_read ran nofun nofun
  polled io transport ready unclosed polled := by
    change readyOf (read io transport).1 = .ok ready at polled
    have ran : read io transport = ((read io transport).1, (read io transport).2) := rfl
    have unended : (read io transport).1 ≠ some (.ok none) := by
      intro ended
      rw [ended] at polled
      exact unclosed (Except.ok.inj polled).symm
    apply stream_of_read ran unended
    intro error failed
    rw [failed] at polled
    cases polled
  unpolled io transport error polled minor := by
    change readyOf (read io transport).1 = .error error at polled
    have ran : read io transport = ((read io transport).1, (read io transport).2) := rfl
    have unended : (read io transport).1 ≠ some (.ok none) := by
      intro ended
      rw [ended] at polled
      cases polled
    apply stream_of_read ran unended
    intro other failed
    rw [failed] at polled
    cases polled
    exact minor

end StreamTransport

/-! ## Runs -/

/-- The operation was not dropped. -/
def Exit.completed {ε α : Type} : Exit ε α → Bool
  | .done _ | .failed _ => true
  | .dropped => false

namespace World

section Completed

variable {τ ε : Type} [Transport τ ε]

/-- Every call of the run completes. -/
def Completes (world : World τ ε) : List (Invocation ε) → Prop
  | [] => True
  | invocation :: rest =>
    (invocation.request.perform (world.granted invocation.turns)).1.completed = true ∧
      (world.invoke invocation).Completes rest

instance decidableCompletes : ∀ (world : World τ ε) (invocations : List (Invocation ε)),
    Decidable (world.Completes invocations)
  | _, [] => isTrue trivial
  | world, invocation :: rest =>
    have := decidableCompletes (world.invoke invocation) rest
    inferInstanceAs (Decidable (_ ∧ _))

/-- Over a transport that reports what it gives up, calls that complete keep the link. -/
theorem completes_linked {live : τ → Prop} (reports : Reports live) {world : World τ ε}
    {invocations : List (Invocation ε)} (completes : world.Completes invocations)
    (linked : Client.Linked live world.trace world.transport) :
    Client.Linked live (world.run invocations).trace (world.run invocations).transport := by
  induction invocations generalizing world with
  | nil => exact linked
  | cons invocation rest ih =>
    obtain ⟨completed, others⟩ := completes
    refine ih others ?_
    have ended := Client.linked_perform reports invocation.request
      (world.granted invocation.turns) ⟨rfl, linked⟩
    unfold invoke
    rcases ran : invocation.request.perform (world.granted invocation.turns) with
      ⟨value | error | _, reached⟩
    all_goals rw [ran] at ended completed
    · exact ended.2
    · exact ended.2
    · cases completed

end Completed

/-- Over TCP and serial, after any sequence of completed operations and whatever the provider
does in them: a client that is connected has a stream. -/
theorem run_linked (transport : StreamTransport) (requestTimeout : Duration)
    (invocations : List (Invocation StreamIo))
    (completes : (World.initial transport requestTimeout).Completes invocations) :
    let world := (World.initial transport requestTimeout).run invocations
    world.client.connected = true → world.transport.stream = true := by
  intro world connected
  exact completes_linked StreamTransport.reports completes (fun offline => by cases offline)
    connected

/-- A session with a read that times out, after which the client is still connected. -/
theorem late_read_linked :
    let invocations : List (Invocation StreamIo) :=
      [opening, { request := .getTime, turns := [{ io := {} }, { io := {}, elapsed := true }] }]
    let world := (World.initial tcpTransport 5000000000).run invocations
    world.client.connected = true ∧ world.transport.stream = true := by
  intro invocations world
  have connected : world.client.connected = true := by decide +kernel
  exact ⟨connected, run_linked tcpTransport 5000000000 invocations (by decide +kernel) connected⟩

end World

end Meshquill
