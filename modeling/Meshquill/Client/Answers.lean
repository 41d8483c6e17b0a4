import Meshquill.Client.Connect
import Meshquill.Client.Conversations
import Meshquill.Client.Outcomes
import Meshquill.Transport.Device

/-!
# Whose answer it is

Responses carry no tag, so an operation takes the next packet of the right kind for its own.
Over a device that answers in order this is right as long as no answer is left over when a
command is written. `settles_perform` shows that every operation that ends as it should
leaves none: it has read its whole response. An operation that ends early may leave some, by a
timeout, by a packet that does not parse or by being dropped, and then a later one takes them
for its own (`stale_answer_returned`).
-/
namespace Meshquill

open History

/-- Errors that may leave a part of the response unread. -/
def CoreError.isEarly : CoreError → Bool
  | .timeout | .parse _ => true
  | _ => false

/-- The operation has come to its end. -/
def Exit.finished {α : Type} : Exit CoreError α → Bool
  | .done _ => true
  | .failed error => !error.isEarly
  | .dropped => false

namespace Client

open Async

variable {α β : Type} {opening : Device} {before : Device → Prop} {raws : List Bytes}

/-- An operation over the device. It reads only answers to its own writes; and if it fails, it
leaves no answer unread, unless it failed early. -/
def Settles (opening : Device) (before : Device → Prop) (body : ClientM Device DeviceIo α)
    (after : α → Device → Prop) : Prop :=
  Ends (fun _ => before) body (fun value _ => after value)
    (fun error _ device => Owned opening device ∧ (device.pending = [] ∨ error.isEarly = true))
    (fun _ => Owned opening)

/-- Nothing is left unread. -/
abbrev Settled (opening : Device) : Device → Prop := Owing opening []

variable {device : Device} {payload : Bytes} {code : CommandCode} {packet : Packet}
  {read : ClientM Device DeviceIo Packet} {judge : β → Packet → PacketWait β α} {command : Command}
  {body : ClientM Device DeviceIo α}

/-- Nothing is left unread, unless the operation ends early. -/
abbrev StaysSettled (opening : Device) (body : ClientM Device DeviceIo α) : Prop :=
  Settles opening (Settled opening) body fun _ => Settled opening

/-- A failure that leaves nothing unread, early or not. -/
theorem settled_failed {early : Prop} (settled : Settled opening device) :
    Owned opening device ∧ (device.pending = [] ∨ early) :=
  ⟨settled.toOwned, .inl settled.pending⟩

section Rules

variable {after : α → Device → Prop}

theorem settles_pure (value : α) (ready : ∀ device, before device → after value device) :
    Settles opening before (pure value) after :=
  ends_pure value fun _ => ready

theorem settles_fail (error : CoreError) : Settles opening (Settled opening) (fail error) after :=
  ends_fail error fun _ _ => settled_failed

theorem settles_bind {first : ClientM Device DeviceIo α} {next : α → ClientM Device DeviceIo β}
    {final : β → Device → Prop} (head : Settles opening before first after)
    (tail : ∀ value, Settles opening (after value) (next value) final) :
    Settles opening before (first >>= next) final :=
  ends_bind head tail

variable {body : ClientM Device DeviceIo α}

theorem Settles.weaken {weaker : Device → Prop} {stronger : α → Device → Prop}
    (settles : Settles opening weaker body stronger)
    (entry : ∀ device, before device → weaker device)
    (leave : ∀ value device, stronger value device → after value device) :
    Settles opening before body after :=
  Ends.weaken settles (fun _ => entry) fun value _ => leave value

/-- What is known beside the device may be used. -/
theorem settles_assuming {fact : Prop} (settles : fact → Settles opening before body after) :
    Settles opening (fun device => before device ∧ fact) body after :=
  fun world holds => settles holds.2 world holds.1

theorem settles_ofExcept (result : Except CoreError α) :
    StaysSettled opening (ofExcept result) := by
  cases result with
  | ok value => exact settles_pure value fun _ owing => owing
  | error error => exact settles_fail error

theorem settles_locally (change : Trace → Trace) :
    Settles opening before (locally change) (fun _ => before) := fun _ holds => holds

/-- A statement of the client says nothing to the device. -/
theorem settles_then {change : Trace → Trace} {next : Unit → ClientM Device DeviceIo β}
    {final : β → Device → Prop} (tail : Settles opening before (next ()) final) :
    Settles opening before (locally change >>= next) final :=
  settles_bind (settles_locally _) fun _ => tail

/-- Returning a value says nothing to it either. -/
theorem settles_return (value : α) : Settles opening before (pure value) (fun _ => before) :=
  settles_pure value fun _ holds => holds

theorem settles_self : Settles opening before self (fun _ => before) := fun _ holds => holds

theorem settles_attempt (settles : Settles opening before body after) :
    Settles opening before (attempt body) (Attempted after fun error device =>
      Owned opening device ∧ (device.pending = [] ∨ error.isEarly = true)) := by
  refine (ends_attempt settles).weaken (fun _ _ holds => holds) fun result _ _ ended => ?_
  cases result <;> exact ended

theorem settles_timeout (duration : Duration) (settles : Settles opening before body after) :
    Settles opening before (timeout duration body) after :=
  ends_timeout duration settles

theorem settles_ensureConnected : StaysSettled opening ensureConnected :=
  (ends_ensureConnected fun _ _ owing _ => settled_failed owing).weaken (fun _ _ owing => owing)
    fun _ _ _ holds => holds.1

theorem settles_markDisconnectedIf (terminal : Bool) :
    Settles opening before (markDisconnectedIf terminal) (fun _ => before) := by
  cases terminal with
  | true => exact settles_locally _
  | false => exact settles_return ()

/-- A packet comes out of the parser numbered; one that does not parse ends the operation
early. -/
theorem settles_parsePacket (raw : Bytes) :
    Settles opening (Owing opening raws) (parsePacket raw) (fun packet device =>
      Owing opening raws device ∧
        ∃ parsed id, Packet.parse raw = .ok parsed ∧ packet = parsed.withObservationId id) := by
  refine ends_parsePacket (fun trace device packet owing parses => ?_)
    (fun trace device error owing rejected => ?_) fun trace device owing panics => ?_
  · exact ⟨owing, packet, _, parses, rfl⟩
  · exact ⟨owing.toOwned, .inr rfl⟩
  · exact owing.toOwned

/-- An await of a call on the device, by what the call does. -/
theorem settles_await {call : DeviceIo → Device → Call α × Device}
    {after : Except TransportError α → Device → Prop}
    (resolved : ∀ io device, before device → ∀ result,
      (call io device).1 = some result → after result (call io device).2)
    (unresolved : ∀ io device, before device → (call io device).1 = none →
      Owned opening (call io device).2)
    (idle : ∀ device, before device → Owned opening device) :
    Settles opening before (await call) after := by
  refine ends_await (fun io trace device result next holds ran => ?_)
    (fun io trace device next holds ran => ?_) fun _ => idle
  · have settled := resolved io device holds
    rw [ran] at settled
    exact settled result rfl
  · have owned := unresolved io device holds
    rw [ran] at owned
    exact ⟨⟨owned rfl, .inr rfl⟩, owned rfl⟩

end Rules

/-! ## Reading and writing -/

/-- A packet arrived: one that the device sent by itself, or the first of the answers. -/
inductive Arrived (opening : Device) (raws : List Bytes) (packet : Packet) (device : Device) : Prop
  | unsolicited (kind : packet.isUnsolicited = true) (owing : Owing opening raws device)
  | answer (raw : Bytes) (rest : List Bytes) (parsed : Packet) (id : UInt64)
      (first : raws = raw :: rest) (parses : Packet.parse raw = .ok parsed)
      (numbered : packet = parsed.withObservationId id) (owing : Owing opening rest device)

theorem isUnsolicited_withObservationId (id : UInt64) (packet : Packet) :
    (packet.withObservationId id).isUnsolicited = packet.isUnsolicited := by
  cases packet <;> rfl

/-- What a resolved read of the device gives to the operation. -/
def Obtained (opening : Device) (raws : List Bytes) :
    Except TransportError (Option Bytes) → Device → Prop
  | .ok (some raw), device =>
    (∃ packet : Unsolicited, raw = packet.raw ∧ Owing opening raws device) ∨
      ∃ rest, raws = raw :: rest ∧ Owing opening rest device
  | .ok none, _ => False
  | .error _, device => Settled opening device

theorem obtained_of_delivery {result : Except TransportError (Option Bytes)}
    (delivery : Delivery opening raws (some result, device)) :
    Obtained opening raws result device := by
  cases delivery with
  | closed owing => exact owing
  | unsolicited packet owing => exact .inl ⟨packet, rfl, owing⟩
  | answer raw rest first owing => exact .inr ⟨rest, first, owing⟩

theorem owing_of_delivery (delivery : Delivery opening raws (none, device)) :
    Owing opening raws device := by
  cases delivery with
  | unresolved owing => exact owing

theorem settles_read :
    Settles opening (Owing opening raws) (await Transport.read) (Obtained opening raws) := by
  refine settles_await (fun io device owing result resolved => ?_)
    (fun io device owing unresolved => ?_) fun _ => Owing.toOwned
  · have delivery := owing.read io
    rw [show Device.read io device = (some result, (Device.read io device).2) from
      Prod.ext resolved rfl] at delivery
    exact obtained_of_delivery delivery
  · have delivery := owing.read io
    rw [show Device.read io device = (none, (Device.read io device).2) from
      Prod.ext unresolved rfl] at delivery
    exact (owing_of_delivery delivery).toOwned

theorem settles_readNextPacket :
    Settles opening (Owing opening raws) readNextPacket (Arrived opening raws) := by
  refine settles_bind settles_read fun result => ?_
  rcases result with error | (_ | raw)
  · exact settles_bind (settles_markDisconnectedIf _) fun _ => settles_fail _
  · exact fun _ nothing => nothing.elim
  · intro world obtained
    rcases obtained with ⟨packet, rfl, owing⟩ | ⟨rest, first, owing⟩
    · refine (settles_parsePacket packet.raw).weaken (fun _ holds => holds) ?_ world owing
      rintro _ _ ⟨owing, parsed, id, parses, rfl⟩
      exact .unsolicited ((isUnsolicited_withObservationId ..).trans (packet.kind _ parses)) owing
    · refine (settles_parsePacket raw).weaken (fun _ holds => holds) ?_ world owing
      rintro _ _ ⟨owing, parsed, id, parses, rfl⟩
      exact .answer raw rest parsed id first parses rfl owing

theorem settles_readNextPacketWithTimeout :
    Settles opening (Owing opening raws) readNextPacketWithTimeout (Arrived opening raws) :=
  settles_bind settles_self fun _ => settles_timeout _ settles_readNextPacket

/-- The answers to a command of this code are unread. -/
def Answering (opening : Device) (code : CommandCode) (device : Device) : Prop :=
  ∃ raws, Owing opening raws device ∧ code.Answers raws

/-- What a resolved write leaves to read. -/
def Written (opening : Device) (code : CommandCode) : Except TransportError Unit → Device → Prop
  | .ok (), device => Answering opening code device
  | .error _, device => Settled opening device

theorem settles_write (leads : payload.head? = some code.toU8) :
    Settles opening (Settled opening) (await fun io => Transport.write io payload)
      (Written opening code) := by
  refine settles_await (fun io device owing result resolved => ?_)
    (fun io device owing unresolved => ?_) fun _ => Owing.toOwned
  · change (Device.write io payload device).1 = some result at resolved
    change Written opening code result (Device.write io payload device).2
    rcases owing.write io payload with ⟨closed, refused⟩ | ⟨ended, owed⟩
    · rw [refused] at resolved ⊢
      obtain rfl : .error .notConnected = result := Option.some.inj resolved
      exact owing
    · rw [ended] at resolved
      split at resolved
      · obtain rfl : .ok () = result := Option.some.inj resolved
        exact ⟨_, owed, (io.answer payload).answers code leads⟩
      · cases resolved
  · rcases owing.write io payload with ⟨closed, refused⟩ | ⟨ended, owed⟩
    · change (Device.write io payload device).1 = none at unresolved
      rw [refused] at unresolved
      cases unresolved
    · exact owed.toOwned

theorem settles_writeRaw (leads : payload.head? = some code.toU8) :
    Settles opening (Settled opening) (writeRaw payload) (fun _ => Answering opening code) := by
  unfold writeRaw
  split
  · exact settles_then <| settles_fail _
  split
  · exact settles_then <| settles_fail _
  refine settles_then <| settles_bind (settles_write leads) fun result => ?_
  cases result with
  | ok => exact settles_pure _ fun _ answering => answering
  | error error => exact settles_bind (settles_markDisconnectedIf _) fun _ => settles_fail _

theorem settles_sendOnly (command : Command) :
    Settles opening (Settled opening) (sendOnly command)
      (fun _ => Answering opening command.code) := by
  refine settles_bind settles_ensureConnected fun _ => settles_bind settles_self fun client => ?_
  split
  · exact settles_then <| settles_fail _
  · exact settles_writeRaw rfl

/-! ## The loops -/

theorem role_withObservationId (code : CommandCode) (id : UInt64) (packet : Packet) :
    code.role (packet.withObservationId id) = code.role packet := by
  cases packet <;> rfl

/-- A packet was read during a response: if it ends the response, nothing is left of it. -/
def Consumed (opening : Device) (code : CommandCode) (packet : Packet) (device : Device) : Prop :=
  Answering opening code device ∧ (code.role packet = .last → Settled opening device)

/-- Reading on in a response: nothing follows the packet that ends it. -/
theorem consumed_of_arrived (answers : code.Answers raws)
    (arrived : Arrived opening raws packet device) :
    Consumed opening code packet device := by
  cases arrived with
  | unsolicited kind owing =>
    refine ⟨⟨raws, owing, answers⟩, fun last => ?_⟩
    cases (code.role_of_unsolicited kind).symm.trans last
  | answer raw rest parsed id first parses numbered owing =>
    subst first numbered
    refine ⟨⟨rest, owing, answers.2⟩, fun last => ?_⟩
    rw [role_withObservationId] at last
    rwa [answers.1 parsed parses last] at owing

/-- A read that takes the next packet, whatever is owed. -/
def TakesNext (opening : Device) (read : ClientM Device DeviceIo Packet) : Prop :=
  ∀ raws, Settles opening (Owing opening raws) read (Arrived opening raws)

/-- A read during a response. -/
theorem settles_reading (reads : TakesNext opening read) :
    Settles opening (Answering opening code) read (Consumed opening code) := by
  rintro world ⟨raws, owing, answers⟩
  exact (reads raws).weaken (fun _ holds => holds)
    (fun _ _ arrived => consumed_of_arrived answers arrived) world owing

/-- A loop whose rounds start with the device in one state. -/
theorem settles_loop {body : β → ClientM Device DeviceIo (β ⊕ α)} {after : α → Device → Prop}
    (stops : ∀ device, before device → Owned opening device)
    (round : ∀ carried, Settles opening before (body carried) (fun result device =>
      match result with
      | .inl _ => before device
      | .inr value => after value device)) (carried : β) :
    Settles opening before (loop World.remaining body carried) after := by
  refine ends_loop (fun _ => stops) (fun carried => ?_) carried
  refine Ends.weaken (round carried) (fun _ _ holds => holds) fun result _ _ holds => ?_
  cases result <;> exact holds

theorem settles_passOn (packet : Packet) {after : β ⊕ α → Device → Prop} (carried : β)
    (goes : ∀ device, before device → after (.inl carried) device) :
    Settles opening before (publishEvent packet >>= fun _ => updateTracking packet >>= fun _ =>
      pure (.inl carried)) after :=
  settles_then <| settles_then <| settles_pure _ goes

theorem Answering.owned (device : Device) (answering : Answering opening code device) :
    Owned opening device := by
  obtain ⟨_, owing, -⟩ := answering
  exact owing.toOwned

/-- A loop over a response, by what is left of it where the loop is ready. It may fail only where
the response ends. -/
theorem settles_awaitResponse (reads : TakesNext opening read) {after : Device → Prop}
    (ready : ∀ carried packet value, judge carried packet = .ready value →
      ∀ device, Consumed opening code packet device → after device)
    (fails : ∀ carried packet error, judge carried packet = .fail error →
      code.role packet = .last) (carried : β) :
    Settles opening (Answering opening code) (awaitResponse read judge carried)
      (fun _ => after) := by
  refine settles_loop Answering.owned (fun carried => ?_) carried
  refine settles_bind (settles_reading reads) fun packet => ?_
  cases decided : judge carried packet with
  | ready value => exact settles_pure _ (ready carried packet value decided)
  | keep next => exact settles_pure _ fun _ holds => holds.1
  | fail error =>
    exact ends_fail error fun _ _ holds => settled_failed (holds.2 (fails _ _ _ decided))
  | proceed => exact settles_passOn packet carried fun _ holds => holds.1

/-- A loop that stops only where the response ends has read all of it then. -/
theorem settles_response (reads : TakesNext opening read)
    (stops : ∀ carried packet, (judge carried packet).role = .last → code.role packet = .last)
    (carried : β) :
    Settles opening (Answering opening code) (awaitResponse read judge carried)
      (fun _ => Settled opening) :=
  settles_awaitResponse reads
    (fun carried packet _ decided _ heard => heard.2 (stops carried packet (by rw [decided]; rfl)))
    (fun carried packet _ decided => stops carried packet (by rw [decided]; rfl)) carried

theorem settles_following (follows : Follows code judge) (carried : β) :
    Settles opening (Answering opening code)
      (awaitResponse readNextPacketWithTimeout judge carried) (fun _ => Settled opening) :=
  settles_response (fun _ => settles_readNextPacketWithTimeout)
    (fun carried packet stopped => (follows carried packet).symm.trans stopped) carried

/-- While nothing is owed, only packets come that the device sends by itself. -/
theorem settles_listening (reads : TakesNext opening read) :
    Settles opening (Settled opening) read (fun packet device =>
      packet.isUnsolicited = true ∧ Settled opening device) := by
  refine (reads []).weaken (fun _ holds => holds) fun packet device arrived => ?_
  cases arrived with
  | unsolicited kind owing => exact ⟨kind, owing⟩
  | answer raw rest parsed id first => cases first

/-- A remote node's request is over when the device refuses it. -/
theorem role_of_refusal (remote : code.isRemote = true) (error : Option UInt8) :
    code.role (.error error) = .last ∧ code.role .disabled = .last := by
  cases code <;> first
    | exact ⟨rfl, rfl⟩
    | cases remote

/-- The wait for the result of a remote request stops only where the response ends. -/
theorem stops_waitJudge (remote : code.isRemote = true) {operation : String}
    {extract : Packet → PacketWait Unit α} (extracts : EndsWith code extract) (carried : Unit)
    (packet : Packet) (stopped : (waitJudge operation extract carried packet).role = .last) :
    code.role packet = .last := by
  refine (extracts packet).elim (fun passes => ?_) id
  cases packet with
  | error error => exact (role_of_refusal remote error).1
  | disabled => exact (role_of_refusal remote none).2
  | _ => simp [waitJudge, passes, PacketWait.role] at stopped

/-! ## The operations -/

theorem settles_sent (direct : command.code = .sendTxtMsg) (trackAck : Bool) :
    StaysSettled opening (sendCommandExpectMsgSentInner command trackAck) :=
  settles_bind (settles_sendOnly command) fun _ =>
    settles_bind (settles_following (direct ▸ follows_msgSentJudge) ()) fun _ =>
      settles_then <| settles_return _

/-- Once a remote request is accepted, its result is still to come. -/
theorem settles_accepted (remote : command.code.isRemote = true) :
    Settles opening (Settled opening) (sendCommandExpectMsgSentUntracked command)
      (fun _ => Answering opening command.code) := by
  refine settles_bind (settles_sendOnly command) fun _ => settles_bind (settles_awaitResponse
    (fun _ => settles_readNextPacketWithTimeout) (fun _ _ _ _ _ heard => heard.1)
    (fun carried packet error failed => ?_) ()) fun _ => settles_then <| settles_return _
  cases packet <;> first
    | exact (role_of_refusal remote _).1
    | cases failed

/-- A call that stays pending, or else leaves nothing unread. -/
theorem settles_closing {call : DeviceIo → Device → Call α × Device}
    (closes : ∀ io device, Owned opening device →
      call io device = (none, device) ∨ Settled opening (call io device).2) :
    Settles opening (Owned opening) (await call) (fun _ => Settled opening) := by
  refine settles_await (fun io device owned result resolved => ?_)
    (fun io device owned unresolved => ?_) fun device owned => owned
  · rcases closes io device owned with pending | closed
    · cases (congrArg Prod.fst pending).symm.trans resolved
    · exact closed
  · rcases closes io device owned with pending | closed
    · exact (congrArg Prod.snd pending).symm ▸ owned
    · exact closed.toOwned

theorem settles_disconnecting :
    Settles opening (Owned opening) (await Transport.disconnect) (fun _ => Settled opening) :=
  settles_closing fun io _ owned => (owned.disconnect io).imp_right And.right

theorem settles_connecting : StaysSettled opening (await Transport.connect) :=
  settles_await (fun io _ owing _ _ => owing.connect io)
    (fun io _ owing _ => (owing.connect io).toOwned) fun _ => Owing.toOwned

/-- A new session begins with nothing unread, whatever the one before it left. -/
theorem settles_reconnecting :
    Settles opening (Owned opening) (await Transport.reconnect) (fun _ => Settled opening) :=
  settles_closing fun io _ owned => owned.reconnect io

/-- What is built from exchanges leaves nothing unread, unless it ends early. -/
theorem settles_converses (converses : Converses body) : StaysSettled opening body := by
  induction converses with
  | pure value => exact settles_return value
  | fail error => exact settles_fail error
  | bind head tail first rest => exact settles_bind first rest
  | ensureConnected => exact settles_ensureConnected
  | exchange ordinary follows carried =>
    exact settles_bind (settles_sendOnly _) fun _ => settles_following follows carried
  | sent direct trackAck => exact settles_sent direct trackAck
  | remote remote operation extracts =>
    exact settles_bind (settles_accepted remote) fun tracking =>
      settles_bind (settles_bind settles_self fun _ => settles_return _)
        fun duration => settles_timeout duration (settles_response
          (fun _ => settles_readNextPacket) (stops_waitJudge remote (extracts tracking)) ())
  | farewell silent =>
    exact settles_bind (settles_sendOnly _) fun _ =>
      settles_bind (settles_disconnecting.weaken Answering.owned fun _ _ holds => holds)
        fun _ => settles_locally _

theorem settles_init : StaysSettled opening init :=
  settles_bind settles_ensureConnected fun _ => settles_bind (settles_sendOnly _) fun _ =>
    settles_bind (settles_following follows_initJudge ()) fun _ => settles_then <| settles_return _

theorem settles_startSession : StaysSettled opening startSession := by
  refine settles_then <| settles_bind (settles_attempt settles_init) fun result => ?_
  cases result with
  | ok info => exact settles_then <| settles_return _
  | error error =>
    exact settles_bind (settles_disconnecting.weaken (fun _ => And.left) fun _ _ holds => holds)
      fun _ => settles_then <| settles_fail _

/-- Opening the transport, then the session. -/
theorem settles_open {call : ClientM Device DeviceIo (Except TransportError Unit)}
    (opens : Settles opening before call (fun _ => Settled opening)) :
    Settles opening before (do
      match ← call with
      | .ok () => startSession
      | .error error => fail (.transport error)) (fun _ => Settled opening) := by
  refine settles_bind opens fun result => ?_
  cases result with
  | ok => exact settles_startSession
  | error error => exact settles_fail _

theorem settles_disconnect : StaysSettled opening disconnect := by
  refine settles_bind (settles_disconnecting.weaken (fun _ => Owing.toOwned)
    fun _ _ holds => holds) fun result => settles_then <| ?_
  cases result with
  | ok => exact settles_return _
  | error error => exact settles_fail _

theorem settles_nextEvent : StaysSettled opening nextEvent := by
  refine settles_bind settles_ensureConnected fun _ =>
    settles_bind (settles_listening fun _ => settles_readNextPacket) fun packet =>
      settles_then <| settles_then <| ?_
  cases packet.intoEvent with
  | none => exact settles_pure _ fun _ holds => holds.2
  | some event =>
    exact settles_then <| settles_pure _ fun _ holds => holds.2

theorem settles_awaitAck (ackCode : AckCode) : StaysSettled opening (awaitAck ackCode) := by
  refine settles_loop (fun _ => Owing.toOwned) (fun _ => ?_) ()
  refine settles_bind (settles_listening fun _ => settles_readNextPacket) fun packet => ?_
  cases packet with
  | ack ack =>
    simp only
    split
    · exact settles_then <| settles_pure _ fun _ holds => holds.2
    · exact settles_passOn _ _ fun _ holds => holds.2
  | error code =>
    exact settles_then <| ends_fail _ fun _ _ holds => settled_failed holds.2
  | _ => exact settles_then <| settles_pure _ fun _ holds => holds.2

theorem settles_waitForAck (ackCode : AckCode) (requestTimeout : Option Duration) :
    StaysSettled opening (waitForAck ackCode requestTimeout) := by
  refine settles_bind (settles_ofExcept _) fun _ => settles_bind settles_ensureConnected fun _ =>
    settles_bind settles_self fun _ => settles_then <| ?_
  split
  · exact settles_return _
  · refine settles_bind settles_self fun _ =>
      settles_bind (settles_attempt (settles_timeout _ (settles_awaitAck ackCode))) fun result => ?_
    cases result with
    | ok ack => exact settles_return _
    | error error =>
      exact settles_then <| ends_fail error fun _ _ holds => holds

/-! ## Synchronisation -/

theorem readySync_of_unsolicited (kind : packet.isUnsolicited = true) :
    packet.readySync = none := by
  cases packet <;> first
    | rfl
    | exact absurd kind Bool.false_ne_true

/-- The answers to a synchronisation are the packets that end its response. -/
theorem role_of_readySync {ready : ReadySync} (answer : packet.readySync = some ready) :
    CommandCode.syncNextMessage.role packet = .last := by
  cases packet <;> first
    | rfl
    | cases answer

theorem settles_waitForSyncResponse :
    Settles opening (Answering opening .syncNextMessage) waitForSyncResponse
      (fun _ => Settled opening) := by
  refine settles_loop Answering.owned (fun _ => ?_) ()
  refine settles_bind (settles_reading fun _ => settles_readNextPacketWithTimeout) fun packet => ?_
  cases answer : packet.readySync with
  | none => exact settles_passOn packet () fun _ holds => holds.1
  | some ready =>
    refine settles_then <| (settles_ofExcept _).weaken
      (fun _ holds => holds.2 (role_of_readySync answer)) fun result _ settled => ?_
    cases result with
    | inl => exact ⟨[], settled, trivial⟩
    | inr => exact settled

/-- A poll while nothing is owed. -/
theorem settles_tryRead :
    Settles opening (Settled opening) tryRead (fun result device => Settled opening device ∧
      ∀ raw, result = .ok (.packet raw) → ∃ packet : Unsolicited, raw = packet.raw) := by
  intro world owing
  cases granted : world.turns with
  | nil =>
    have ended : tryRead world = (.done (.ok .pending), world) := by simp [tryRead, granted]
    rw [ended]
    exact ⟨owing, nofun⟩
  | cons turn turns =>
    have ended : tryRead world = (.done (readyOf (Device.read turn.io world.transport).1),
        { world with transport := (Device.read turn.io world.transport).2, turns }) := by
      simp [tryRead, granted, Transport.tryRead]
    rw [ended]
    have delivery := Owing.read owing turn.io
    generalize Device.read turn.io world.transport = outcome at delivery
    cases delivery with
    | unresolved owing | closed owing => exact ⟨owing, nofun⟩
    | unsolicited packet owing => exact ⟨owing, fun raw same => ⟨packet, by cases same; rfl⟩⟩
    | answer raw rest first owing => cases first

theorem settles_drainReadyPacket :
    Settles opening (Settled opening) drainReadyPacket (fun result device =>
      Settled opening device ∧ ∀ ready, result ≠ .inr (some ready)) := by
  refine settles_bind settles_tryRead fun result => ?_
  rcases result with error | (_ | _ | raw)
  · exact settles_bind (settles_markDisconnectedIf _) fun _ =>
      ends_fail _ fun _ _ holds => settled_failed holds.1
  · exact settles_pure _ fun _ holds => ⟨holds.1, by simp⟩
  · exact settles_then <| ends_fail _ fun _ _ holds => settled_failed holds.1
  · refine settles_assuming fun sent => ?_
    obtain ⟨packet, rfl⟩ := sent raw rfl
    refine settles_bind (settles_parsePacket packet.raw) fun _ => settles_assuming ?_
    rintro ⟨parsed, id, parses, rfl⟩
    have other : (parsed.withObservationId id).readySync = none :=
      readySync_of_unsolicited ((isUnsolicited_withObservationId ..).trans (packet.kind _ parses))
    rw [other]
    exact settles_passOn _ () fun _ settled => ⟨settled, by simp⟩

theorem settles_drainReadyPackets (left : Nat) :
    Settles opening (Settled opening) (drainReadyPackets left) (fun drained device =>
      Settled opening device ∧ drained = none) := by
  induction left with
  | zero =>
    refine settles_bind settles_drainReadyPacket fun result => ?_
    rcases result with _ | (_ | ready)
    · exact ends_fail _ fun _ _ holds => settled_failed holds.1
    · exact settles_pure _ fun _ holds => ⟨holds.1, rfl⟩
    · exact fun _ holds => absurd rfl (holds.2 ready)
  | succ left ih =>
    refine settles_bind settles_drainReadyPacket fun result => ?_
    rcases result with _ | (_ | ready)
    · exact ih.weaken (fun _ holds => holds.1) fun _ _ holds => holds
    · exact settles_pure _ fun _ holds => ⟨holds.1, rfl⟩
    · exact fun _ holds => absurd rfl (holds.2 ready)

theorem settles_takeDeferredSync : Settles opening before takeDeferredSync (fun _ => before) :=
  settles_bind settles_self fun _ => settles_then <| settles_return _

theorem settles_syncNextMessage : StaysSettled opening syncNextMessage := by
  refine settles_bind settles_ensureConnected fun _ =>
    settles_bind settles_takeDeferredSync fun deferred => ?_
  cases deferred with
  | some ready => exact settles_ofExcept _
  | none =>
    refine settles_bind (settles_drainReadyPackets _) fun drained => ?_
    cases drained with
    | some ready => exact fun _ holds => nomatch holds.2
    | none =>
      refine settles_bind settles_self fun client => ?_
      split
      · exact settles_waitForSyncResponse.weaken (fun _ holds => ⟨[], holds.1, trivial⟩)
          fun _ _ holds => holds
      · refine settles_then <| settles_bind
          ((settles_writeRaw rfl).weaken (fun _ holds => holds.1) fun _ _ holds => holds)
          fun _ => settles_waitForSyncResponse

theorem settles_discard (settles : Settles opening before body (fun _ => Settled opening)) :
    Settles opening before (discard body) (fun _ => Settled opening) :=
  settles_bind settles fun _ => settles_return ()

/-- A new session in place of the old one. -/
theorem settles_reconnect :
    Settles opening (Owned opening) (Request.perform .reconnect) (fun _ => Settled opening) :=
  settles_discard (settles_then <| settles_open settles_reconnecting)

/-- Every operation leaves nothing unread, unless it ends early. -/
theorem settles_perform (request : Request) : StaysSettled opening request.perform := by
  cases conversation : request.isConversation with
  | true => exact settles_converses (converses_perform request conversation)
  | false =>
    cases request with
    | connect =>
      exact settles_discard (settles_then <| settles_open settles_connecting)
    | init => exact settles_discard settles_init
    | disconnect => exact settles_discard settles_disconnect
    | reconnect =>
      exact settles_reconnect.weaken (fun _ => Owing.toOwned) fun _ _ holds => holds
    | nextEvent => exact settles_discard settles_nextEvent
    | syncNextMessage => exact settles_discard settles_syncNextMessage
    | waitForAck ackCode requestTimeout =>
      exact settles_discard (settles_waitForAck ackCode requestTimeout)
    | _ => cases conversation

end Client

/-! ## Runs -/

namespace World

/-- No call of the run ends early with a part of its response unread. -/
def Finishes (world : World Device DeviceIo) : List (Invocation DeviceIo) → Prop
  | [] => True
  | invocation :: rest =>
    ((invocation.request.perform (world.granted invocation.turns)).1.finished = true ∨
      (world.invoke invocation).transport.pending = []) ∧
    (world.invoke invocation).Finishes rest

instance decidableFinishes : ∀ (world : World Device DeviceIo)
    (invocations : List (Invocation DeviceIo)), Decidable (world.Finishes invocations)
  | _, [] => isTrue trivial
  | world, invocation :: rest =>
    have := decidableFinishes (world.invoke invocation) rest
    inferInstanceAs (Decidable (_ ∧ _))

/-- A session begins with these calls: none is open, or the first call opens a new one. -/
def BeginsSession (world : World Device DeviceIo) (invocations : List (Invocation DeviceIo)) :
    Prop :=
  world.transport.outbox = none ∨ ∃ turns rest, invocations = ⟨.reconnect, turns⟩ :: rest

/-- Nothing is unread when the first of these calls begins, or as soon as it has closed the
session. -/
def Ready (world : World Device DeviceIo) (invocations : List (Invocation DeviceIo)) : Prop :=
  world.transport.pending = [] ∨ ∃ turns rest, invocations = ⟨.reconnect, turns⟩ :: rest

variable {world : World Device DeviceIo} {rest : List (Invocation DeviceIo)}

/-- What a call reads and what it leaves unread. -/
theorem Ready.invoke {invocation : Invocation DeviceIo} (ready : world.Ready (invocation :: rest)) :
    Owned world.transport (world.invoke invocation).transport ∧
      ((world.invoke invocation).transport.pending = [] ∨
        (invocation.request.perform (world.granted invocation.turns)).1.finished = false) := by
  have settles : Client.Settles world.transport (· = world.transport) invocation.request.perform
      (fun _ => Client.Settled world.transport) := by
    rcases ready with nothing | ⟨turns, others, same⟩
    · refine (Client.settles_perform _).weaken ?_ fun _ _ holds => holds
      rintro _ rfl
      exact ⟨.refl _, nothing, .inl rfl⟩
    · obtain ⟨rfl, -⟩ := List.cons.inj same
      refine Client.settles_reconnect.weaken ?_ fun _ _ holds => holds
      rintro _ rfl
      exact .refl _
  have ended := settles (world.granted invocation.turns) rfl
  unfold World.invoke
  rcases ran : invocation.request.perform (world.granted invocation.turns) with
    ⟨value | error | _, reached⟩
  all_goals rw [ran] at ended
  · exact ⟨ended.toOwned, .inl ended.pending⟩
  · exact ⟨ended.1, ended.2.imp_right fun early => by simp [Exit.finished, early]⟩
  · exact ⟨ended, .inr rfl⟩

/-- Calls that finish leave nothing unread for the next one. -/
theorem Ready.run {session : List (Invocation DeviceIo)} (ready : world.Ready (session ++ rest))
    (finishes : world.Finishes session) :
    (world.run session).Ready rest := by
  induction session generalizing world with
  | nil => exact ready
  | cons invocation session ih =>
    refine ih (.inl ?_) finishes.2
    rcases finishes.1 with finished | read
    · exact ready.invoke.2.resolve_right (by simp [finished])
    · exact read

/-- Over a device that answers in order: if no earlier call of the session ended early with a part
of its response unread, then every answer that a call reads is one to a write of its own, and
to its last one so far. What the calls before the session did does not matter. -/
theorem run_own_answers (requestTimeout : Duration)
    (previous session : List (Invocation DeviceIo)) (invocation : Invocation DeviceIo)
    (begins : ((World.initial ({} : Device) requestTimeout).run previous).BeginsSession
      (session ++ [invocation]))
    (finishes : ((World.initial ({} : Device) requestTimeout).run previous).Finishes session) :
    let world := ((World.initial ({} : Device) requestTimeout).run previous).run session
    ∃ readings, (world.invoke invocation).transport.reads = readings ++ world.transport.reads ∧
      ∀ reading ∈ readings, ∀ write raw, reading.sent = .answer write raw →
        write = reading.writes ∧ world.transport.writes < write := by
  intro world
  have ready : Ready ((World.initial ({} : Device) requestTimeout).run previous)
      (session ++ [invocation]) :=
    begins.imp_left fun closed => by simp [Device.pending, closed]
  exact (ready.run finishes).invoke.1.own

end World

/-- The clock of the device, as a packet. -/
def currentTimeRaw (seconds : UInt8) : Bytes := [0x09, seconds, 0, 0, 0]

/-- A connect call that opens a session with the device. -/
def openingDevice : Invocation DeviceIo :=
  { request := .connect
    turns := [{ io := {} }, { io := { answer := fun _ => .single selfInfoRaw } }, { io := {} }] }

/-- A query for the time that the device answers with this one. -/
def answeredQuery (seconds : UInt8) : Invocation DeviceIo :=
  { request := .getTime
    turns := [{ io := { answer := fun _ => .single (currentTimeRaw seconds) } }, { io := {} }] }

/-- A query for the time that runs into its timeout before the answer is read. -/
def lateQuery (seconds : UInt8) : Invocation DeviceIo :=
  { request := .getTime
    turns := [{ io := { answer := fun _ => .single (currentTimeRaw seconds) } },
      { io := { resolves := false }, elapsed := true }] }

/-- A wait for an ACK that times out. -/
def lateWait : Invocation DeviceIo :=
  { request := .waitForAck (.ofBytes 1 2 3 4) none
    turns := [{ io := { resolves := false }, elapsed := true }] }

/-- Acceptance of a login and the result that follows it. -/
def loginRaws : List Bytes :=
  [[0x06, 0, 1, 2, 3, 4, 0, 0, 0, 0], [0x85, 1, 0x42, 0x42, 0x42, 0x42, 0x42, 0x42]]

/-- A device that answers a login, and nothing else. -/
def loginAnswer (payload : Bytes) : Response payload :=
  if login : payload.head? = some CommandCode.sendLogin.toU8 then
    { raws := loginRaws
      answers := fun code leads => by
        have same : code.toU8 = CommandCode.sendLogin.toU8 :=
          Option.some.inj (leads.symm.trans login)
        refine ⟨fun packet parses last => ?_, fun _ _ _ => rfl, trivial⟩
        cases parses
        cases code <;> cases same <;> cases last }
  else .silence

/-- A login that is accepted and then succeeds. -/
def answeredLogin : Invocation DeviceIo :=
  { request := .login (List.replicate 32 0x42) "secret"
    turns := [{ io := { answer := loginAnswer } }, { io := {} }, { io := {} }] }

/-- An earlier session may have left an answer behind: after a reconnect, a login and a query each
read their own, and a wait that times out between them leaves nothing behind. -/
theorem World.second_query_own_answer :
    let start := World.initial ({} : Device) 5000000000
    let world := (start.run [openingDevice, lateQuery 1]).run
      [{ openingDevice with request := .reconnect }, answeredLogin, lateWait]
    (world.transport.reads.map fun reading => (reading.writes, reading.sent.answer?)) =
        [(4, some (4, loginRaws[1])), (4, some (4, loginRaws[0])), (3, some (3, selfInfoRaw)),
          (1, some (1, selfInfoRaw))] ∧
      (Client.getTime (world.granted (answeredQuery 2).turns)).1 = .done 2 ∧
      ∃ readings, (world.invoke (answeredQuery 2)).transport.reads =
          readings ++ world.transport.reads ∧
        ∀ reading ∈ readings, ∀ write raw, reading.sent = .answer write raw →
          write = reading.writes ∧ world.transport.writes < write :=
  ⟨by decide +kernel, by decide +kernel, World.run_own_answers 5000000000
    [openingDevice, lateQuery 1]
    [{ openingDevice with request := .reconnect }, answeredLogin, lateWait] (answeredQuery 2)
    (.inr ⟨_, _, rfl⟩) (by decide +kernel)⟩

/-- A query that timed out leaves its answer behind, and the next query returns it: the time
that the device gave to the first write, not to the second. -/
theorem World.stale_answer_returned :
    let before := (World.initial ({} : Device) 5000000000).run [openingDevice]
    let world := before.invoke (lateQuery 1)
    let next := (Client.getTime (world.granted (answeredQuery 2).turns)).2
    (Client.getTime (before.granted (lateQuery 1).turns)).1 = .failed .timeout ∧
      world.client.connected = true ∧
      (Client.getTime (world.granted (answeredQuery 2).turns)).1 = .done 1 ∧
      next.transport.writes = 3 ∧
      (next.transport.reads.head?.bind fun reading => reading.sent.answer?) =
        some (2, currentTimeRaw 1) ∧
      next.transport.pending = [(3, currentTimeRaw 2)] := by
  decide +kernel

end Meshquill
