import Meshquill.Client.Conversations
import Meshquill.Client.Outcomes
import Meshquill.Client.Steps

/-!
# What a response loop makes of the packets it reads

A loop that waits for a response reads packet after packet. `Listened` gives the packets before
the last one and the trace they lead to: a packet of the response is only kept, and any other one
is published and tracked exactly as outside the loop. `LoopEnd` lists how the loop ends after
them. Both are exact: the trace is the one the source would produce from these packets, and
nothing else is written, published or tracked.
-/
namespace Meshquill

/-- The observations that lead from one trace to the other, oldest first. -/
def Trace.Observes (trace reached : Trace) (observed : List Observation) : Prop :=
  reached.history.map Entry.seen = observed.reverse ++ trace.history.map Entry.seen

variable {first second third : Trace} {later : List Observation}

theorem Trace.Observes.trans {earlier : List Observation} (before : first.Observes second earlier)
    (after : second.Observes third later) :
    first.Observes third (earlier ++ later) := by
  rw [Trace.Observes, after, before, List.reverse_append, List.append_assoc]

theorem Trace.Observes.cons {seen : Observation} (before : first.Observes second [seen])
    (after : second.Observes third later) : first.Observes third (seen :: later) :=
  before.trans after

theorem Trace.note_observes (trace : Trace) (seen : Observation) :
    trace.Observes (trace.note seen) [seen] := rfl

theorem Trace.decode_observes (trace : Trace) (parsed : Packet) :
    trace.Observes (trace.decode parsed) [.decoded (trace.number parsed)] := rfl

/-- `publish_event` and `update_tracking`, as every loop does for a packet that is not for it. -/
def Trace.passOn (packet : Packet) (trace : Trace) : Trace :=
  (trace.publishEvent packet).updateTracking packet

def World.passOn {τ ε : Type} (world : World τ ε) (packet : Packet) : World τ ε :=
  { world with trace := world.trace.passOn packet }

/-- A client that can send a command: it is connected and no synchronisation is unanswered. -/
structure Client.Ready (client : Client) : Prop where
  connected : client.connected = true
  idle : client.syncState = .idle

/-- What the client observes while it waits for a response. -/
def Observation.isWaiting : Observation → Bool
  | .decoded _ | .published _ | .retained _ | .issued _ | .recorded _ => true
  | _ => false

def Observation.decoded? : Observation → Option Packet
  | .decoded packet => some packet
  | _ => none

def Observation.published? : Observation → Option Event
  | .published event => some event
  | _ => none

/-- What `update_tracking` makes of a client. -/
def Client.track (packet : Packet) (client : Client) : Client :=
  ((Trace.mk client []).updateTracking packet).client

/-- What a packet makes of a client that waits for packets of its own. -/
def Client.hear (mine : Packet → Bool) (client : Client) (packet : Packet) : Client :=
  if mine packet then client.observing packet else (client.observing packet).track packet

namespace Observation

variable {seen : Observation}

theorem isWaiting_of_isTracking (tracking : seen.isTracking = true) : seen.isWaiting = true := by
  cases seen <;> first
    | rfl
    | cases tracking

theorem decoded?_of_isTracking (tracking : seen.isTracking = true) : seen.decoded? = none := by
  cases seen <;> first
    | rfl
    | cases tracking

theorem published?_of_isTracking (tracking : seen.isTracking = true) : seen.published? = none := by
  cases seen <;> first
    | rfl
    | cases tracking

theorem written?_of_isWaiting (waits : seen.isWaiting = true) : seen.written? = none := by
  cases seen <;> first
    | rfl
    | cases waits

end Observation

namespace Trace

open History

variable {trace reached : Trace}

theorem updateTracking_client (trace : Trace) (packet : Packet) :
    (trace.updateTracking packet).client = trace.client.track packet := by
  unfold Client.track updateTracking
  split
  · rfl
  · rename_i ack
    unfold trackAck
    dsimp only
    rcases trace.client.takePendingAck ack.code with ⟨_ | tracking, client⟩ <;> rfl
  · rfl

theorem observes_of_adds (kind : Observation → Prop)
    (adds : Adds (fun entry => kind entry.seen) trace.history reached.history) :
    ∃ observed, trace.Observes reached observed ∧ ∀ seen ∈ observed, kind seen := by
  obtain ⟨added, grown, all⟩ := adds
  refine ⟨(added.map Entry.seen).reverse, ?_, fun seen inside => ?_⟩
  · rw [Observes, grown, List.map_append, List.reverse_reverse]
  · obtain ⟨entry, member, rfl⟩ := List.mem_map.mp (List.mem_reverse.mp inside)
    exact all entry member

theorem ready_decode (ready : trace.client.Ready) (parsed : Packet) :
    (trace.decode parsed).client.Ready := ⟨ready.connected, ready.idle⟩

theorem ready_passOn (ready : trace.client.Ready) (packet : Packet) :
    (trace.passOn packet).client.Ready := by
  constructor
  · rw [passOn, updateTracking_connected, publishEvent_client, retainSyncResponse_connected]
    exact ready.connected
  · rw [passOn, updateTracking_syncState, publishEvent_client,
      retainSyncResponse_of_idle _ ready.idle]
    exact ready.idle

/-- Without an unanswered synchronisation a packet is published once, if it has an event, and
then tracked. -/
theorem passOn_observes (ready : trace.client.Ready) (packet : Packet) :
    ∃ tracked, trace.Observes (trace.passOn packet)
        ((packet.intoEvent.map Observation.published).toList ++ tracked) ∧
      ∀ seen ∈ tracked, seen.isTracking = true := by
  obtain ⟨tracked, after, all⟩ :=
    observes_of_adds (·.isTracking = true) ((trace.publishEvent packet).updateTracking_adds packet)
  refine ⟨tracked, .trans ?_ after, all⟩
  unfold publishEvent
  rw [retainSyncResponse_of_idle packet ready.idle]
  cases packet.intoEvent with
  | none | some => rfl

theorem passOn_client (ready : trace.client.Ready) (packet : Packet) :
    (trace.passOn packet).client = trace.client.track packet := by
  rw [passOn, updateTracking_client, publishEvent_client, retainSyncResponse_of_idle _ ready.idle]

theorem markDisconnected_observes (trace : Trace) :
    ∃ observed, trace.Observes trace.markDisconnected observed ∧
      (∀ seen ∈ observed, seen.written? = none) ∧
      observed.filterMap Observation.decoded? = [] := by
  unfold markDisconnected
  split
  · exact ⟨[.closed, .published .disconnected], rfl, by simp [Observation.written?], rfl⟩
  · exact ⟨[.closed], rfl, by simp [Observation.written?], rfl⟩

end Trace

/-- An exit without a value: an error, or a drop. -/
def Exit.halted {ε α : Type} : Option ε → Exit ε α
  | some error => .failed error
  | none => .dropped

namespace Client

open Async

variable {τ ε α β : Type}

/-! ## Reads -/

/-- What a read leaves behind that gives no packet. -/
inductive ReadFails (trace : Trace) : Option CoreError → Trace → Prop
  | dropped : ReadFails trace none trace
  | broken (error : CoreError) : ReadFails trace (some error) trace
  | closed (error : CoreError) : ReadFails trace (some error) trace.markDisconnected
  | garbled (raw : Bytes) (error : ParseError) :
    ReadFails trace (some (.parse error)) (trace.note (.rejected raw))

/-- A read gives a packet that was accepted and numbered, or it fails. -/
def Reading (read : ClientM τ ε Packet) : Prop :=
  ∀ world, (∃ raw parsed, Packet.parse raw = .ok parsed ∧
      (read world).1 = .done (world.trace.number parsed) ∧
      (read world).2.trace = world.trace.decode parsed) ∨
    ∃ halt, (read world).1 = .halted halt ∧ ReadFails world.trace halt (read world).2.trace

variable {world between : World τ ε} {packet : Packet}

theorem Reading.accepts {read : ClientM τ ε Packet} (reading : Reading read)
    (reads : read world = (.done packet, between)) :
    ∃ raw parsed, Packet.parse raw = .ok parsed ∧ packet = world.trace.number parsed ∧
      between.trace = world.trace.decode parsed := by
  have gives := reading world
  rw [reads] at gives
  rcases gives with ⟨raw, parsed, accepted, returned, moved⟩ | ⟨_ | _, halted, -⟩
  · cases returned
    exact ⟨raw, parsed, accepted, rfl, moved⟩
  · cases halted
  · cases halted

theorem Reading.decodes {read : ClientM τ ε Packet} (reading : Reading read)
    (reads : read world = (.done packet, between)) :
    ∃ parsed, packet = world.trace.number parsed ∧ between.trace = world.trace.decode parsed := by
  obtain ⟨_, parsed, -, numbered, moved⟩ := reading.accepts reads
  exact ⟨parsed, numbered, moved⟩

theorem Reading.fails {read : ClientM τ ε Packet} (reading : Reading read)
    {halt : Option CoreError} (reads : read world = (.halted halt, between)) :
    ReadFails world.trace halt between.trace := by
  have gives := reading world
  rw [reads] at gives
  rcases gives with ⟨_, parsed, -, returned, moved⟩ | ⟨other, halted, fails⟩
  · cases halt <;> cases returned
  · cases halt <;> cases other <;> cases halted <;> exact fails

theorem reading_timeout {read : ClientM τ ε Packet} (duration : Duration)
    (reading : Reading read) : Reading (timeout duration read) :=
  fun world => reading { world with deadline := true }

theorem parsePacket_cases (raw : Bytes) (world : World τ ε) :
    (∃ parsed, Packet.parse raw = .ok parsed ∧ parsePacket raw world =
        (.done (world.trace.number parsed), { world with trace := world.trace.decode parsed })) ∨
      (∃ error, parsePacket raw world =
        (.failed (.parse error), { world with trace := world.trace.note (.rejected raw) })) ∨
      parsePacket raw world = (.dropped, world) := by
  unfold parsePacket Trace.parsePacket
  rcases Packet.parse raw with (error | _) | parsed
  · exact .inr (.inl ⟨error, rfl⟩)
  · exact .inr (.inr rfl)
  · exact .inl ⟨parsed, rfl, rfl⟩

/-- An await leaves the trace alone. -/
theorem await_cases (call : ε → τ → Call α × τ) (world : World τ ε) :
    (await call world).2.trace = world.trace ∧
      ((∃ result, (await call world).1 = .done result) ∨ (await call world).1 = .failed .timeout ∨
        (await call world).1 = .dropped) := by
  unfold await
  split
  · exact ⟨rfl, .inr (.inr rfl)⟩
  · rename_i turn turns granted
    split
    · exact ⟨rfl, .inl ⟨_, rfl⟩⟩
    · refine ⟨rfl, .inr ?_⟩
      cases world.deadline && turn.elapsed with
      | true => exact .inl rfl
      | false => exact .inr rfl

section Transported

variable [Transport τ ε]

theorem reading_readNextPacket : Reading (readNextPacket : ClientM τ ε Packet) := by
  intro world
  simp only [readNextPacket, Async.bind_apply]
  obtain ⟨kept, resolved⟩ := await_cases (Transport.read : ε → τ → _) world
  rcases ran : (await Transport.read : ClientM τ ε _) world with ⟨exit, reached⟩
  rw [ran] at kept resolved
  rw [show world.trace = reached.trace from kept.symm]
  rcases resolved with ⟨result, rfl⟩ | rfl | rfl
  · rcases result with error | _ | raw
    · cases terminal : isDisconnectError error with
      | true =>
        simp only [terminal]
        exact .inr ⟨some (.transport error), rfl, .closed _⟩
      | false =>
        simp only [terminal]
        exact .inr ⟨some (.transport error), rfl, .broken _⟩
    · exact .inr ⟨some .disconnected, rfl, .closed _⟩
    · rcases parsePacket_cases raw reached with ⟨parsed, accepted, parses⟩ | ⟨error, fails⟩ | drops
      · simp only [parses]
        exact .inl ⟨raw, parsed, accepted, rfl, rfl⟩
      · simp only [fails]
        exact .inr ⟨some (.parse error), rfl, .garbled raw error⟩
      · simp only [drops]
        exact .inr ⟨none, rfl, .dropped⟩
  · exact .inr ⟨some .timeout, rfl, .broken _⟩
  · exact .inr ⟨none, rfl, .dropped⟩

theorem reading_readNextPacketWithTimeout :
    Reading (readNextPacketWithTimeout : ClientM τ ε Packet) :=
  fun world => reading_timeout world.client.requestTimeout reading_readNextPacket world

end Transported

/-! ## Writes -/

/-- How a write ends that was asked of the transport or turned away. -/
inductive WriteEnd (payload : Bytes) (trace : Trace) : Exit CoreError Unit → Trace → Prop
  | written : WriteEnd payload trace (.done ()) (trace.note (.wrote payload))
  | unsendable (error : CoreError) (unfit : payload = [] ∨ maxInnerPayload < payload.length) :
    WriteEnd payload trace (.failed error) (trace.note (.unsendable payload))
  | late : WriteEnd payload trace (.failed .timeout) (trace.note (.wrote payload))
  | broken (error : TransportError) (spares : isTerminalWriteError error = false) :
    WriteEnd payload trace (.failed (.transport error)) (trace.note (.wrote payload))
  | closed (error : TransportError) (terminal : isTerminalWriteError error = true) :
    WriteEnd payload trace (.failed (.transport error))
      (trace.note (.wrote payload)).markDisconnected
  | dropped : WriteEnd payload trace .dropped (trace.note (.wrote payload))

/-- How a command is sent. -/
inductive SendEnd (payload : Bytes) (trace : Trace) : Exit CoreError Unit → Trace → Prop
  | disconnected (closed : trace.client.connected = false) :
    SendEnd payload trace (.failed .disconnected) trace
  | refused (unanswered : trace.client.syncState = .awaitingResponse) :
    SendEnd payload trace (.failed unreconciledSync) (trace.note (.refused payload))
  | tried {exit : Exit CoreError Unit} {reached : Trace} (connected : trace.client.connected = true)
    (answered : trace.client.syncState ≠ .awaitingResponse)
    (ends : WriteEnd payload trace exit reached) : SendEnd payload trace exit reached

section Transported

variable [Transport τ ε]

theorem writeRaw_ends (payload : Bytes) (world : World τ ε) :
    WriteEnd payload world.trace (writeRaw payload world).1 (writeRaw payload world).2.trace := by
  unfold writeRaw
  by_cases empty : payload.isEmpty = true
  · rw [if_pos empty]
    exact .unsendable _ (.inl (List.isEmpty_iff.mp empty))
  rw [if_neg empty]
  by_cases long : payload.length > maxInnerPayload
  · rw [if_pos long]
    exact .unsendable _ (.inr long)
  rw [if_neg long]
  simp only [Async.bind_apply, locally, Async.modify_apply]
  generalize asked : { world with trace := world.trace.note (.wrote payload) } = asking
  obtain ⟨kept, resolved⟩ := await_cases (fun io : ε => Transport.write io payload) asking
  rcases ran : await (fun io => Transport.write io payload) asking with ⟨exit, reached⟩
  rw [ran] at kept resolved
  have noted : reached.trace = world.trace.note (.wrote payload) := by rw [kept, ← asked]
  rcases resolved with ⟨error | _, rfl⟩ | rfl | rfl
  · cases terminal : isTerminalWriteError error with
    | true =>
      have ends : WriteEnd payload world.trace _ _ := .closed error terminal
      rw [← noted] at ends
      simp only [terminal]
      exact ends
    | false =>
      simp only [terminal]
      exact noted ▸ .broken error terminal
  · exact noted ▸ .written
  · exact noted ▸ .late
  · exact noted ▸ .dropped

theorem sendOnly_ends (command : Command) (world : World τ ε) :
    SendEnd command.intoEncoded world.trace (sendOnly command world).1
      (sendOnly command world).2.trace := by
  simp only [sendOnly, ensureConnected, Async.bind_apply]
  cases connected : world.client.connected with
  | false => exact .disconnected connected
  | true =>
    simp only [if_true, sendRaw, self, Async.bind_apply]
    by_cases unanswered : world.client.syncState = .awaitingResponse
    · rw [if_pos unanswered]
      exact .refused unanswered
    · rw [if_neg unanswered]
      exact .tried connected unanswered (writeRaw_ends _ world)

end Transported

/-! ## Loops -/

section Loops

variable (read : ClientM τ ε Packet) (judge : β → Packet → PacketWait β α)

/-- The packets that a loop has read and gone on after, and where that leads. -/
inductive Listened : β → World τ ε → List Packet → β → World τ ε → Prop
  | done {carried : β} {world : World τ ε} : Listened carried world [] carried world
  | kept {carried next last : β} {world between reached : World τ ε} {packet : Packet}
    {packets : List Packet} (reads : read world = (.done packet, between))
    (judged : judge carried packet = .keep next)
    (later : Listened next between packets last reached) :
    Listened carried world (packet :: packets) last reached
  | passed {carried last : β} {world between reached : World τ ε} {packet : Packet}
    {packets : List Packet} (reads : read world = (.done packet, between))
    (judged : judge carried packet = .proceed)
    (later : Listened carried (between.passOn packet) packets last reached) :
    Listened carried world (packet :: packets) last reached

/-- How a loop ends: with a packet that it does not go on after, or with a read that gives
none. -/
inductive LoopEnd (carried : β) (world : World τ ε) : Exit CoreError α × World τ ε → Prop
  | ready {packet : Packet} {value : α} {reached : World τ ε}
    (reads : read world = (.done packet, reached)) (judged : judge carried packet = .ready value) :
    LoopEnd carried world (.done value, reached)
  | refused {packet : Packet} {error : CoreError} {reached : World τ ε}
    (reads : read world = (.done packet, reached)) (judged : judge carried packet = .fail error) :
    LoopEnd carried world (.failed error, reached)
  | unread {halt : Option CoreError} {reached : World τ ε}
    (reads : read world = (.halted halt, reached)) :
    LoopEnd carried world (.halted halt, reached)

/-- Every loop listens to some packets and then ends.

Induct on the turns that are left: a read that gives a packet has used one of them. -/
theorem awaitResponse_listens {read : ClientM τ ε Packet} (spends : Spends World.remaining read)
    (carried : β) (world : World τ ε) :
    ∃ packets last middle, Listened read judge carried world packets last middle ∧
      LoopEnd read judge last middle (awaitResponse read judge carried world) := by
  induction left : world.remaining using Nat.strongRecOn generalizing carried world with
  | ind left ih =>
    rw [awaitResponse_unfold spends, Async.bind_apply]
    rcases reads : read world with ⟨packet | error | _, between⟩
    · have used := spends world packet between reads
      simp only
      cases judged : judge carried packet with
      | ready value => exact ⟨[], carried, world, .done, .ready reads judged⟩
      | fail error => exact ⟨[], carried, world, .done, .refused reads judged⟩
      | keep next =>
        obtain ⟨packets, last, middle, listened, ends⟩ := ih _ (left ▸ used) next between rfl
        exact ⟨_, last, middle, .kept reads judged listened, ends⟩
      | proceed =>
        obtain ⟨packets, last, middle, listened, ends⟩ :=
          ih _ (left ▸ used) carried (between.passOn packet) rfl
        exact ⟨_, last, middle, .passed reads judged listened, ends⟩
    · have ends : LoopEnd read judge carried world (.halted (some error), between) := .unread reads
      exact ⟨[], carried, world, .done, ends⟩
    · have ends : LoopEnd read judge carried world (.halted none, between) := .unread reads
      exact ⟨[], carried, world, .done, ends⟩

end Loops

/-- What the client has observed and become over these packets, of which it has kept some for
itself and passed on the others. -/
structure Overheard (mine : Packet → Bool) (trace reached : Trace) (packets : List Packet)
    (observed : List Observation) : Prop where
  observes : trace.Observes reached observed
  waits : ∀ seen ∈ observed, seen.isWaiting = true
  decoded : observed.filterMap Observation.decoded? = packets
  published : observed.filterMap Observation.published? =
    (packets.filter (!mine ·)).filterMap Packet.intoEvent
  client : reached.client = packets.foldl (Client.hear mine) trace.client
  ready : reached.client.Ready

theorem observing_number (trace : Trace) (parsed : Packet) (client : Client) :
    client.observing (trace.number parsed) = client.observing parsed := by
  cases parsed <;> rfl

namespace Overheard

variable {mine : Packet → Bool} {trace reached : Trace} {packets : List Packet}
  {observed : List Observation}

theorem nil (ready : trace.client.Ready) : Overheard mine trace trace [] [] :=
  ⟨rfl, fun _ inside => absurd inside List.not_mem_nil, rfl, rfl, rfl, ready⟩

/-- A packet that is kept is only decoded. -/
theorem kept {parsed : Packet} (own : mine (trace.number parsed) = true)
    (later : Overheard mine (trace.decode parsed) reached packets observed) :
    Overheard mine trace reached (trace.number parsed :: packets)
      (.decoded (trace.number parsed) :: observed) := by
  constructor
  · exact .cons (Trace.decode_observes ..) later.observes
  · exact List.forall_mem_cons.mpr ⟨rfl, later.waits⟩
  · exact congrArg (_ :: ·) later.decoded
  · rw [List.filter_cons_of_neg (by simp [own])]
    exact later.published
  · rw [later.client, List.foldl_cons, Client.hear, if_pos own, observing_number]
    rfl
  · exact later.ready

/-- Any other packet is decoded, published once if it has an event, and tracked. -/
theorem passed {parsed : Packet} (ready : trace.client.Ready)
    (foreign : mine (trace.number parsed) = false)
    (later : Overheard mine ((trace.decode parsed).passOn (trace.number parsed)) reached packets
      observed) :
    ∃ before, Overheard mine trace reached (trace.number parsed :: packets) (before ++ observed) := by
  have decoded := Trace.ready_decode ready parsed
  obtain ⟨tracked, passes, tracks⟩ := Trace.passOn_observes decoded (trace.number parsed)
  generalize event : (trace.number parsed).intoEvent = shown at passes
  have unread : (shown.map Observation.published).toList.filterMap Observation.decoded? = [] := by
    cases shown <;> rfl
  have published : (shown.map Observation.published).toList.filterMap Observation.published? =
      shown.toList := by
    cases shown <;> rfl
  have trackedUnread : tracked.filterMap Observation.decoded? = [] :=
    List.filterMap_eq_nil_iff.mpr fun seen inside =>
      Observation.decoded?_of_isTracking (tracks seen inside)
  have trackedUnpublished : tracked.filterMap Observation.published? = [] :=
    List.filterMap_eq_nil_iff.mpr fun seen inside =>
      Observation.published?_of_isTracking (tracks seen inside)
  refine ⟨.decoded (trace.number parsed) ::
    ((shown.map Observation.published).toList ++ tracked),
    (Trace.decode_observes trace parsed).cons (passes.trans later.observes), ?_, ?_, ?_, ?_,
    later.ready⟩
  · refine List.forall_mem_cons.mpr ⟨rfl, fun seen inside => ?_⟩
    rcases List.mem_append.mp inside with inside | inside
    · rcases List.mem_append.mp inside with inside | inside
      · obtain ⟨_, -, rfl⟩ := Option.map_eq_some_iff.mp (Option.mem_toList.mp inside)
        rfl
      · exact Observation.isWaiting_of_isTracking (tracks seen inside)
    · exact later.waits seen inside
  · rw [List.cons_append]
    refine congrArg (trace.number parsed :: ·) ?_
    rw [List.append_assoc, List.filterMap_append, List.filterMap_append, unread, trackedUnread,
      later.decoded]
    rfl
  · rw [List.filter_cons_of_pos (by simp [foreign]), List.cons_append, List.append_assoc,
      List.filterMap_cons_none rfl, List.filterMap_append, List.filterMap_append, published,
      trackedUnpublished, later.published]
    cases shown with
    | none => rw [List.filterMap_cons_none event]; rfl
    | some carried => rw [List.filterMap_cons_some event]; rfl
  · rw [later.client, List.foldl_cons, Client.hear, if_neg (by simp [foreign]), observing_number,
      Trace.passOn_client decoded]
    rfl

end Overheard

/-- Over a read, the packets a loop listens to are heard; none of them is the last one of the
response. -/
theorem Listened.heard {read : ClientM τ ε Packet} {judge : β → Packet → PacketWait β α}
    {role : Packet → Role} (reading : Reading read)
    (follows : ∀ carried packet, (judge carried packet).role = role packet) {carried last : β}
    {reached : World τ ε} {packets : List Packet}
    (listened : Listened read judge carried world packets last reached)
    (ready : world.client.Ready) :
    (∀ packet ∈ packets, role packet ≠ .last) ∧
      ∃ observed, Overheard (role · = .part) world.trace reached.trace packets observed := by
  induction listened with
  | done =>
    refine ⟨fun packet inside => ?_, [], .nil ready⟩
    cases inside
  | @kept _ _ _ world _ _ _ _ reads judged later ih =>
    obtain ⟨parsed, rfl, decodes⟩ := reading.decodes reads
    have still := Trace.ready_decode ready parsed
    rw [← decodes] at still
    obtain ⟨goesOn, observed, heard⟩ := ih still
    rw [decodes] at heard
    have part : role (world.trace.number parsed) = .part := by rw [← follows, judged]; rfl
    refine ⟨List.forall_mem_cons.mpr ⟨by simp [part], goesOn⟩, _, heard.kept (decide_eq_true part)⟩
  | @passed _ _ world between _ _ _ reads judged later ih =>
    obtain ⟨parsed, rfl, decodes⟩ := reading.decodes reads
    have passes : (between.passOn (world.trace.number parsed)).trace =
        (world.trace.decode parsed).passOn (world.trace.number parsed) := by
      rw [World.passOn, decodes]
    have still := Trace.ready_passOn (Trace.ready_decode ready parsed) (world.trace.number parsed)
    rw [← passes] at still
    obtain ⟨goesOn, observed, heard⟩ := ih still
    rw [passes] at heard
    have other : role (world.trace.number parsed) = .other := by rw [← follows, judged]; rfl
    obtain ⟨before, whole⟩ := heard.passed ready (by simp [other])
    exact ⟨List.forall_mem_cons.mpr ⟨by simp [other], goesOn⟩, _, whole⟩

end Client

end Meshquill
