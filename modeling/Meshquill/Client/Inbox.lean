import Meshquill.Client.Runs

/-!
# The inbox protocol

The device answers `SYNC_NEXT_MESSAGE` without a tag, so a client may have at most one
outstanding, and must know which packet answers it. `Inbox` is that part of a client: four
of its fields and the entries of its history that concern synchronisation. `Inbox.Step` is
what can happen to it.

`act_inbox` shows that the client refines this machine: seen through `Trace.inbox`, an act
is one step of it or nothing. `run_inbox` follows for runs. Properties of the inbox are
proved about the machine alone, in the modules that use this one.
-/
namespace Meshquill

/-- What the inbox protocol is about. -/
inductive InboxEvent where
  | forgot
  | opened
  | closed
  | wrote (payload : Bytes)
  | refused (payload : Bytes)
  | rejected (raw : Bytes)
  | decoded (packet : Packet)
  | shown (message : Message)
  | retained (ready : ReadySync)
  | handed (ready : ReadySync)
  | dismissed

/-- An event and the synchronisation state right after it. -/
structure InboxEntry where
  event : InboxEvent
  sync : SyncState

structure Inbox where
  connected : Bool
  sync : SyncState
  deferred : Option ReadySync
  nextId : UInt64
  log : List InboxEntry

namespace Inbox

def note (event : InboxEvent) (inbox : Inbox) : Inbox :=
  { inbox with log := ⟨event, inbox.sync⟩ :: inbox.log }

/-- The synchronisation is over. -/
def settle (inbox : Inbox) : Inbox := { inbox with sync := .idle }

/-- The retained answer is given away. -/
def release (inbox : Inbox) : Inbox := { inbox with deferred := none }

def number (parsed : Packet) (inbox : Inbox) : Packet := parsed.withObservationId inbox.nextId

/-- A packet arrives; a message takes the next id. -/
def decode (parsed : Packet) (inbox : Inbox) : Inbox :=
  note (.decoded (inbox.number parsed))
    { inbox with nextId := parsed.nextObservationId inbox.nextId }

/-- Keep an awaited answer for the next synchronisation. -/
def retain (packet : Packet) (inbox : Inbox) : Inbox :=
  match inbox.sync, packet.readySync with
  | .awaitingResponse, some ready =>
    note (.retained ready) { inbox with deferred := some ready, sync := .idle }
  | _, _ => inbox

/-- Publish a message. -/
def display (packet : Packet) (inbox : Inbox) : Inbox :=
  match packet.message? with
  | some message => inbox.note (.shown message)
  | none => inbox

@[simp] theorem display_sync (packet : Packet) (inbox : Inbox) :
    (inbox.display packet).sync = inbox.sync := by
  unfold display
  split <;> rfl

@[simp] theorem display_deferred (packet : Packet) (inbox : Inbox) :
    (inbox.display packet).deferred = inbox.deferred := by
  unfold display
  split <;> rfl

@[simp] theorem display_connected (packet : Packet) (inbox : Inbox) :
    (inbox.display packet).connected = inbox.connected := by
  unfold display
  split <;> rfl

/-- Only a message is numbered. -/
theorem number_of_message_none {parsed : Packet} (plain : parsed.message? = none)
    (inbox : Inbox) : inbox.number parsed = parsed := by
  cases parsed <;> first
    | rfl
    | cases plain

/-- An awaited answer is retained. -/
theorem retain_of_awaiting {packet : Packet} {ready : ReadySync} {inbox : Inbox}
    (awaiting : inbox.sync = .awaitingResponse) (answer : packet.readySync = some ready) :
    inbox.retain packet =
      note (.retained ready) { inbox with deferred := some ready, sync := .idle } := by
  simp [retain, awaiting, answer]

/-- Anything else is not. -/
theorem retain_of_other {packet : Packet} {inbox : Inbox}
    (other : inbox.sync = .idle ∨ packet.readySync = none) : inbox.retain packet = inbox := by
  unfold retain
  split
  · rename_i ready awaiting answer
    rcases other with idle | none
    · rw [idle] at awaiting
      cases awaiting
    · rw [none] at answer
      cases answer
  · rfl

/-- One step of the inbox. `allowed` says whether `connect` is called on a client that is
connected or not. -/
inductive Step (allowed : Bool → Prop) : Inbox → Inbox → Prop
  | forgot (inbox : Inbox) (called : allowed inbox.connected) :
      Step allowed inbox (inbox.settle.release.note .forgot)
  | opened (inbox : Inbox) (idle : inbox.sync = .idle) (nothing : inbox.deferred = none) :
      Step allowed inbox (note .opened { inbox with connected := true })
  | closed (inbox : Inbox) :
      Step allowed inbox (note .closed { inbox.settle.release with connected := false })
  | wrote (inbox : Inbox) (payload : Bytes) (connected : inbox.connected = true)
      (idle : inbox.sync = .idle) (command : payload ≠ syncPayload) :
      Step allowed inbox (inbox.note (.wrote payload))
  | synchronised (inbox : Inbox) (connected : inbox.connected = true)
      (idle : inbox.sync = .idle) (nothing : inbox.deferred = none) :
      Step allowed inbox (note (.wrote syncPayload) { inbox with sync := .awaitingResponse })
  | refused (inbox : Inbox) (payload : Bytes) (awaiting : inbox.sync = .awaitingResponse) :
      Step allowed inbox (inbox.note (.refused payload))
  | rejected (inbox : Inbox) (raw : Bytes) (connected : inbox.connected = true) :
      Step allowed inbox (inbox.note (.rejected raw))
  /-- A packet is passed on: an awaited answer is retained, a message published. -/
  | passed (inbox : Inbox) (parsed : Packet) (connected : inbox.connected = true) :
      Step allowed inbox
        (((inbox.decode parsed).retain (inbox.number parsed)).display (inbox.number parsed))
  /-- A synchronisation returns the answer it has just read. -/
  | handed (inbox : Inbox) (parsed : Packet) (ready : ReadySync)
      (connected : inbox.connected = true)
      (answer : (inbox.number parsed).readySync = some ready) :
      Step allowed inbox
        (((inbox.decode parsed).settle.display (inbox.number parsed)).note (.handed ready))
  /-- An operation takes a packet that is neither a message nor an awaited answer. -/
  | consumed (inbox : Inbox) (parsed : Packet) (connected : inbox.connected = true)
      (plain : parsed.message? = none) (other : inbox.sync = .idle ∨ parsed.readySync = none) :
      Step allowed inbox (inbox.decode parsed)
  /-- A failed wait takes an error packet, awaited or not. -/
  | dismissed (inbox : Inbox) (code : Option UInt8) (connected : inbox.connected = true) :
      Step allowed inbox ((inbox.decode (.error code)).note .dismissed)
  /-- A synchronisation returns the retained answer. -/
  | took (inbox : Inbox) (ready : ReadySync) (connected : inbox.connected = true)
      (kept : inbox.deferred = some ready) :
      Step allowed inbox (inbox.release.note (.handed ready))

theorem retain_extends (packet : Packet) (inbox : Inbox) :
    inbox.log <:+ (inbox.retain packet).log := by
  unfold retain
  split
  · exact List.suffix_cons ..
  · exact List.suffix_refl _

theorem display_extends (packet : Packet) (inbox : Inbox) :
    inbox.log <:+ (inbox.display packet).log := by
  unfold display
  split
  · exact List.suffix_cons ..
  · exact List.suffix_refl _

/-- A step only adds to the log. -/
theorem Step.extends {allowed : Bool → Prop} {inbox next : Inbox}
    (step : Step allowed inbox next) : inbox.log <:+ next.log := by
  cases step with
  | passed parsed connected =>
    have decoded : inbox.log <:+ (inbox.decode parsed).log := List.suffix_cons ..
    exact decoded.trans ((retain_extends ..).trans (display_extends ..))
  | handed parsed ready connected answer =>
    have decoded : inbox.log <:+ (inbox.decode parsed).settle.log := List.suffix_cons ..
    exact decoded.trans ((display_extends ..).trans (List.suffix_cons ..))
  | dismissed code connected => exact (List.suffix_cons ..).trans (List.suffix_cons ..)
  | _ => exact List.suffix_cons ..

end Inbox

/-- A retained answer leaves the client idle, and a client that is not connected awaits and
retains nothing. -/
structure Inbox.Coherent (inbox : Inbox) : Prop where
  settled : inbox.deferred ≠ none → inbox.sync = .idle
  closed : inbox.connected = false → inbox.sync = .idle ∧ inbox.deferred = none

namespace Inbox.Coherent

variable {inbox : Inbox}

theorem nothing_of_awaiting (coherent : inbox.Coherent)
    (awaiting : inbox.sync = .awaitingResponse) : inbox.deferred = none := by
  by_contra something
  cases awaiting.symm.trans (coherent.settled something)

theorem connected_of_awaiting (coherent : inbox.Coherent)
    (awaiting : inbox.sync = .awaitingResponse) : inbox.connected = true := by
  by_contra disconnected
  cases awaiting.symm.trans (coherent.closed (Bool.eq_false_iff.mpr disconnected)).1

/-- A connected client only has to be idle while it retains an answer. -/
theorem of_connected (connected : inbox.connected = true)
    (settled : inbox.deferred ≠ none → inbox.sync = .idle) : inbox.Coherent :=
  ⟨settled, fun closed => by cases connected.symm.trans closed⟩

end Inbox.Coherent

variable {allowed : Bool → Prop} {τ ε : Type} {invariant : Inbox → Prop}

theorem Inbox.step_coherent (inbox next : Inbox) (step : Step allowed inbox next)
    (coherent : inbox.Coherent) : next.Coherent := by
  cases step with
  | forgot | closed => exact ⟨fun _ => rfl, fun _ => ⟨rfl, rfl⟩⟩
  | opened idle nothing => exact .of_connected rfl coherent.settled
  | wrote | refused | rejected => exact ⟨coherent.settled, coherent.closed⟩
  | synchronised connected idle nothing =>
    exact .of_connected connected fun something => absurd nothing something
  | passed parsed connected =>
    refine .of_connected ?_ ?_
    · rw [display_connected]
      unfold retain
      split <;> exact connected
    · rw [display_deferred, display_sync]
      unfold retain
      split
      · exact fun _ => rfl
      · exact coherent.settled
  | handed parsed ready connected answer =>
    exact .of_connected ((display_connected ..).trans connected) fun _ => display_sync ..
  | consumed parsed connected plain other | dismissed code connected =>
    exact .of_connected connected coherent.settled
  | took ready connected kept =>
    exact .of_connected connected fun something => absurd rfl something

/-! ## The client refines the inbox -/

/-- What an observation is to the inbox. -/
def Observation.inbox? : Observation → Option InboxEvent
  | .forgot => some .forgot
  | .opened => some .opened
  | .closed => some .closed
  | .wrote payload => some (.wrote payload)
  | .refused payload => some (.refused payload)
  | .rejected raw => some (.rejected raw)
  | .decoded packet => some (.decoded packet)
  | .published (.message message) => some (.shown message)
  | .published _ => none
  | .retained ready => some (.retained ready)
  | .handed ready => some (.handed ready)
  | .dismissed => some .dismissed
  | .unsendable _ | .issued _ | .recorded _ | .claimed _ | .abandoned _ => none

def Entry.inbox? (entry : Entry) : Option InboxEntry :=
  entry.seen.inbox?.map fun event => ⟨event, entry.client.syncState⟩

/-- The inbox of a client and its history. -/
def Trace.inbox (trace : Trace) : Inbox where
  connected := trace.client.connected
  sync := trace.client.syncState
  deferred := trace.client.deferredSync
  nextId := trace.client.nextMessageObservationId
  log := trace.history.filterMap Entry.inbox?

namespace Trace

variable (trace : Trace) (packet : Packet)

variable {seen : Observation} {event : Event}

/-- An observation that concerns the inbox is noted there. -/
theorem inbox_note {event : InboxEvent} (concerns : seen.inbox? = some event) :
    (trace.note seen).inbox = trace.inbox.note event := by
  simp [inbox, Inbox.note, note, Entry.inbox?, concerns]

theorem inbox_note_of_other (other : seen.inbox? = none) :
    (trace.note seen).inbox = trace.inbox := by
  simp [inbox, note, Entry.inbox?, other]

theorem inbox_decode : (trace.decode packet).inbox = trace.inbox.decode packet := rfl

theorem inbox_retainSyncResponse :
    (trace.retainSyncResponse packet).inbox = trace.inbox.retain packet := by
  cases awaited : trace.client.syncState with
  | idle =>
    rw [retainSyncResponse_of_idle packet awaited]
    simp [Inbox.retain, inbox, awaited]
  | awaitingResponse =>
    cases answer : packet.readySync with
    | none =>
      rw [retainSyncResponse_of_other _ answer]
      simp [Inbox.retain, inbox, answer]
    | some ready =>
      rw [retainSyncResponse_of_awaiting awaited answer]
      simp [Inbox.retain, inbox, awaited, answer, Inbox.note, Entry.inbox?, Observation.inbox?]

/-- The event of a packet concerns the inbox exactly when the packet is a message. -/
theorem inbox?_published {packet : Packet} (published : packet.intoEvent = some event) :
    (Observation.published event).inbox? = packet.message?.map .shown := by
  cases packet <;> first
    | (cases published; rfl)
    | cases published

theorem message?_of_hidden {packet : Packet} (hidden : packet.intoEvent = none) :
    packet.message? = none := by
  cases packet <;> first
    | rfl
    | cases hidden

/-- Publishing the event of a packet displays its message. -/
theorem inbox_publishDomainEvent {packet : Packet} (published : packet.intoEvent = some event) :
    (trace.publishDomainEvent event).inbox = trace.inbox.display packet := by
  have concerns := inbox?_published published
  unfold Inbox.display
  cases carried : packet.message? with
  | some message => exact trace.inbox_note (by rw [concerns, carried]; rfl)
  | none => exact trace.inbox_note_of_other (by rw [concerns, carried]; rfl)

theorem inbox_publishEvent :
    (trace.publishEvent packet).inbox = (trace.inbox.retain packet).display packet := by
  unfold publishEvent
  split
  · rename_i event published
    rw [inbox_publishDomainEvent _ published, inbox_retainSyncResponse]
  · rename_i hidden
    rw [inbox_retainSyncResponse, Inbox.display, message?_of_hidden hidden]

/-- Tracking does not concern the inbox. -/
theorem inbox_updateTracking : (trace.updateTracking packet).inbox = trace.inbox := by
  obtain ⟨added, same, all⟩ := trace.updateTracking_adds packet
  have unseen : added.filterMap Entry.inbox? = [] := by
    refine List.filterMap_eq_nil_iff.mpr ?_
    rintro ⟨seen, client⟩ inside
    have tracking := all _ inside
    cases seen <;> first
      | rfl
      | cases tracking
  simp [inbox, same, unseen]

theorem inbox_handOver (ready : ReadySync) :
    (trace.handOver packet ready).inbox =
      (trace.inbox.settle.display packet).note (.handed ready) := by
  have idle : (trace.update fun client => { client with syncState := .idle }).inbox =
      trace.inbox.settle := rfl
  unfold handOver
  rw [inbox_note _ rfl]
  cases carried : packet.message? with
  | none => simp [carried, Inbox.display, idle]
  | some message =>
    have unretained : trace.inbox.settle.retain packet = trace.inbox.settle := rfl
    simp [inbox_publishEvent, idle, unretained]

theorem inbox_takeCompletedAck (code : AckCode) :
    (trace.takeCompletedAck code).inbox = trace.inbox := by
  cases found : trace.client.completedAcks.map.lookup code with
  | none => rw [takeCompletedAck_of_missing found]
  | some ack =>
    rw [takeCompletedAck_of_found found, inbox_note_of_other _ rfl]
    rfl

theorem inbox_markDisconnected :
    trace.markDisconnected.inbox =
      Inbox.note .closed { trace.inbox.settle.release with connected := false } := by
  unfold markDisconnected
  split
  · exact inbox_note_of_other _ rfl
  · rfl

theorem inbox_claimAck (ack : Ack) : (trace.claimAck ack).inbox = trace.inbox := by
  have unretained : trace.inbox.retain (.ack ack) = trace.inbox := by
    unfold Inbox.retain
    cases trace.inbox.sync <;> rfl
  unfold claimAck
  rw [inbox_note_of_other _ rfl, inbox_publishEvent]
  exact unretained

end Trace

/-- Seen as an inbox, an act is a step or nothing. -/
theorem act_inbox {trace next : Trace}
    (act : Act (fun client => allowed client.connected) trace next) :
    Relation.ReflGen (Inbox.Step allowed) trace.inbox next.inbox := by
  cases act with
  | forgot called => exact .single (.forgot trace.inbox called)
  | established clear => exact .single (.opened trace.inbox clear.idle clear.nothing)
  | closed =>
    rw [Trace.inbox_markDisconnected]
    exact .single (.closed trace.inbox)
  | announced event plain =>
    have other : (Observation.published event).inbox? = none := by
      cases event <;> first
        | rfl
        | exact absurd rfl (plain _)
    rw [Trace.publishDomainEvent, Trace.inbox_note_of_other _ other]
  | wrote payload connected idle command =>
    exact .single (.wrote trace.inbox payload connected idle command)
  | synchronised connected idle nothing =>
    exact .single (.synchronised trace.inbox connected idle nothing)
  | refused payload awaiting => exact .single (.refused trace.inbox payload awaiting)
  | unsendable payload =>
    rw [Trace.inbox_note_of_other _ rfl]
  | rejected raw error connected malformed => exact .single (.rejected trace.inbox raw connected)
  | passed parsed connected =>
    rw [Trace.inbox_updateTracking, Trace.inbox_publishEvent, Trace.inbox_decode]
    exact .single (.passed trace.inbox parsed connected)
  | surfaced parsed event connected shown =>
    rw [Trace.inbox_publishDomainEvent _ shown, Trace.inbox_updateTracking,
      Trace.inbox_retainSyncResponse, Trace.inbox_decode]
    exact .single (.passed trace.inbox parsed connected)
  | swallowed parsed connected hidden =>
    rw [Trace.inbox_updateTracking, Trace.inbox_retainSyncResponse, Trace.inbox_decode]
    have undisplayed : ∀ inbox : Inbox, inbox.display (trace.number parsed) = inbox := by
      simp [Inbox.display, Trace.message?_of_hidden hidden]
    rw [← undisplayed ((trace.inbox.decode parsed).retain (trace.number parsed))]
    exact .single (.passed trace.inbox parsed connected)
  | watched parsed connected other =>
    rw [Trace.inbox_publishEvent, Trace.inbox_decode]
    exact .single (.passed trace.inbox parsed connected)
  | handed parsed ready connected answer =>
    rw [Trace.inbox_handOver, Trace.inbox_decode]
    exact .single (.handed trace.inbox parsed ready connected answer)
  | accepted parsed connected idle plain =>
    have carried : parsed.message? = none := by
      cases parsed <;> first
        | rfl
        | cases plain
    exact .single (.consumed trace.inbox parsed connected carried (.inl idle))
  | claimed ack connected =>
    rw [Trace.inbox_claimAck]
    exact .single (.consumed trace.inbox (.ack ack) connected rfl (.inr rfl))
  | dismissed code connected => exact .single (.dismissed trace.inbox code connected)
  | tookDeferred connected =>
    unfold Trace.takeDeferredSync
    split
    · rename_i ready kept
      exact .single (.took trace.inbox ready connected kept)
    · exact .refl
  | tookCompleted code connected =>
    rw [Trace.inbox_takeCompletedAck]
  | issued tracking connected =>
    rw [Trace.trackSent, Trace.inbox_note_of_other _ rfl]
    exact .refl
  | abandoned code =>
    rw [Trace.abandonAck, Trace.inbox_note_of_other _ rfl]
    exact .refl

/-- The inbox of a new client. -/
def Inbox.initial : Inbox :=
  { connected := false, sync := .idle, deferred := none, nextId := 1, log := [] }

theorem Inbox.coherent_initial : Inbox.initial.Coherent :=
  ⟨fun something => absurd rfl something, fun _ => ⟨rfl, rfl⟩⟩

def World.inbox {τ ε : Type} (world : World τ ε) : Inbox := world.trace.inbox

/-- What every step of the inbox keeps holds at the end of every run from here. -/
theorem World.run_inbox_from [Transport τ ε] {world : World τ ε}
    {invocations : List (Invocation ε)}
    (called : world.ConnectsOn (fun client => allowed client.connected) invocations)
    (step : ∀ inbox next, Inbox.Step allowed inbox next → invariant inbox → invariant next)
    (holds : invariant world.inbox) : invariant (world.run invocations).inbox := by
  have kept : ∀ trace next : Trace, Act (fun client => allowed client.connected) trace next →
      invariant trace.inbox → invariant next.inbox := by
    intro trace next act holding
    rcases (Relation.reflGen_iff ..).mp (act_inbox act) with same | moved
    · rwa [same]
    · exact step _ _ moved holding
  exact World.run_keeps called kept holds

/-- What every step of the inbox keeps holds at the end of every run. -/
theorem World.run_inbox [Transport τ ε] (transport : τ) (requestTimeout : Duration)
    {invocations : List (Invocation ε)}
    (called : (World.initial transport requestTimeout).ConnectsOn
      (fun client => allowed client.connected) invocations)
    (step : ∀ inbox next, Inbox.Step allowed inbox next → invariant inbox → invariant next)
    (holds : invariant Inbox.initial) :
    invariant ((World.initial transport requestTimeout).run invocations).inbox :=
  World.run_inbox_from called step holds

/-- The same for runs that connect at any time. -/
theorem World.run_inbox_any [Transport τ ε] (transport : τ) (requestTimeout : Duration)
    (invocations : List (Invocation ε))
    (step : ∀ inbox next, Inbox.Step (fun _ => True) inbox next →
      invariant inbox → invariant next) (holds : invariant Inbox.initial) :
    invariant ((World.initial transport requestTimeout).run invocations).inbox :=
  World.run_inbox transport requestTimeout (World.connectsOn_any _ _) step holds

end Meshquill
