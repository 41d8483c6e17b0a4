import Meshquill.Client.Handing
import Meshquill.Client.Sync

/-!
# Messages

What becomes of a decoded message. It is published once, with an id of its own; it is
returned by at most one synchronisation; and if it answered one, it stays retained until a
synchronisation returns it or the session closes. The last part needs runs that connect only
while not connected.

`Client.Handing` ties what was handed over to what the calls returned, so `run_messages` is
about their values.
-/
namespace Meshquill

open History

def InboxEvent.decoded? : InboxEvent → Option Message
  | .decoded packet => packet.message?
  | _ => none

def InboxEvent.shown? : InboxEvent → Option Message
  | .shown message => some message
  | _ => none

/-- The messages decoded so far, newest first. -/
def decodedMessages (log : List InboxEntry) : List Message := log.filterMap (·.event.decoded?)

/-- The messages published so far, newest first. -/
def shownMessages (log : List InboxEntry) : List Message := log.filterMap (·.event.shown?)

/-- The message kept for the next synchronisation, if any. -/
def Inbox.deferredMessages (inbox : Inbox) : List Message :=
  (inbox.deferred.bind ReadySync.message?).toList

/-- The messages carry the ids 1, 2, ... in order of decoding. -/
def Numbered : List Message → Prop
  | [] => True
  | newest :: earlier =>
    newest.observationId = some (UInt64.ofNat (earlier.length + 1)) ∧ Numbered earlier

/-- This message answered an awaited synchronisation, and since then it was neither returned
nor the session closed. -/
def Unreturned (message : Message) : List InboxEntry → Prop :=
  Since
    (fun entry => entry.event.decoded? = some message ∧ entry.sync = .awaitingResponse)
    (fun entry => entry.event.handed? = some message ∨ entry.event.endsSession = true)

/-! ## Ids -/

/-- How many messages there are ids for, before they wrap. -/
def idBound : Nat := 2 ^ 64 - 1

variable {messages : List Message} {message : Message} {next : Inbox}

theorem Numbered.id_of_mem (numbered : Numbered messages) (inside : message ∈ messages) :
    ∃ count, count < messages.length ∧
      message.observationId = some (UInt64.ofNat (count + 1)) := by
  induction messages with
  | nil => cases inside
  | cons newest earlier ih =>
    rcases List.mem_cons.mp inside with rfl | older
    · exact ⟨earlier.length, Nat.lt_succ_self _, numbered.1⟩
    · obtain ⟨count, small, same⟩ := ih numbered.2 older
      exact ⟨count, Nat.lt_succ_of_lt small, same⟩

theorem id_injective {first second : Nat} (smallFirst : first < idBound)
    (smallSecond : second < idBound)
    (same : UInt64.ofNat (first + 1) = UInt64.ofNat (second + 1)) : first = second := by
  have equal := congrArg UInt64.toNat same
  simp only [UInt64.toNat_ofNat'] at equal
  unfold idBound at smallFirst smallSecond
  omega

/-- The next message has an id that no earlier one has. -/
theorem Numbered.fresh (numbered : Numbered messages) (few : messages.length < idBound)
    (next : message.observationId = some (UInt64.ofNat (messages.length + 1))) :
    message ∉ messages := by
  intro inside
  obtain ⟨count, small, same⟩ := numbered.id_of_mem inside
  have equal := id_injective (Nat.lt_trans small few) few (Option.some.inj (same.symm.trans next))
  omega

/-- The ids are not zero, and no two messages share one. -/
theorem Numbered.distinct (numbered : Numbered messages) (few : messages.length < idBound) :
    (∀ message ∈ messages, ∃ id, id ≠ 0 ∧ message.observationId = some id) ∧
      messages.Pairwise fun newer older => newer.observationId ≠ older.observationId := by
  constructor
  · intro message inside
    obtain ⟨count, small, same⟩ := numbered.id_of_mem inside
    refine ⟨_, fun zero => ?_, same⟩
    have positive := congrArg UInt64.toNat zero
    simp only [UInt64.toNat_ofNat', UInt64.toNat_zero] at positive
    unfold idBound at few
    omega
  · induction messages with
    | nil => exact .nil
    | cons newest earlier ih =>
      have fewer : earlier.length < idBound := Nat.lt_of_succ_lt few
      refine .cons (fun older inside same => ?_) (ih numbered.2 fewer)
      obtain ⟨count, small, id⟩ := numbered.2.id_of_mem inside
      have equal := id_injective (Nat.lt_trans small fewer) fewer
        (Option.some.inj (id.symm.trans (same.symm.trans numbered.1)))
      omega

/-! ## Published once, returned at most once -/

section Lists

variable {event : InboxEvent} {sync : SyncState} {log : List InboxEntry}

@[simp] theorem decodedMessages_cons :
    decodedMessages (⟨event, sync⟩ :: log) = event.decoded?.toList ++ decodedMessages log := by
  cases found : event.decoded? <;> simp [decodedMessages, found]

@[simp] theorem shownMessages_cons :
    shownMessages (⟨event, sync⟩ :: log) = event.shown?.toList ++ shownMessages log := by
  cases found : event.shown? <;> simp [shownMessages, found]

end Lists

/-- The messages that were returned or still will be. -/
def Inbox.owned (inbox : Inbox) : List Message :=
  inbox.deferredMessages ++ handedMessages inbox.log

/-- How many messages were decoded. -/
def Inbox.count (inbox : Inbox) : Nat := (decodedMessages inbox.log).length

structure Delivered (inbox : Inbox) : Prop where
  shown : shownMessages inbox.log = decodedMessages inbox.log
  nextId : inbox.count < idBound → inbox.nextId = UInt64.ofNat (inbox.count + 1)
  numbered : inbox.count < idBound → Numbered (decodedMessages inbox.log)
  once : inbox.count < idBound → inbox.owned.Nodup
  known : inbox.owned ⊆ decodedMessages inbox.log

/-- What a step does with messages, and that it is enough. A decoded message is published in
the same step with the next id, and nothing but it becomes owned. -/
structure Handles (inbox next : Inbox) (message : Option Message) : Prop where
  numbers : ∀ carried, message = some carried → carried.observationId = some inbox.nextId
  advances : next.nextId =
    if message.isSome then if inbox.nextId + 1 = 0 then 1 else inbox.nextId + 1
    else inbox.nextId
  decodes : decodedMessages next.log = message.toList ++ decodedMessages inbox.log
  shows : shownMessages next.log = message.toList ++ shownMessages inbox.log
  owns : next.owned.Subperm (message.toList ++ inbox.owned)

theorem nodup_of_subperm {α : Type} {fewer more : List α} (included : fewer.Subperm more)
    (nodup : more.Nodup) : fewer.Nodup := by
  obtain ⟨middle, permuted, kept⟩ := included
  exact permuted.nodup_iff.mp (nodup.sublist kept)

theorem next_id {count : Nat} (few : count + 1 < idBound) :
    (if UInt64.ofNat (count + 1) + 1 = 0 then 1 else UInt64.ofNat (count + 1) + 1) =
      UInt64.ofNat (count + 2) := by
  have sum : UInt64.ofNat (count + 1) + 1 = UInt64.ofNat (count + 2) :=
    (UInt64.ofNat_add (count + 1) 1).symm
  have nonzero : UInt64.ofNat (count + 2) ≠ 0 := by
    intro zero
    have equal := congrArg UInt64.toNat zero
    simp only [UInt64.toNat_ofNat', UInt64.toNat_zero] at equal
    unfold idBound at few
    omega
  rw [sum, if_neg nonzero]

theorem Delivered.handles {inbox : Inbox} {message : Option Message} (delivered : Delivered inbox)
    (handles : Handles inbox next message) : Delivered next := by
  obtain ⟨numbers, advances, decodes, shows, owns⟩ := handles
  have known : next.owned ⊆ decodedMessages next.log := by
    rw [decodes]
    exact List.Subset.trans owns.subset (List.append_subset.mpr
      ⟨List.subset_append_left _ _,
        List.Subset.trans delivered.known (List.subset_append_right _ _)⟩)
  have shown : shownMessages next.log = decodedMessages next.log := by
    rw [shows, decodes, delivered.shown]
  cases message with
  | none =>
    have same : decodedMessages next.log = decodedMessages inbox.log := decodes
    have count : next.count = inbox.count := congrArg List.length same
    refine ⟨shown, ?_, ?_, ?_, known⟩
    · rw [count]
      intro few
      exact advances.trans (delivered.nextId few)
    · rw [count, same]
      exact delivered.numbered
    · rw [count]
      exact fun few => nodup_of_subperm owns (delivered.once few)
  | some carried =>
    have added : decodedMessages next.log = carried :: decodedMessages inbox.log := decodes
    have count : next.count = inbox.count + 1 := congrArg List.length added
    have id : inbox.count < idBound →
        carried.observationId = some (UInt64.ofNat (inbox.count + 1)) := fun few => by
      rw [numbers carried rfl, delivered.nextId few]
    refine ⟨shown, ?_, ?_, ?_, known⟩
    · rw [count]
      intro few
      rw [advances, delivered.nextId (Nat.lt_of_succ_lt few)]
      exact next_id few
    · rw [count, added]
      intro few
      exact ⟨id (Nat.lt_of_succ_lt few), delivered.numbered (Nat.lt_of_succ_lt few)⟩
    · rw [count]
      intro few
      have fewer := Nat.lt_of_succ_lt few
      have fresh : carried ∉ inbox.owned := fun inside =>
        (delivered.numbered fewer).fresh fewer (id fewer) (delivered.known inside)
      exact nodup_of_subperm owns (List.nodup_cons.mpr ⟨fresh, delivered.once fewer⟩)

namespace Inbox

variable (inbox : Inbox) (parsed packet : Packet)

theorem number_message? :
    (inbox.number parsed).message? =
      parsed.message?.map fun message => { message with observationId := some inbox.nextId } := by
  cases parsed <;> rfl

/-- An answer carries the message of its packet. -/
theorem message?_of_readySync {packet : Packet} {ready : ReadySync}
    (answer : packet.readySync = some ready) : ready.message? = packet.message? := by
  cases packet <;> first
    | (cases answer; rfl)
    | cases answer

@[simp] theorem decoded_display :
    decodedMessages (inbox.display packet).log = decodedMessages inbox.log := by
  unfold display
  split <;> simp [note, InboxEvent.decoded?]

@[simp] theorem shown_display :
    shownMessages (inbox.display packet).log = packet.message?.toList ++ shownMessages inbox.log := by
  unfold display
  split <;> rename_i found <;> simp [note, InboxEvent.shown?, found]

@[simp] theorem handed_display :
    handedMessages (inbox.display packet).log = handedMessages inbox.log := by
  unfold display
  split <;> simp [note, InboxEvent.handed?]

@[simp] theorem nextId_display : (inbox.display packet).nextId = inbox.nextId := by
  unfold display
  split <;> rfl

@[simp] theorem decoded_retain :
    decodedMessages (inbox.retain packet).log = decodedMessages inbox.log := by
  unfold retain
  split <;> simp [note, InboxEvent.decoded?]

@[simp] theorem shown_retain :
    shownMessages (inbox.retain packet).log = shownMessages inbox.log := by
  unfold retain
  split <;> simp [note, InboxEvent.shown?]

@[simp] theorem handed_retain :
    handedMessages (inbox.retain packet).log = handedMessages inbox.log := by
  unfold retain
  split <;> simp [note, InboxEvent.handed?]

@[simp] theorem nextId_retain : (inbox.retain packet).nextId = inbox.nextId := by
  unfold retain
  split <;> rfl

/-- Retaining either changes nothing or keeps the packet's message. -/
theorem deferred_retain :
    (inbox.retain packet).deferredMessages = inbox.deferredMessages ∨
      (inbox.retain packet).deferredMessages = packet.message?.toList := by
  unfold retain
  split
  · rename_i ready awaiting answer
    exact .inr (by simp [note, deferredMessages, message?_of_readySync answer])
  · exact .inl rfl

theorem advances_decode :
    (inbox.decode parsed).nextId =
      if (inbox.number parsed).message?.isSome then
        if inbox.nextId + 1 = 0 then 1 else inbox.nextId + 1
      else inbox.nextId := by
  simp [decode, note, Packet.nextObservationId, number_message?]

theorem numbers_decode {carried : Message}
    (found : (inbox.number parsed).message? = some carried) :
    carried.observationId = some inbox.nextId := by
  rw [number_message?] at found
  obtain ⟨message, -, rfl⟩ := Option.map_eq_some_iff.mp found
  rfl

/-- A step that concerns no message. It may drop the retained one. -/
theorem handles_note {inbox next : Inbox} {event : InboxEvent} {sync : SyncState}
    (log : next.log = ⟨event, sync⟩ :: inbox.log) (nextId : next.nextId = inbox.nextId)
    (undecoded : event.decoded? = none) (unshown : event.shown? = none)
    (unhanded : event.handed? = none)
    (kept : next.deferred = inbox.deferred ∨ next.deferred = none) :
    Handles inbox next none where
  numbers := nofun
  advances := nextId
  decodes := by simp [log, undecoded]
  shows := by simp [log, unshown]
  owns := by
    have same : handedMessages next.log = handedMessages inbox.log := by simp [log, unhanded]
    unfold owned deferredMessages
    rw [same]
    rcases kept with unchanged | dropped
    · rw [unchanged]
      exact List.Subperm.refl _
    · rw [dropped]
      exact (List.sublist_append_right ..).subperm

/-- A packet arrives and its message, if it is one, is published; then it may be retained or
returned. -/
theorem handles_decode {inbox next : Inbox} (parsed : Packet)
    (nextId : next.nextId = (inbox.decode parsed).nextId)
    (decodes : decodedMessages next.log = decodedMessages (inbox.decode parsed).log)
    (shows : shownMessages next.log =
      (inbox.number parsed).message?.toList ++ shownMessages inbox.log)
    (owns : next.owned.Subperm ((inbox.number parsed).message?.toList ++ inbox.owned)) :
    Handles inbox next (inbox.number parsed).message? where
  numbers _ := inbox.numbers_decode parsed
  advances := nextId.trans (inbox.advances_decode parsed)
  decodes := by simp [decodes, decode, note, InboxEvent.decoded?]
  shows := shows
  owns := owns

/-- Every step publishes what it decodes and owns nothing else. -/
theorem step_handles {allowed : Bool → Prop} {inbox next : Inbox}
    (step : Step allowed inbox next) : ∃ message, Handles inbox next message := by
  have unnumbered (carried : Message) (absent : none = some carried) :
      carried.observationId = some inbox.nextId := by cases absent
  cases step with
  | forgot | closed => exact ⟨none, handles_note rfl rfl rfl rfl rfl (.inr rfl)⟩
  | opened | refused | rejected => exact ⟨none, handles_note rfl rfl rfl rfl rfl (.inl rfl)⟩
  | wrote | synchronised =>
    exact ⟨none, handles_note rfl rfl rfl rfl rfl (.inl rfl)⟩
  | passed parsed connected =>
    refine ⟨_, handles_decode parsed (by simp) (by simp)
      (by simp [decode, note, InboxEvent.shown?]) ?_⟩
    have handed : handedMessages (((inbox.decode parsed).retain (inbox.number parsed)).display
        (inbox.number parsed)).log = handedMessages inbox.log := by
      simp [decode, note, InboxEvent.handed?]
    unfold owned
    rw [handed, deferredMessages, display_deferred, ← deferredMessages]
    rcases (inbox.decode parsed).deferred_retain (inbox.number parsed) with same | retained
    · rw [same]
      exact (List.sublist_append_right ..).subperm
    · rw [retained]
      exact ((List.sublist_append_right ..).append_left _).subperm
  | handed parsed ready connected answer =>
    refine ⟨_, handles_decode parsed (by simp [note, settle])
      (by simp [note, InboxEvent.decoded?, settle])
      (by simp [note, InboxEvent.shown?, settle, decode]) ?_⟩
    have owned_next : (((inbox.decode parsed).settle.display (inbox.number parsed)).note
        (.handed ready)).owned =
        inbox.deferredMessages ++
          ((inbox.number parsed).message?.toList ++ handedMessages inbox.log) := by
      simp [owned, deferredMessages, note, InboxEvent.handed?, settle, decode,
        message?_of_readySync answer]
    rw [owned_next]
    exact (List.perm_append_comm_assoc ..).subperm
  | consumed parsed connected plain other =>
    have carried : (inbox.number parsed).message? = none := by
      rw [number_of_message_none plain, plain]
    exact ⟨none, ⟨unnumbered, by simp [advances_decode, carried],
      by simp [decode, note, InboxEvent.decoded?, carried],
      by simp [decode, note, InboxEvent.shown?], List.Subperm.refl _⟩⟩
  | dismissed code connected =>
    exact ⟨none, ⟨unnumbered, rfl, rfl, rfl, List.Subperm.refl _⟩⟩
  | took ready connected kept =>
    have owned_next : (inbox.release.note (.handed ready)).owned = inbox.owned := by
      simp [owned, deferredMessages, note, release, InboxEvent.handed?, kept]
    refine ⟨none, ⟨unnumbered, rfl, rfl, rfl, ?_⟩⟩
    rw [owned_next]
    exact List.Subperm.refl _

end Inbox

theorem step_delivered {allowed : Bool → Prop} (inbox next : Inbox)
    (step : Inbox.Step allowed inbox next) (delivered : Delivered inbox) : Delivered next := by
  obtain ⟨message, handles⟩ := Inbox.step_handles step
  exact delivered.handles handles

theorem delivered_initial : Delivered Inbox.initial where
  shown := rfl
  nextId _ := rfl
  numbered _ := trivial
  once _ := List.nodup_nil
  known := List.nil_subset _

/-! ## An answer stays until it is returned -/

/-- Every answer that was not returned in this session is retained. -/
def Waits (inbox : Inbox) : Prop :=
  ∀ message, Unreturned message inbox.log → inbox.deferred = some (.message message)

theorem unreturned_cons {event : InboxEvent} {sync : SyncState} {log : List InboxEntry} :
    Unreturned message (⟨event, sync⟩ :: log) ↔
      (event.decoded? = some message ∧ sync = .awaitingResponse) ∨
        (¬ (event.handed? = some message ∨ event.endsSession = true) ∧
          Unreturned message log) := Iff.rfl

/-- An entry that is no packet can only end it. -/
theorem unreturned_of_cons {event : InboxEvent} {sync : SyncState} {log : List InboxEntry}
    (undecoded : event.decoded? = none) (unreturned : Unreturned message (⟨event, sync⟩ :: log)) :
    ¬ (event.handed? = some message ∨ event.endsSession = true) ∧ Unreturned message log := by
  rcases unreturned_cons.mp unreturned with ⟨decoded, -⟩ | earlier
  · rw [undecoded] at decoded
    cases decoded
  · exact earlier

theorem unreturned_display {inbox : Inbox} {packet : Packet}
    (unreturned : Unreturned message (inbox.display packet).log) :
    Unreturned message inbox.log := by
  unfold Inbox.display at unreturned
  split at unreturned
  · exact (unreturned_of_cons rfl unreturned).2
  · exact unreturned

/-- A message that has just been decoded, or an earlier one. -/
theorem unreturned_decode {inbox : Inbox} {parsed : Packet}
    (unreturned : Unreturned message (inbox.decode parsed).log) :
    ((inbox.number parsed).message? = some message ∧ inbox.sync = .awaitingResponse) ∨
      Unreturned message inbox.log := by
  rcases unreturned_cons.mp unreturned with decoded | earlier
  · exact .inl decoded
  · exact .inr earlier.2

theorem readySync_of_message {packet : Packet} (carries : packet.message? = some message) :
    packet.readySync = some (.message message) := by
  cases packet <;> first
    | (cases carries; rfl)
    | cases carries

namespace Waits

variable {inbox : Inbox}

/-- An entry that is no packet, with the retained answer unchanged. -/
theorem note (waits : Waits inbox) {event : InboxEvent} (undecoded : event.decoded? = none) :
    Waits (inbox.note event) :=
  fun message unreturned => waits message (unreturned_of_cons undecoded unreturned).2

/-- A client that has nothing retained has left no answer unreturned. -/
theorem none_unreturned (waits : Waits inbox) (nothing : inbox.deferred = none)
    (message : Message) : ¬ Unreturned message inbox.log := by
  intro unreturned
  cases nothing.symm.trans (waits message unreturned)

/-- A packet that is not an awaited message. -/
theorem decode (waits : Waits inbox) {parsed : Packet}
    (other : inbox.sync = .idle ∨ (inbox.number parsed).message? = none) :
    Waits (inbox.decode parsed) := by
  intro message unreturned
  rcases unreturned_decode unreturned with ⟨carries, awaiting⟩ | earlier
  · rcases other with idle | none
    · cases idle.symm.trans awaiting
    · cases carries.symm.trans none
  · exact waits message earlier

end Waits

/-- Every step keeps the unreturned answer, if `connect` is only called while not
connected. -/
theorem step_waits {inbox : Inbox}
    (step : Inbox.Step (fun connected => connected = false) inbox next)
    (coherent : inbox.Coherent) (waits : Waits inbox) : Waits next := by
  cases step with
  | forgot called =>
    intro message unreturned
    exact absurd (unreturned_of_cons rfl unreturned).2
      (waits.none_unreturned (coherent.closed called).2 message)
  | opened | closed =>
    exact fun message unreturned => absurd (.inr rfl) (unreturned_of_cons rfl unreturned).1
  | wrote | refused | rejected => exact waits.note rfl
  | synchronised connected idle nothing =>
    intro message unreturned
    exact waits message (unreturned_of_cons rfl unreturned).2
  | passed parsed connected =>
    intro message unreturned
    have shown := unreturned_display unreturned
    rw [Inbox.display_deferred]
    by_cases other : inbox.sync = .idle ∨ (inbox.number parsed).readySync = none
    · have unretained : (inbox.decode parsed).retain (inbox.number parsed) = inbox.decode parsed :=
        Inbox.retain_of_other other
      rw [unretained] at shown ⊢
      refine waits.decode (other.imp_right fun unanswering => ?_) message shown
      by_contra carries
      obtain ⟨carried, found⟩ := Option.ne_none_iff_exists'.mp carries
      cases unanswering.symm.trans (readySync_of_message found)
    · obtain ⟨notIdle, some⟩ := not_or.mp other
      obtain ⟨ready, answer⟩ := Option.ne_none_iff_exists'.mp some
      have awaiting : inbox.sync = .awaitingResponse := by
        cases state : inbox.sync with
        | idle => exact absurd state notIdle
        | awaitingResponse => rfl
      have retained : (inbox.decode parsed).retain (inbox.number parsed) = _ :=
        Inbox.retain_of_awaiting awaiting answer
      rw [retained] at shown ⊢
      rcases unreturned_decode (unreturned_of_cons rfl shown).2 with ⟨carries, -⟩ | earlier
      · exact answer.symm.trans (readySync_of_message carries)
      · exact absurd earlier (waits.none_unreturned (coherent.nothing_of_awaiting awaiting) message)
  | handed parsed ready connected answer =>
    intro message unreturned
    obtain ⟨unhanded, shown⟩ := unreturned_of_cons rfl unreturned
    have decoded : Unreturned message (inbox.decode parsed).settle.log := unreturned_display shown
    rcases unreturned_decode decoded with ⟨carries, -⟩ | earlier
    · exact absurd (.inl ((Inbox.message?_of_readySync answer).trans carries)) unhanded
    · exact (Inbox.display_deferred ..).trans (waits message earlier)
  | consumed parsed connected plain other =>
    refine waits.decode (.inr ?_)
    rw [Inbox.number_of_message_none plain, plain]
  | dismissed code connected =>
    have decoded : Waits (inbox.decode (.error code)) := waits.decode (.inr rfl)
    exact decoded.note rfl
  | took ready connected kept =>
    intro message unreturned
    obtain ⟨unhanded, earlier⟩ := unreturned_of_cons rfl unreturned
    have same : ready = .message message := Option.some.inj (kept.symm.trans (waits message earlier))
    exact absurd (.inl (by rw [same]; rfl)) unhanded

/-! ## Runs -/

/-- A retained answer is returned at once: no turn is taken and nothing is read. -/
theorem Client.syncNextMessage_of_deferred {τ ε : Type} [Transport τ ε] {world : World τ ε}
    {ready : ReadySync} (connected : world.client.connected = true)
    (kept : world.client.deferredSync = some ready) :
    Client.syncNextMessage world =
      (.of (Client.readySyncResult ready),
        { world with trace := world.trace.takeDeferredSync }) := by
  simp [Client.syncNextMessage, Client.ensureConnected, Client.takeDeferredSync, Client.self,
    Client.locally, connected, kept, Async.ofExcept_eq_exit, Async.exit]

/-- In every run that connects only while not connected and decodes fewer messages than there
are ids: the messages published are those decoded, each once; their ids are not zero, and no
two share one; no message is returned twice, and only decoded ones are; and a message that
answered an outstanding synchronisation is returned by the next one, unless it already was or
the session closed. -/
theorem World.run_messages {τ ε : Type} [Transport τ ε] (transport : τ)
    (requestTimeout : Duration) (invocations : List (Invocation ε))
    (connects : (World.initial transport requestTimeout).ConnectsOn
      (fun client => client.connected = false) invocations) :
    let start := World.initial transport requestTimeout
    let world := start.run invocations
    let decoded := decodedMessages world.inbox.log
    decoded.length < idBound →
      shownMessages world.inbox.log = decoded ∧
      (∀ message ∈ decoded, ∃ id, id ≠ 0 ∧ message.observationId = some id) ∧
      decoded.Pairwise (fun newer older => newer.observationId ≠ older.observationId) ∧
      (start.returned invocations).Nodup ∧ start.returned invocations ⊆ decoded ∧
      ∀ message, Unreturned message world.inbox.log → ∀ turns,
        Client.syncNextMessage (world.granted turns) =
          (.done (some message),
            { world.granted turns with trace := world.trace.takeDeferredSync }) := by
  intro start world decoded few
  have kept : ∀ inbox next : Inbox, Inbox.Step (fun connected => connected = false) inbox next →
      inbox.Coherent ∧ Delivered inbox ∧ Waits inbox →
      next.Coherent ∧ Delivered next ∧ Waits next :=
    fun inbox next step holds =>
      ⟨Inbox.step_coherent _ _ step holds.1, step_delivered _ _ step holds.2.1,
        step_waits step holds.1 holds.2.2⟩
  obtain ⟨coherent, delivered, waits⟩ :
      world.inbox.Coherent ∧ Delivered world.inbox ∧ Waits world.inbox :=
    World.run_inbox transport requestTimeout connects kept
      ⟨Inbox.coherent_initial, delivered_initial, fun _ unreturned => unreturned.elim⟩
  have returned : handedMessages world.inbox.log = start.returned invocations :=
    (World.handed_run start invocations).trans (List.append_nil _)
  have owned : (start.returned invocations).Sublist world.inbox.owned := by
    rw [← returned]
    exact List.sublist_append_right ..
  obtain ⟨identified, distinct⟩ := (delivered.numbered few).distinct few
  refine ⟨delivered.shown, identified, distinct, (delivered.once few).sublist owned,
    List.Subset.trans owned.subset delivered.known, fun message unreturned turns => ?_⟩
  have retained : world.client.deferredSync = some (.message message) := waits message unreturned
  have connected : world.client.connected = true := by
    by_contra disconnected
    have nothing : world.client.deferredSync = none :=
      (coherent.closed (Bool.eq_false_iff.mpr disconnected)).2
    cases nothing.symm.trans retained
  have opened : (world.granted turns).client.connected = true := connected
  exact Client.syncNextMessage_of_deferred opened retained

/-- A contact message with the one-letter text `A`. -/
def messageRaw : Bytes := [0x07, 1, 2, 3, 4, 5, 6, 0, 0, 0, 0, 0, 0, 0x41]

/-- A wait for events that reads the answer to an earlier synchronisation. -/
def messageEvent : Invocation StreamIo :=
  { request := .nextEvent, turns := [{ io := .receiving messageRaw }] }

/-- The answer is retained, and the next synchronisation returns it. -/
theorem World.retained_message_returned :
    let start := World.initial tcpTransport 5000000000
    let invocations := [opening, droppedSync, messageEvent, droppedSync]
    (start.returned invocations).length = 1 ∧ (start.returned invocations).Nodup :=
  ⟨by decide +kernel,
    (World.run_messages tcpTransport 5000000000 [opening, droppedSync, messageEvent, droppedSync]
      (by decide +kernel) (by decide +kernel)).2.2.2.1⟩

/-- A synchronisation that the device answers with `NO_MORE_MSGS`. -/
def emptySync : Invocation StreamIo :=
  { request := .syncNextMessage
    turns := [{ io := {} }, { io := {} }, { io := .receiving [0x0a] }] }

/-- A rejected connect loses the retained message: the session is still open, but the next
synchronisation asks the device again and returns nothing. -/
theorem World.rejected_connect_loses_message :
    let start := World.initial tcpTransport 5000000000
    let retained := start.run [opening, droppedSync, messageEvent]
    let world := retained.invoke { request := .connect, turns := [{ io := {} }] }
    retained.client.connected = true ∧ retained.client.deferredSync.isSome = true ∧
      (decodedMessages retained.inbox.log).length = 1 ∧
      world.client.connected = true ∧ world.transport.stream = true ∧
      world.client.deferredSync.isNone = true ∧
      (emptySync.request.perform (world.granted emptySync.turns)).1 = .done () ∧
      (world.returned? emptySync).isNone = true := by
  decide +kernel

end Meshquill
