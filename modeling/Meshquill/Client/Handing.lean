import Meshquill.Client.Inbox
import Meshquill.Client.Trails

/-!
# Who hands an answer over

The history of a client records each answer that a synchronisation gives to its caller. Here
these entries are tied to the calls. A synchronisation adds at most one, as its last entry,
and returns it; no other operation adds any. So the messages handed over in a run are exactly
those that its calls returned, in order.
-/
namespace Meshquill

open History

def InboxEvent.handed? : InboxEvent → Option Message
  | .handed ready => ready.message?
  | _ => none

def InboxEvent.isHanding : InboxEvent → Bool
  | .handed _ => true
  | _ => false

/-- The messages handed over so far, newest first. -/
def handedMessages (log : List InboxEntry) : List Message := log.filterMap (·.event.handed?)

@[simp] theorem handedMessages_cons {event : InboxEvent} {sync : SyncState}
    {log : List InboxEntry} :
    handedMessages (⟨event, sync⟩ :: log) = event.handed?.toList ++ handedMessages log := by
  cases found : event.handed? <;> simp [handedMessages, found]

/-- Nothing was handed over between the two logs. -/
abbrev Unhanded : List InboxEntry → List InboxEntry → Prop :=
  Adds fun entry => entry.event.isHanding = false

theorem Unhanded.handedMessages {earlier log : List InboxEntry} (unhanded : Unhanded earlier log) :
    handedMessages log = handedMessages earlier := by
  obtain ⟨added, rfl, all⟩ := unhanded
  have nothing : Meshquill.handedMessages added = [] := by
    refine List.filterMap_eq_nil_iff.mpr ?_
    rintro ⟨event, sync⟩ inside
    have quiet := all _ inside
    cases event <;> first
      | rfl
      | cases quiet
  simp [Meshquill.handedMessages, ← nothing]

namespace Client

open Async

variable {τ ε α β : Type}

/-- The computation hands over at most one answer. If it does, that is its last entry, and
it ends with the result for this answer; otherwise it returns a silent value, if any. -/
def Hands (silent : α → Prop) (result : ReadySync → Exit CoreError α) (body : ClientM τ ε α) :
    Prop :=
  ∀ world,
    (Unhanded world.inbox.log (body world).2.inbox.log ∧
      ∀ value, (body world).1 = .done value → silent value) ∨
    ∃ ready sync earlier, (body world).2.inbox.log = ⟨.handed ready, sync⟩ :: earlier ∧
      Unhanded world.inbox.log earlier ∧ (body world).1 = result ready

/-! ## Handing nothing over -/

/-- Whatever is observed is not the handing over of an answer. -/
def Unhanding (seen : Observation) : Prop := ∀ ready, seen ≠ .handed ready

/-- What is logged without a handing over is none in the inbox either. -/
theorem unhanded_of_logging {trace reached : Trace} (logging : Logging Unhanding trace reached) :
    Unhanded trace.inbox.log reached.inbox.log := by
  obtain ⟨added, same, all⟩ := logging
  refine ⟨added.filterMap Entry.inbox?, ?_, fun entry inside => ?_⟩
  · simp only [Trace.inbox, same, List.filterMap_append]
  · obtain ⟨⟨seen, client⟩, listed, concerns⟩ := List.mem_filterMap.mp inside
    obtain ⟨event, named, rfl⟩ := Option.map_eq_some_iff.mp concerns
    have other := all _ listed
    cases seen with
    | handed ready => exact absurd rfl (other ready)
    | published event =>
      cases event <;> cases named
      rfl
    | _ => cases named <;> rfl

theorem unhanded_display (packet : Packet) (inbox : Inbox) :
    Unhanded inbox.log (inbox.display packet).log := by
  unfold Inbox.display
  split
  · exact .cons rfl (.refl _)
  · exact .refl _

instance : Steady (Logging Unhanding) where
  refl _ := .refl _
  trans before later := before.trans later
  noted _ _ steady := .cons (by rintro _ rfl; cases steady) (.refl _)
  updated _ _ _ := .refl _
  shown _ _ _ _ := .cons (by rintro _ ⟨⟩) (.refl _)
  closed trace := by
    unfold Trace.markDisconnected
    split
    · exact .cons (by rintro _ ⟨⟩) (.cons (by rintro _ ⟨⟩) (.refl _))
    · exact .cons (by rintro _ ⟨⟩) (.refl _)

/-- No payload is an answer. -/
theorem sends_unhanding (payload : Bytes) : Sends (Logging Unhanding) payload where
  wrote _ := .cons (by rintro _ ⟨⟩) (.refl _)
  refused _ := .cons (by rintro _ ⟨⟩) (.refl _)
  unsendable _ _ := .cons (by rintro _ ⟨⟩) (.refl _)

/-- The computation hands nothing over. -/
abbrev Quiet (body : ClientM τ ε α) : Prop := Logs Unhanding body

section Rules

variable {silent : α → Prop} {result : ReadySync → Exit CoreError α}

theorem hands_quiet {body : ClientM τ ε α} (quiet : Quiet body)
    (returns : Returns (fun _ => True) body fun value _ => silent value) :
    Hands silent result body :=
  fun world => .inl ⟨unhanded_of_logging (quiet world), returns world trivial⟩

variable {first : ClientM τ ε β} {next : β → ClientM τ ε α}

/-- Nothing is handed over before. -/
theorem hands_after (head : Quiet first) (tail : ∀ value, Hands silent result (next value)) :
    Hands silent result (first >>= next) := by
  intro world
  have moved := unhanded_of_logging (head world)
  simp only [bind_apply]
  rcases ran : first world with ⟨value | error | _, reached⟩
  all_goals rw [ran] at moved
  · rcases tail value reached with ⟨quiet, returns⟩ | ⟨ready, sync, earlier, last, quiet, ended⟩
    · exact .inl ⟨moved.trans quiet, returns⟩
    · exact .inr ⟨ready, sync, earlier, last, moved.trans quiet, ended⟩
  · exact .inl ⟨moved, by simp⟩
  · exact .inl ⟨moved, by simp⟩

/-- An answer handed over before is passed on; otherwise the rest decides. -/
theorem hands_then {unanswered : β → Prop} {given : ReadySync → Exit CoreError β}
    (head : Hands unanswered given first)
    (passes : ∀ ready, exit (given ready) >>= next = exit (result ready))
    (tail : ∀ value, unanswered value → Hands silent result (next value)) :
    Hands silent result (first >>= next) := by
  intro world
  rcases head world with ⟨moved, returns⟩ | ⟨ready, sync, earlier, last, quiet, ended⟩
  · simp only [bind_apply]
    rcases ran : first world with ⟨value | error | _, reached⟩
    all_goals rw [ran] at moved returns
    · rcases tail value (returns value rfl) reached with
        ⟨quiet, returns⟩ | ⟨ready, sync, earlier, last, quiet, ended⟩
      · exact .inl ⟨moved.trans quiet, returns⟩
      · exact .inr ⟨ready, sync, earlier, last, moved.trans quiet, ended⟩
    · exact .inl ⟨moved, by simp⟩
    · exact .inl ⟨moved, by simp⟩
  · have same : (first >>= next) world = (exit (given ready) >>= next) (first world).2 := by
      simp only [bind_apply, exit, ← ended]
    rw [same, passes]
    exact .inr ⟨ready, sync, earlier, last, quiet, rfl⟩

/-- Handing over, and ending with the result. -/
theorem hands_handOver (packet : Packet) (ready : ReadySync) :
    Hands silent result (locally (Trace.handOver packet ready) >>= fun _ =>
      (exit (result ready) : ClientM τ ε α)) := by
  intro world
  let shown := world.inbox.settle.display packet
  have last := congrArg Inbox.log (world.trace.inbox_handOver packet ready)
  exact .inr ⟨ready, shown.sync, shown.log, last, unhanded_display packet _, rfl⟩

/-- A loop whose rounds hand an answer over or go on. -/
theorem hands_loop {outcome : ReadySync → Except CoreError α} {body : β → ClientM τ ε (β ⊕ α)}
    (round : ∀ carried, Hands (fun value => value.isLeft = true)
      (fun ready => .of ((outcome ready).map .inr)) (body carried))
    (measure : World τ ε → Nat) (carried : β) :
    Hands silent (fun ready => .of (outcome ready)) (loop measure body carried) := by
  have rounds_hand : ∀ fuel carried,
      Hands silent (fun ready => .of (outcome ready)) (rounds body fuel carried) := by
    intro fuel
    induction fuel with
    | zero => exact fun _ _ => .inl ⟨.refl _, nofun⟩
    | succ fuel ih =>
      refine fun carried => hands_then (round carried) (fun ready => ?_) fun value left => ?_
      · cases outcome ready <;> rfl
      · cases value with
        | inl next => exact ih next
        | inr value => cases left
  exact fun world => rounds_hand (measure world + 1) carried world

end Rules

/-! ## The operations -/

theorem hands_takeDeferredSync :
    Hands (fun deferred => deferred = none) (fun ready => .done (some ready))
      (takeDeferredSync : ClientM τ ε (Option ReadySync)) := by
  intro world
  have ran : (takeDeferredSync : ClientM τ ε _) world =
      (.done world.client.deferredSync, { world with trace := world.trace.takeDeferredSync }) := rfl
  rw [ran]
  cases kept : world.client.deferredSync with
  | none =>
    have stays : world.trace.takeDeferredSync = world.trace := Trace.takeDeferredSync_of_none kept
    rw [stays]
    exact .inl ⟨.refl _, by simp⟩
  | some ready =>
    have took := Trace.takeDeferredSync_of_some kept
    rw [took]
    exact .inr ⟨ready, world.client.syncState, world.inbox.log, rfl, .refl _, rfl⟩

section Transported

variable [Transport τ ε]

/-- No operation but a synchronisation hands anything over. -/
theorem quiet_perform (request : Request) (other : request.isSync = false) :
    Quiet (request.perform : ClientM τ ε Unit) := by
  have established (trace : Trace) : Logging Unhanding trace trace.establish :=
    .cons (by rintro _ ⟨⟩) (.refl _)
  have opened (trace : Trace) : Logging Unhanding trace (trace.publishDomainEvent .connected) :=
    .cons (by rintro _ ⟨⟩) (.refl _)
  cases conversation : request.isConversation with
  | true => exact trails_converses sends_unhanding (converses_perform request conversation)
  | false =>
    cases request with
    | connect => exact trails_discard (trails_connect (sends_unhanding _) established opened)
    | init => exact trails_discard (trails_init (sends_unhanding _))
    | disconnect => exact trails_discard trails_disconnect
    | reconnect => exact trails_discard (trails_reconnect (sends_unhanding _) established opened)
    | nextEvent => exact trails_discard trails_nextEvent
    | syncNextMessage => cases other
    | waitForAck ackCode requestTimeout =>
      exact trails_discard (trails_waitForAck ackCode requestTimeout)
    | _ => cases conversation

theorem hands_drainReadyPacket :
    Hands (fun value => ∀ ready, value ≠ .inr (some ready)) (fun ready => .done (.inr (some ready)))
      (drainReadyPacket : ClientM τ ε (Unit ⊕ Option ReadySync)) := by
  refine hands_after trails_tryRead fun result => ?_
  rcases result with error | (_ | _ | raw)
  · exact hands_after (trails_markDisconnectedIf _) fun _ =>
      hands_quiet (trails_fail _) (returns_fail _)
  · exact hands_quiet (trails_pure _) (returns_pure _ (by simp))
  · exact hands_after trails_markDisconnected fun _ => hands_quiet (trails_fail _) (returns_fail _)
  · refine hands_after (trails_parsePacket raw) fun packet => ?_
    cases packet.readySync with
    | some ready => exact hands_handOver packet ready
    | none =>
      exact hands_quiet (trails_passOn packet ())
        (returns_then fun _ => returns_then fun _ => returns_pure _ (by simp))

theorem hands_drainReadyPackets (left : Nat) :
    Hands (fun drained => drained = none) (fun ready => .done (some ready))
      (drainReadyPackets left : ClientM τ ε (Option ReadySync)) := by
  induction left with
  | zero =>
    refine hands_then hands_drainReadyPacket (fun _ => rfl) fun value unanswered => ?_
    rcases value with _ | (_ | ready)
    · exact hands_quiet (trails_fail _) (returns_fail _)
    · exact hands_quiet (trails_pure _) (returns_pure _ fun _ _ => rfl)
    · exact absurd rfl (unanswered ready)
  | succ left ih =>
    refine hands_then hands_drainReadyPacket (fun _ => rfl) fun value unanswered => ?_
    rcases value with _ | (_ | ready)
    · exact ih
    · exact hands_quiet (trails_pure _) (returns_pure _ fun _ _ => rfl)
    · exact absurd rfl (unanswered ready)

theorem hands_waitForSyncResponse :
    Hands (fun _ => False) (fun ready => .of (readySyncResult ready))
      (waitForSyncResponse : ClientM τ ε (Option Message)) := by
  refine hands_loop (fun _ => ?_) _ _
  refine hands_after trails_readNextPacketWithTimeout fun packet => ?_
  cases packet.readySync with
  | some ready =>
    simp only [ofExcept_eq_exit]
    exact hands_handOver packet ready
  | none =>
    exact hands_quiet (trails_passOn packet ())
      (returns_then fun _ => returns_then fun _ => returns_pure _ (by simp))

/-- A synchronisation hands over one answer, last, and returns it; or it hands over nothing
and returns nothing. -/
theorem hands_syncNextMessage :
    Hands (fun _ => False) (fun ready => .of (readySyncResult ready))
      (syncNextMessage : ClientM τ ε (Option Message)) := by
  refine hands_after trails_ensureConnected fun _ => ?_
  refine hands_then hands_takeDeferredSync (fun ready => ofExcept_eq_exit _) fun _ nothing => ?_
  subst nothing
  refine hands_then (hands_drainReadyPackets _) (fun ready => ofExcept_eq_exit _)
    fun _ nothing => ?_
  subst nothing
  refine hands_after trails_self fun client => ?_
  split
  · exact hands_waitForSyncResponse
  · refine hands_after (trails_locally fun trace => Steady.updated trace _ rfl) fun _ => ?_
    exact hands_after (trails_writeRaw (sends_unhanding _)) fun _ => hands_waitForSyncResponse

end Transported

end Client

/-! ## Runs -/

namespace World

variable {τ ε : Type} [Transport τ ε] (world : World τ ε)

/-- The message that a call returns, if it is a synchronisation that returns one. -/
def returned? (invocation : Invocation ε) : Option Message :=
  if invocation.request.isSync then
    match (Client.syncNextMessage (world.granted invocation.turns)).1 with
    | .done message => message
    | .failed _ | .dropped => none
  else none

/-- The messages that the calls of a run return, newest first. -/
def returned (world : World τ ε) : List (Invocation ε) → List Message
  | [] => []
  | invocation :: rest =>
    (world.invoke invocation).returned rest ++ (world.returned? invocation).toList

theorem handed_invoke (invocation : Invocation ε) :
    handedMessages (world.invoke invocation).inbox.log =
      (world.returned? invocation).toList ++ handedMessages world.inbox.log := by
  obtain ⟨request, turns⟩ := invocation
  cases sync : request.isSync with
  | false =>
    have quiet : Unhanded world.inbox.log (world.invoke ⟨request, turns⟩).inbox.log :=
      Client.unhanded_of_logging (Client.quiet_perform request sync (world.granted turns))
    simp [returned?, sync, quiet.handedMessages]
  | true =>
    obtain rfl : request = .syncNextMessage := by
      cases request <;> first
        | rfl
        | cases sync
    have reached : (world.invoke ⟨.syncNextMessage, turns⟩).inbox =
        (Client.syncNextMessage (world.granted turns)).2.inbox :=
      congrArg World.inbox (Async.discard_reaches _ _)
    have hands := Client.hands_syncNextMessage (world.granted turns)
    simp only [returned?, sync, reached, if_true]
    rcases hands with ⟨quiet, returns⟩ | ⟨ready, state, earlier, last, quiet, ended⟩
    · have same : handedMessages (Client.syncNextMessage (world.granted turns)).2.inbox.log =
          handedMessages world.inbox.log := quiet.handedMessages
      cases ran : (Client.syncNextMessage (world.granted turns)).1 with
      | done value => exact (returns value ran).elim
      | failed | dropped => simpa using same
    · have same : handedMessages earlier = handedMessages world.inbox.log := quiet.handedMessages
      rw [last, ended, handedMessages_cons, same]
      cases ready <;> rfl

/-- The messages handed over in a run are those its calls returned. -/
theorem handed_run (invocations : List (Invocation ε)) :
    handedMessages (world.run invocations).inbox.log =
      world.returned invocations ++ handedMessages world.inbox.log := by
  induction invocations generalizing world with
  | nil => rfl
  | cons invocation rest ih =>
    calc handedMessages ((world.invoke invocation).run rest).inbox.log
        = (world.invoke invocation).returned rest ++
            handedMessages (world.invoke invocation).inbox.log := ih _
      _ = world.returned (invocation :: rest) ++ handedMessages world.inbox.log := by
          rw [handed_invoke, returned, List.append_assoc]

end World

end Meshquill
