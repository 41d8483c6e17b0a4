import Meshquill.Client.Listening
import Meshquill.Client.Sync

/-!
# A synchronisation that was never written

`sync_next_message` marks the answer as awaited before it awaits the write. When the transport
turns the payload away with an error that spares the session, the mark stays, although nothing
was written that could be answered: the client is as blocked as with a lost answer, until a packet
of an answering kind comes along or the session is given up.
-/
namespace Meshquill

/-! ## A client that awaits an answer -/

/-- What follows this log leaves the client waiting, and writes nothing, until something frees
it. -/
def Blocked (start : List InboxEntry) (inbox : Inbox) : Prop :=
  ∃ newer, inbox.log = newer ++ start ∧
    ((∀ entry ∈ newer, entry.event.frees = false) →
      inbox.sync = .awaitingResponse ∧ ∀ entry ∈ newer, ∀ payload, entry.event ≠ .wrote payload)

variable {inbox next : Inbox} {allowed : Bool → Prop}

theorem Blocked.start (awaiting : inbox.sync = .awaitingResponse) : Blocked inbox.log inbox :=
  ⟨[], rfl, fun _ => ⟨awaiting, List.forall_mem_nil _⟩⟩

/-- A packet of an answering kind frees the client. -/
theorem Blocked.of_answer {parsed : Packet} {ready : ReadySync}
    (answer : (inbox.number parsed).readySync = some ready)
    (grown : (inbox.decode parsed).log <:+ next.log) : Blocked inbox.log next := by
  obtain ⟨later, whole⟩ := grown
  refine ⟨later ++ [⟨.decoded (inbox.number parsed), inbox.sync⟩], ?_, fun bound => ?_⟩
  · rw [← whole, List.append_assoc]
    rfl
  · have unfreed := bound _ (List.mem_append_right _ (List.mem_singleton_self _))
    simp [InboxEvent.frees, InboxEvent.isAnswer, answer] at unfreed

theorem Inbox.Step.blocked (step : Inbox.Step allowed inbox next)
    (awaiting : inbox.sync = .awaitingResponse) :
    Blocked inbox.log next := by
  cases step with
  | forgot called => exact ⟨[_], rfl, fun bound => by simp [InboxEvent.frees] at bound⟩
  | opened idle nothing | wrote payload connected idle command
  | synchronised connected idle nothing => cases idle.symm.trans awaiting
  | closed =>
    exact ⟨[_], rfl, fun bound => by
      simp [InboxEvent.frees, InboxEvent.endsSession] at bound⟩
  | refused | rejected | consumed | took => exact ⟨[_], rfl, fun _ => ⟨awaiting, by simp⟩⟩
  | passed parsed connected =>
    cases answer : (inbox.number parsed).readySync with
    | some ready =>
      exact .of_answer answer ((Inbox.retain_extends ..).trans (Inbox.display_extends ..))
    | none =>
      have undisplayed : (inbox.number parsed).message? = none := by
        cases packet : inbox.number parsed <;> first
          | rfl
          | simp [packet, Packet.readySync] at answer
      rw [Inbox.retain_of_other (.inr answer), Inbox.display, undisplayed]
      exact ⟨[_], rfl, fun _ => ⟨awaiting, by simp⟩⟩
  | handed parsed ready connected answer =>
    have grown : (inbox.decode parsed).log <:+ (inbox.decode parsed).settle.log :=
      List.suffix_refl _
    exact .of_answer answer (grown.trans ((Inbox.display_extends ..).trans (List.suffix_cons ..)))
  | dismissed code connected =>
    have answer : (inbox.number (.error code)).readySync = some .error := rfl
    exact .of_answer answer (List.suffix_cons ..)

theorem Blocked.step {start : List InboxEntry} (step : Inbox.Step allowed inbox next)
    (blocked : Blocked start inbox) :
    Blocked start next := by
  obtain ⟨newer, log, waits⟩ := blocked
  by_cases bound : ∀ entry ∈ newer, entry.event.frees = false
  · obtain ⟨awaiting, silent⟩ := waits bound
    obtain ⟨newest, grown, still⟩ := step.blocked awaiting
    refine ⟨newest ++ newer, by rw [grown, log, List.append_assoc], fun unfreed => ?_⟩
    obtain ⟨awaits, quiet⟩ :=
      still fun entry inside => unfreed entry (List.mem_append_left _ inside)
    refine ⟨awaits, fun entry inside => ?_⟩
    rcases List.mem_append.mp inside with inside | inside
    · exact quiet entry inside
    · exact silent entry inside
  · obtain ⟨newest, grown⟩ := step.extends
    refine ⟨newest ++ newer, by rw [← grown, log, List.append_assoc], fun unfreed => ?_⟩
    exact absurd (fun entry inside => unfreed entry (List.mem_append_right _ inside)) bound

/-- Whatever is called on a client that awaits an answer. -/
theorem World.run_blocked {τ ε : Type} [Transport τ ε] (world : World τ ε)
    (awaiting : world.client.syncState = .awaitingResponse) (invocations : List (Invocation ε)) :
    Blocked world.inbox.log (world.run invocations).inbox := by
  have keeps : ∀ inbox next, Inbox.Step (fun _ => True) inbox next →
      Blocked world.inbox.log inbox → Blocked world.inbox.log next :=
    fun _ _ step blocked => blocked.step step
  exact World.run_inbox_from (World.connectsOn_any world invocations) keeps (.start awaiting)

/-! ## The failed write -/

namespace Client

open Async

variable {τ ε : Type} [Transport τ ε]

variable {world drained : World τ ε}

/-- An iteration of the drain that finds no answer leaves the client able to send. -/
theorem ready_drainReadyPacket {reached : World τ ε} {result : Unit ⊕ Option ReadySync}
    (ran : drainReadyPacket world = (.done result, reached))
    (missing : ∀ ready, result ≠ .inr (some ready)) (ready : world.client.Ready) :
    reached.client.Ready := by
  obtain ⟨gave, tried, polls, rest⟩ := bind_done ran
  have kept : tried.trace = world.trace := by
    unfold tryRead at polls
    split at polls <;> cases polls <;> rfl
  rcases gave with error | _ | _ | raw
  · obtain ⟨_, _, _, failed⟩ := bind_done rest
    cases failed
  · cases rest
    rwa [World.client, kept]
  · obtain ⟨_, _, _, failed⟩ := bind_done rest
    cases failed
  · obtain ⟨packet, decoded, parses, handles⟩ := bind_done rest
    rcases parsePacket_cases raw tried with ⟨parsed, -, decodes⟩ | ⟨error, fails⟩ | drops
    · cases decodes.symm.trans parses
      cases answer : (tried.trace.number parsed).readySync with
      | some found =>
        rw [answer] at handles
        cases handles
        exact absurd rfl (missing found)
      | none =>
        rw [answer] at handles
        cases handles
        exact Trace.ready_passOn (Trace.ready_decode (kept ▸ ready) parsed) _
    · cases fails.symm.trans parses
    · cases drops.symm.trans parses

theorem ready_drainReadyPackets (left : Nat)
    (ran : drainReadyPackets left world = (.done none, drained)) (ready : world.client.Ready) :
    drained.client.Ready := by
  induction left generalizing world with
  | zero =>
    obtain ⟨result, reached, first, rest⟩ := bind_done ran
    rcases result with _ | found
    · cases rest
    · cases rest
      exact ready_drainReadyPacket first (by simp) ready
  | succ left ih =>
    obtain ⟨result, reached, first, rest⟩ := bind_done ran
    rcases result with _ | found
    · exact ih rest (ready_drainReadyPacket first (by simp) ready)
    · cases rest
      exact ready_drainReadyPacket first (by simp) ready

/-- A synchronisation whose write fails and spares the session. -/
theorem syncNextMessage_of_unsent {turn : Turn ε} {turns : List (Turn ε)} {transport : τ}
    {error : TransportError} (ready : world.client.Ready)
    (nothing : world.client.deferredSync = none)
    (drains : drainReadyPacketsBeforeSync world = (.done none, drained))
    (granted : drained.turns = turn :: turns)
    (fails : Transport.write turn.io syncPayload drained.transport =
      (some (.error error), transport)) (spares : isTerminalWriteError error = false) :
    syncNextMessage world =
      (.failed (.transport error),
        { drained with
          trace := drained.trace.synchronise.note (.wrote syncPayload), transport, turns }) := by
  have idle : drained.trace.client.syncState = .idle :=
    (ready_drainReadyPackets _ drains ready).idle
  have connected : world.trace.client.connected = true := ready.connected
  have deferred : world.trace.client.deferredSync = none := nothing
  have writes : writeRaw syncPayload { drained with trace := drained.trace.synchronise } =
      (.failed (.transport error),
        { drained with
          trace := drained.trace.synchronise.note (.wrote syncPayload), transport, turns }) := by
    have sendable : syncPayload.isEmpty = false ∧ ¬ syncPayload.length > maxInnerPayload := by
      decide
    simp [writeRaw, sendable, locally, await, granted, fails, markDisconnectedIf, spares]
  simp [syncNextMessage, ensureConnected, World.client, connected, takeDeferredSync, self, locally,
    Trace.takeDeferredSync_of_none deferred, deferred, drains, idle]
  rw [show Command.syncNextMessage.intoEncoded = syncPayload from rfl, writes]

end Client

/-- A synchronisation whose write the transport turns away, with an error that leaves the client
connected, blocks the session. It reports the error; every command after it is refused and
reaches no transport; and no operation writes anything, a synchronisation included, until a
packet of an answering kind is decoded or the session is given up. -/
theorem World.unsent_sync_blocks {τ ε : Type} [Transport τ ε] {world drained : World τ ε}
    {turn : Turn ε} {turns : List (Turn ε)} {transport : τ} {error : TransportError}
    (connected : world.client.connected = true) (idle : world.client.syncState = .idle)
    (nothing : world.client.deferredSync = none)
    (drains : Client.drainReadyPacketsBeforeSync world = (.done none, drained))
    (granted : drained.turns = turn :: turns)
    (fails : Transport.write turn.io syncPayload drained.transport =
      (some (.error error), transport))
    (spares : isTerminalWriteError error = false) :
    let ended := Client.syncNextMessage world
    ended.1 = .failed (.transport error) ∧ ended.2.client.connected = true ∧
    (∀ command turns,
      (Client.sendOnly command (ended.2.granted turns)).1 = .failed Client.unreconciledSync ∧
      (Client.sendOnly command (ended.2.granted turns)).2.transport = ended.2.transport) ∧
    ∀ invocations, ∃ newer,
      (ended.2.run invocations).inbox.log = newer ++ ended.2.inbox.log ∧
      ((∀ entry ∈ newer, entry.event.frees = false) →
        (ended.2.run invocations).client.syncState = .awaitingResponse ∧
        ∀ entry ∈ newer, ∀ payload, entry.event ≠ .wrote payload) := by
  have ready := Client.ready_drainReadyPackets _ drains ⟨connected, idle⟩
  obtain ⟨reached, stopped, awaiting, still⟩ : ∃ reached,
      Client.syncNextMessage world = (.failed (.transport error), reached) ∧
        reached.client.syncState = .awaitingResponse ∧ reached.client.connected = true :=
    ⟨_, Client.syncNextMessage_of_unsent ⟨connected, idle⟩ nothing drains granted fails spares,
      rfl, ready.connected⟩
  rw [stopped]
  refine ⟨rfl, still, fun command turns => ?_, fun invocations => ?_⟩
  · have stillConnected : (reached.granted turns).client.connected = true := still
    rw [Client.sendOnly_of_awaiting stillConnected awaiting command]
    exact ⟨rfl, rfl⟩
  · exact World.run_blocked reached awaiting invocations

/-! ## A bounded queue -/

/-- The outbound queue of `VirtualCompanion`, which turns a packet away when it is full. The
companion sends nothing here. -/
structure BoundedCompanion where
  connected : Bool := false
  outbound : List Bytes := []
  capacity : Nat
deriving DecidableEq

namespace BoundedCompanion

variable (companion : BoundedCompanion)

def connect : Call Unit × BoundedCompanion :=
  (some (.ok ()), { companion with connected := true })

def disconnect : Call Unit × BoundedCompanion :=
  (some (.ok ()), { companion with connected := false })

/-- A turn says whether the queue is emptied before the call. -/
def drain (emptied : Bool) (companion : BoundedCompanion) : BoundedCompanion :=
  if emptied then { companion with outbound := [] } else companion

def write (payload : Bytes) (companion : BoundedCompanion) : Call Unit × BoundedCompanion :=
  if !companion.connected then (some (.error .notConnected), companion)
  else if payload.length > maxInnerPayload then
    (some (.error (.payloadTooLarge maxInnerPayload payload.length)), companion)
  else if companion.outbound.length ≥ companion.capacity then
    (some (.error (.backpressure "outbound_queue" companion.capacity)), companion)
  else (some (.ok ()), { companion with outbound := companion.outbound ++ [payload] })

/-- `VirtualCompanionIdleReadMode::Pending`. -/
def read : Call (Option Bytes) × BoundedCompanion :=
  if !companion.connected then (some (.error .notConnected), companion) else (none, companion)

end BoundedCompanion

instance : Transport BoundedCompanion Bool where
  connect emptied := BoundedCompanion.connect ∘ BoundedCompanion.drain emptied
  disconnect emptied := BoundedCompanion.disconnect ∘ BoundedCompanion.drain emptied
  write emptied payload := BoundedCompanion.write payload ∘ BoundedCompanion.drain emptied
  read emptied := BoundedCompanion.read ∘ BoundedCompanion.drain emptied
  reconnect := reconnectByDefault
    (fun emptied => BoundedCompanion.connect ∘ BoundedCompanion.drain emptied)
    (fun emptied => BoundedCompanion.disconnect ∘ BoundedCompanion.drain emptied)

/-- A connected client whose companion has taken one packet and has room for no other. -/
def fullQueue : World BoundedCompanion Bool :=
  { trace := { client := { connected := true } }
    transport :=
      { connected := true, outbound := [Command.appStart.intoEncoded], capacity := 1 }
    turns := [{ io := false }, { io := false }] }

/-- The synchronisation that meets the full queue blocks its session. -/
theorem fullQueue_sync_blocks :
    let ended := Client.syncNextMessage fullQueue
    ended.1 = .failed (.transport (.backpressure "outbound_queue" 1)) ∧
      ∀ command turns,
        (Client.sendOnly command (ended.2.granted turns)).1 = .failed Client.unreconciledSync := by
  obtain ⟨failed, -, refused, -⟩ :=
    @World.unsent_sync_blocks _ _ _ fullQueue _ _ _ _ _ rfl rfl rfl rfl rfl rfl rfl
  exact ⟨failed, fun command turns => (refused command turns).1⟩

/-- Nothing was written, the client is connected and the queue has been emptied; still neither a
command nor a synchronisation is written. -/
theorem fullQueue_unsent_sync_stays :
    let ended := Client.syncNextMessage fullQueue
    ended.1 = .failed (.transport (.backpressure "outbound_queue" 1)) ∧
      ended.2.client.connected = true ∧
      ended.2.transport = fullQueue.transport ∧
      (Client.getTime (ended.2.granted [{ io := true }, { io := true }])).1 =
        .failed Client.unreconciledSync ∧
      (Client.syncNextMessage
        (ended.2.granted [{ io := true }, { io := true }])).2.transport.outbound = [] :=
  ⟨rfl, rfl, rfl, rfl, rfl⟩

end Meshquill
