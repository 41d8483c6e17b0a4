import Meshquill.Client.Acks

/-!
# The managed client

The actor of `managed.rs`: callers put operations into a bounded queue, one task takes them
out and runs them on the client, and a cancellation interrupts what runs and discards what
was submitted before it. Each submission captures the cancellation epoch; the actor compares
it with the epoch when it takes the operation out. An operation starts when this comparison
succeeds.

A state is what the tasks share, and a step is what one of them does between two suspension
points, with an operation of the client as one step of its own length. Identifiers, counters
and the log are bookkeeping. The reply channels are left out: no decision depends on them.
-/
namespace Meshquill

/-- Operations that the managed client offers. -/
def Request.isOffered : Request → Bool
  | .init | .nextEvent => false
  | _ => true

/-- `ActorCommand`: an operation of the client, or a shutdown. -/
inductive ActorCommand where
  | operation (request : Request) (offered : request.isOffered = true)
  | shutdown

def ActorCommand.isWaitForAck : ActorCommand → Bool
  | .operation (.waitForAck _ _) _ => true
  | _ => false

/-- `QueuedCommand`, with a number for the submission and how many cancellations there were
before it. -/
structure QueuedCommand where
  command : ActorCommand
  generation : UInt64
  id : Nat
  captured : Nat

namespace Client

open Async

variable {τ ε : Type} [Transport τ ε]

def boundedDisconnect : ClientM τ ε Unit := do
  let client ← self
  if client.connected then timeout client.requestTimeout disconnect else pure ()

/-- `handle_command`: whether the actor goes on. -/
def handleCommand : ActorCommand → ClientM τ ε Bool
  | .operation request _ => do
    let _ ← attempt request.perform
    pure true
  | .shutdown => do
    let _ ← attempt boundedDisconnect
    pure false

/-- `INTERRUPTED_DISCONNECT_TIMEOUT`. -/
def interruptedDisconnectTimeout : Duration := Duration.seconds 1

/-- The end of `handle_optional_command` after an interruption: whether the disconnect ended
in time. Its own error is one of the transport, so a timeout is that of the timer. -/
def interruptedDisconnect : ClientM τ ε Bool := do
  match ← attempt (timeout interruptedDisconnectTimeout disconnect) with
  | .ok () => pure true
  | .error error => pure (error ≠ .timeout)

end Client

/-! ## The actor -/

/-- Where the actor is: at its `select`, in an operation, in the disconnect after an
interrupted one, or past its loop. -/
inductive Phase where
  | ready
  | running (queued : QueuedCommand)
  | closing
  | stopped

inductive ActorEvent where
  | queued (queued : QueuedCommand)
  | discarded (queued : QueuedCommand)
  | started (queued : QueuedCommand) (epoch : UInt64) (cancels : Nat) (connected : Bool)
  | finished (queued : QueuedCommand)
  | interrupted (queued : QueuedCommand)

def ActorEvent.isStart : ActorEvent → Prop
  | .started _ _ _ _ => True
  | _ => False

theorem ActorEvent.ne_started {event : ActorEvent} (other : ¬ event.isStart)
    {queued : QueuedCommand} {epoch : UInt64} {cancels : Nat} {connected : Bool} :
    event ≠ .started queued epoch cancels connected :=
  fun same => other (same ▸ trivial)

/-- The client and the actor's own state, the watch channel of the epoch with whether its
receiver has an unseen value, the callers that wait to send, and the queue, oldest first. -/
structure Managed (τ ε : Type) where
  world : World τ ε
  epoch : UInt64 := 0
  changed : Bool := false
  callers : List QueuedCommand := []
  queue : List QueuedCommand := []
  phase : Phase := .ready
  handles : Bool := true
  cancels : Nat := 0
  captures : Nat := 0
  log : List ActorEvent := []

namespace Managed

variable {τ ε : Type}

def note (event : ActorEvent) (managed : Managed τ ε) : Managed τ ε :=
  { managed with log := event :: managed.log }

/-- What a caller of `request` sends: the command with the epoch it has just read. -/
def capture (command : ActorCommand) (managed : Managed τ ε) : QueuedCommand :=
  { command, generation := managed.epoch, id := managed.captures, captured := managed.cancels }

section Transported

variable [Transport τ ε]

/-- One step of a caller or of the actor. -/
inductive Step (capacity : Nat) : Managed τ ε → Managed τ ε → Prop
  | request (managed : Managed τ ε) (command : ActorCommand) (live : managed.handles = true) :
      Step capacity managed
        { managed with
          callers := managed.capture command :: managed.callers
          captures := managed.captures + 1 }
  /-- A caller's send gets a place in the queue. -/
  | send (managed : Managed τ ε) (before after : List QueuedCommand) (queued : QueuedCommand)
      (waits : managed.callers = before ++ queued :: after)
      (room : managed.queue.length < capacity) :
      Step capacity managed
        (note (.queued queued)
          { managed with callers := before ++ after, queue := managed.queue ++ [queued] })
  /-- A caller is dropped before its command is in the queue. -/
  | abandon (managed : Managed τ ε) (before after : List QueuedCommand) (queued : QueuedCommand)
      (waits : managed.callers = before ++ queued :: after) :
      Step capacity managed { managed with callers := before ++ after }
  | cancelPendingOperations (managed : Managed τ ε) (live : managed.handles = true) :
      Step capacity managed
        { managed with
          epoch := managed.epoch + 1, changed := true, cancels := managed.cancels + 1 }
  /-- The last handle is dropped. -/
  | release (managed : Managed τ ε) (nobody : managed.callers = []) :
      Step capacity managed { managed with handles := false }
  /-- The idle actor sees a new epoch. -/
  | noticed (managed : Managed τ ε) (ready : managed.phase = .ready)
      (changed : managed.changed = true) :
      Step capacity managed { managed with changed := false }
  /-- The idle actor reads, for as long as nothing else happens. -/
  | nextEvent (managed : Managed τ ε) (turns : List (Turn ε)) (ready : managed.phase = .ready)
      (connected : managed.world.client.connected = true) :
      Step capacity managed
        { managed with world := managed.world.invoke { request := .nextEvent, turns } }
  /-- `handle_optional_command` finds an operation of an earlier epoch. -/
  | discard (managed : Managed τ ε) (queued : QueuedCommand) (rest : List QueuedCommand)
      (ready : managed.phase = .ready) (next : managed.queue = queued :: rest)
      (stale : queued.generation ≠ managed.epoch) :
      Step capacity managed
        (note (.discarded queued) { managed with queue := rest, changed := false })
  /-- `handle_optional_command` finds one of this epoch. -/
  | start (managed : Managed τ ε) (queued : QueuedCommand) (rest : List QueuedCommand)
      (ready : managed.phase = .ready) (next : managed.queue = queued :: rest)
      (current : queued.generation = managed.epoch) :
      Step capacity managed
        (note (.started queued managed.epoch managed.cancels managed.world.client.connected)
          { managed with queue := rest, changed := false, phase := .running queued })
  /-- The operation ends by itself. -/
  | finish (managed : Managed τ ε) (queued : QueuedCommand) (turns : List (Turn ε))
      (goesOn : Bool) (reached : World τ ε) (running : managed.phase = .running queued)
      (ended : Client.handleCommand queued.command (managed.world.granted turns) =
        (.done goesOn, reached)) :
      Step capacity managed
        (note (.finished queued)
          { managed with world := reached, phase := if goesOn then .ready else .stopped })
  /-- The operation is dropped at one of its awaits, because the epoch has changed. -/
  | interrupt (managed : Managed τ ε) (queued : QueuedCommand) (turns : List (Turn ε))
      (reached : World τ ε) (running : managed.phase = .running queued)
      (changed : managed.changed = true)
      (dropped : Client.handleCommand queued.command (managed.world.granted turns) =
        (.dropped, reached)) :
      Step capacity managed
        (note (.interrupted queued)
          { managed with
            world := reached, changed := false
            phase := if queued.command.isWaitForAck then .ready else .closing })
  | close (managed : Managed τ ε) (turns : List (Turn ε)) (inTime : Bool) (reached : World τ ε)
      (closing : managed.phase = .closing)
      (ended : Client.interruptedDisconnect (managed.world.granted turns) =
        (.done inTime, reached)) :
      Step capacity managed
        { managed with world := reached, phase := if inTime then .ready else .stopped }
  /-- The queue is empty and nobody can send any more. -/
  | exhausted (managed : Managed τ ε) (ready : managed.phase = .ready)
      (released : managed.handles = false) (empty : managed.queue = []) :
      Step capacity managed { managed with phase := .stopped }
  /-- After its loop the actor closes the session. -/
  | leave (managed : Managed τ ε) (turns : List (Turn ε)) (stopped : managed.phase = .stopped) :
      Step capacity managed
        { managed with world := (Client.boundedDisconnect (managed.world.granted turns)).2 }

/-- `spawn_inner`: a new actor around a client. -/
def spawn (world : World τ ε) : Managed τ ε := { world }

/-- The states of an actor with a queue of this capacity around this client. -/
def Reaches (capacity : Nat) (world : World τ ε) (managed : Managed τ ε) : Prop :=
  Relation.ReflTransGen (Step capacity) (spawn world) managed

end Transported

/-! ## Only operations of the current epoch start -/

/-- The epoch counts cancellations, modulo its width, and every submission has the count it
captured. -/
structure Counted (managed : Managed τ ε) : Prop where
  epoch : managed.epoch = UInt64.ofNat managed.cancels
  captured : ∀ queued ∈ managed.callers ++ managed.queue,
    queued.generation = UInt64.ofNat queued.captured ∧ queued.captured ≤ managed.cancels
  started : ∀ queued epoch cancels connected,
    .started queued epoch cancels connected ∈ managed.log →
      queued.generation = epoch ∧ queued.captured ≤ cancels ∧ 2 ^ 64 ∣ cancels - queued.captured

/-- Two counts with the same epoch differ by a multiple of its range. -/
theorem dvd_of_epoch_eq {captured cancels : Nat} (later : captured ≤ cancels)
    (same : UInt64.ofNat captured = UInt64.ofNat cancels) : 2 ^ 64 ∣ cancels - captured := by
  have equal := congrArg UInt64.toNat same
  simp only [UInt64.toNat_ofNat'] at equal
  omega

/-- A state with the same counters, fewer submissions, and no new start. -/
theorem Counted.fewer {managed next : Managed τ ε} (counted : Counted managed)
    (epoch : next.epoch = managed.epoch) (cancels : next.cancels = managed.cancels)
    (submissions : next.callers ++ next.queue ⊆ managed.callers ++ managed.queue)
    (log : ∀ queued epoch cancels connected, .started queued epoch cancels connected ∈ next.log →
      .started queued epoch cancels connected ∈ managed.log) : Counted next where
  epoch := by rw [epoch, cancels, counted.epoch]
  captured queued inside := by
    rw [cancels]
    exact counted.captured queued (submissions inside)
  started queued epoch cancels connected inside :=
    counted.started queued epoch cancels connected (log _ _ _ _ inside)

theorem step_counted [Transport τ ε] {capacity : Nat} (managed next : Managed τ ε)
    (step : Step capacity managed next) (counted : Counted managed) : Counted next := by
  have unlogged : ∀ event : ActorEvent, ¬ event.isStart → ∀ queued epoch cancels connected,
      .started queued epoch cancels connected ∈ event :: managed.log →
        .started queued epoch cancels connected ∈ managed.log := by
    intro event other queued epoch cancels connected inside
    exact (List.mem_cons.mp inside).resolve_left (ActorEvent.ne_started other).symm
  cases step with
  | request command live =>
    refine ⟨counted.epoch, ?_, counted.started⟩
    intro queued inside
    rcases List.mem_cons.mp inside with rfl | older
    · exact ⟨counted.epoch, Nat.le_refl _⟩
    · exact counted.captured queued older
  | send before after queued waits room =>
    refine counted.fewer rfl rfl ?_ (unlogged _ id)
    intro other inside
    rw [waits]
    simp only [note, List.mem_append, List.mem_cons, List.not_mem_nil] at inside ⊢
    tauto
  | abandon before after queued waits =>
    refine counted.fewer rfl rfl ?_ fun _ _ _ _ inside => inside
    intro other inside
    rw [waits]
    simp only [List.mem_append, List.mem_cons] at inside ⊢
    tauto
  | cancelPendingOperations live =>
    refine ⟨?_, ?_, counted.started⟩
    · rw [counted.epoch]
      exact (UInt64.ofNat_add managed.cancels 1).symm
    · intro queued inside
      obtain ⟨same, bound⟩ := counted.captured queued inside
      exact ⟨same, Nat.le_succ_of_le bound⟩
  | release nobody | noticed ready changed | nextEvent turns ready connected
  | close turns inTime reached closing ended | exhausted ready released empty
  | leave turns stopped =>
    exact counted.fewer rfl rfl (fun _ inside => inside) fun _ _ _ _ inside => inside
  | discard queued rest ready next stale =>
    refine counted.fewer rfl rfl ?_ (unlogged _ id)
    intro other inside
    rw [next]
    simp only [note, List.mem_append, List.mem_cons] at inside ⊢
    tauto
  | start queued rest ready next current =>
    refine ⟨counted.epoch, ?_, ?_⟩
    · intro other inside
      refine counted.captured other ?_
      rw [next]
      simp only [note, List.mem_append, List.mem_cons] at inside ⊢
      tauto
    · intro other epoch cancels connected inside
      rcases List.mem_cons.mp inside with same | earlier
      · obtain ⟨rfl, rfl, rfl, -⟩ := ActorEvent.started.inj same
        obtain ⟨generation, bound⟩ := counted.captured other (by simp [next])
        refine ⟨current, bound, dvd_of_epoch_eq bound ?_⟩
        rw [← generation, current, counted.epoch]
      · exact counted.started other epoch cancels connected earlier
  | finish queued turns goesOn reached running ended =>
    exact counted.fewer rfl rfl (fun _ inside => inside) (unlogged _ id)
  | interrupt queued turns reached running changed dropped =>
    exact counted.fewer rfl rfl (fun _ inside => inside) (unlogged _ id)

/-! ## Each once, in the order of the queue -/

/-- The submissions that entered the queue, newest first. -/
def queuedIds (log : List ActorEvent) : List Nat :=
  log.filterMap fun
    | .queued queued => some queued.id
    | _ => none

/-- The submissions that started, newest first. -/
def startedIds (log : List ActorEvent) : List Nat :=
  log.filterMap fun
    | .started queued _ _ _ => some queued.id
    | _ => none

/-- What entered the queue is still there or was taken out in order, and only what was taken
out has started. -/
structure InOrder (managed : Managed τ ε) : Prop where
  taken : ∃ taken, queuedIds managed.log = (managed.queue.map (·.id)).reverse ++ taken ∧
    (startedIds managed.log).Sublist taken
  distinct : (managed.callers.map (·.id) ++ queuedIds managed.log).Nodup
  numbered : ∀ id ∈ managed.callers.map (·.id) ++ queuedIds managed.log, id < managed.captures

/-- A state with the same queue and the same log, as far as these are concerned, and no more
callers. -/
theorem InOrder.unchanged {managed next : Managed τ ε} (inOrder : InOrder managed)
    (queued : queuedIds next.log = queuedIds managed.log)
    (started : startedIds next.log = startedIds managed.log) (queue : next.queue = managed.queue)
    (callers : next.callers.Sublist managed.callers)
    (captures : next.captures = managed.captures) : InOrder next where
  taken := by
    rw [queued, started, queue]
    exact inOrder.taken
  distinct := by
    rw [queued]
    exact inOrder.distinct.sublist ((callers.map _).append_right _)
  numbered id inside := by
    rw [queued] at inside
    rw [captures]
    exact inOrder.numbered id (((callers.map _).append_right _).subset inside)

/-- Taking the first of the queue out. -/
theorem InOrder.takes {managed : Managed τ ε} (inOrder : InOrder managed)
    {queued : QueuedCommand} {rest : List QueuedCommand} (next : managed.queue = queued :: rest) :
    ∃ taken, queuedIds managed.log = (rest.map (·.id)).reverse ++ queued.id :: taken ∧
      (startedIds managed.log).Sublist taken := by
  obtain ⟨taken, same, sublist⟩ := inOrder.taken
  exact ⟨taken, by simpa [next] using same, sublist⟩

theorem step_inOrder [Transport τ ε] {capacity : Nat} (managed next : Managed τ ε)
    (step : Step capacity managed next) (inOrder : InOrder managed) : InOrder next := by
  cases step with
  | request command live =>
    have fresh : managed.captures ∉ managed.callers.map (·.id) ++ queuedIds managed.log :=
      fun inside => Nat.lt_irrefl _ (inOrder.numbered _ inside)
    refine ⟨inOrder.taken, List.nodup_cons.mpr ⟨fresh, inOrder.distinct⟩, ?_⟩
    intro id inside
    rcases List.mem_cons.mp inside with rfl | older
    · exact Nat.lt_succ_self _
    · exact Nat.lt_succ_of_lt (inOrder.numbered id older)
  | send before after queued waits room =>
    have moved : ((before ++ after).map (·.id) ++ queued.id :: queuedIds managed.log).Perm
        (managed.callers.map (·.id) ++ queuedIds managed.log) := by
      rw [waits]
      simp only [List.map_append, List.map_cons, List.append_assoc, List.cons_append]
      exact List.perm_middle.append_left _
    obtain ⟨taken, same, sublist⟩ := inOrder.taken
    refine ⟨⟨taken, ?_, sublist⟩, moved.nodup_iff.mpr inOrder.distinct, ?_⟩
    · simpa [note, queuedIds] using same
    · exact fun id inside => inOrder.numbered id (moved.mem_iff.mp inside)
  | abandon before after queued waits =>
    refine inOrder.unchanged rfl rfl rfl ?_ rfl
    rw [waits]
    exact (List.sublist_cons_self _ _).append_left _
  | cancelPendingOperations live | release nobody | noticed ready changed
  | nextEvent turns ready connected | close turns inTime reached closing ended
  | exhausted ready released empty | leave turns stopped =>
    exact inOrder.unchanged rfl rfl rfl (List.Sublist.refl _) rfl
  | finish queued turns goesOn reached running ended =>
    exact inOrder.unchanged rfl rfl rfl (List.Sublist.refl _) rfl
  | interrupt queued turns reached running changed dropped =>
    exact inOrder.unchanged rfl rfl rfl (List.Sublist.refl _) rfl
  | discard queued rest ready next stale =>
    obtain ⟨taken, same, sublist⟩ := inOrder.takes next
    exact ⟨⟨queued.id :: taken, same, sublist.cons _⟩, inOrder.distinct, inOrder.numbered⟩
  | start queued rest ready next current =>
    obtain ⟨taken, same, sublist⟩ := inOrder.takes next
    exact ⟨⟨queued.id :: taken, same, sublist.cons_cons _⟩, inOrder.distinct, inOrder.numbered⟩

end Managed

end Meshquill
