import Meshquill.Client.Steps
import Meshquill.Transport.Stream

/-!
# Connecting over a stream transport

`connect` clears the trackers before it asks the transport. A stream transport that still
holds its stream refuses, so the session goes on, with nothing of it remembered: the
outstanding synchronisation, the retained answer and the ACKs are forgotten unless there
were none (`rejected_connect_keeps_iff`).
-/
namespace Meshquill

/-- The world's part of a read that receives one whole frame. -/
def StreamIo.receiving (payload : Bytes) : StreamIo := { reads := [.chunk (deviceFrame payload)] }

/-- A TCP transport before its first session. -/
def tcpTransport : StreamTransport :=
  { endpoint := .tcp "mesh.local" 5000, connectTimeoutText := "10s" }

/-- An answer to `APP_START`: a profile of zeros with a one-letter name. -/
def selfInfoRaw : Bytes := 0x05 :: List.replicate 57 0 ++ [0x41]

/-- A connect call that opens a session: the stream opens, `APP_START` is written, and the
device answers. -/
def opening : Invocation StreamIo :=
  { request := .connect
    turns := [{ io := {} }, { io := {} }, { io := .receiving selfInfoRaw }] }

/-- An `Invocation` that is granted a write and then one frame to read. -/
def exchange (request : Request) (raw : Bytes) : Invocation StreamIo :=
  { request, turns := [{ io := {} }, { io := .receiving raw }] }

/-- A synchronisation that is dropped after its write. -/
def droppedSync : Invocation StreamIo :=
  { request := .syncNextMessage, turns := [{ io := {} }, { io := {} }] }

/-- The tracking state of two clients is the same. -/
structure Client.SameTracking (before after : Client) : Prop where
  syncState : after.syncState = before.syncState
  deferredSync : after.deferredSync = before.deferredSync
  pendingAcks : after.pendingAcks = before.pendingAcks
  completedAcks : after.completedAcks = before.completedAcks

/-- What `connect` forgets first is unchanged exactly when there was nothing. -/
theorem Client.sameTracking_forget_iff (trace : Trace) :
    trace.client.SameTracking trace.forget.client ↔ trace.client.Clear := by
  constructor
  · intro same
    exact ⟨same.pendingAcks.symm, same.completedAcks.symm, same.syncState.symm,
      same.deferredSync.symm⟩
  · intro clear
    exact ⟨clear.idle.symm, clear.nothing.symm, clear.pending.symm, clear.completed.symm⟩

/-- A connect that the transport refuses has only forgotten. -/
theorem Client.connect_of_stream {world : World StreamTransport StreamIo} {turn : Turn StreamIo}
    {turns : List (Turn StreamIo)} (granted : world.turns = turn :: turns)
    (held : world.transport.stream = true) :
    Client.connect world =
      (.failed (.transport (.io .alreadyExists world.transport.endpoint.alreadyConnectedText)),
        { world with trace := world.trace.forget, turns }) := by
  have refused : Transport.connect turn.io world.transport =
      (some (.error (.io .alreadyExists world.transport.endpoint.alreadyConnectedText)),
        world.transport) := StreamTransport.connect_of_stream turn.io held
  simp [Client.connect, Client.locally, Client.await, granted, refused]

/-- Over TCP or serial, a connect on a client whose transport holds its stream is rejected,
and it leaves the tracking state as it was exactly when nothing was tracked. -/
theorem World.rejected_connect_keeps_iff (transport : StreamTransport)
    (requestTimeout : Duration) (invocations : List (Invocation StreamIo))
    (turn : Turn StreamIo) (turns : List (Turn StreamIo)) :
    let world := ((World.initial transport requestTimeout).run invocations).granted (turn :: turns)
    world.client.connected = true → world.transport.stream = true →
      (Client.connect world).1 = .failed (.transport
        (.io .alreadyExists world.transport.endpoint.alreadyConnectedText)) ∧
      (world.client.SameTracking (Client.connect world).2.client ↔ world.client.Clear) := by
  intro world _ held
  have granted : world.turns = turn :: turns := rfl
  rw [Client.connect_of_stream granted held]
  exact ⟨rfl, Client.sameTracking_forget_iff world.trace⟩

/-- After a rejected connect, the outstanding synchronisation of the live session is
forgotten, and the next call writes a second one. -/
theorem World.rejected_connect_forgets :
    let world := ((World.initial tcpTransport 5000000000).run [opening, droppedSync]).granted
      [{ io := {} }]
    let after := (Client.connect world).2
    world.client.connected = true ∧ world.transport.stream = true ∧
      world.client.syncState = .awaitingResponse ∧ after.client.connected = true ∧
      after.transport.stream = true ∧ after.client.syncState = .idle ∧
      (after.invoke droppedSync).history.filterMap (·.seen.written?) =
        [syncPayload, syncPayload, Command.appStart.intoEncoded] := by
  decide +kernel

/-- A client with nothing tracked keeps it. -/
theorem World.rejected_connect_keeps_idle :
    let world := ((World.initial tcpTransport 5000000000).run [opening]).granted [{ io := {} }]
    (Client.connect world).1 = .failed (.transport
        (.io .alreadyExists world.transport.endpoint.alreadyConnectedText)) ∧
      (world.client.SameTracking (Client.connect world).2.client ↔ world.client.Clear) :=
  World.rejected_connect_keeps_iff tcpTransport 5000000000 [opening] { io := {} } []
    (by decide +kernel) (by decide +kernel)

end Meshquill
