import Meshquill.Error

/-!
# The transport abstraction

`Transport` and `ReconnectableTransport` of `transport.rs`, with `ScriptedTransport`.

A transport call is an await point. What the world does during one call is an input of
type `ε`, so that every transport is a function of its state and that input. A call that
has not resolved answers `none`: its caller either drops it or times out, and the state
returned is the one the abandoned future leaves behind.
-/
namespace Meshquill

/-- The outcome of a call: its result, unless it was abandoned before it resolved. -/
abbrev Call (α : Type) := Option (Except TransportError α)

/-- Result of one non-blocking read attempt. -/
inductive ReadyRead where
  | pending
  | closed
  | packet (raw : Bytes)
deriving DecidableEq

/-- What one poll of the read future says; an unresolved future is `Pending`. -/
def readyOf : Call (Option Bytes) → Except TransportError ReadyRead
  | none => .ok .pending
  | some (.ok (some raw)) => .ok (.packet raw)
  | some (.ok none) => .ok .closed
  | some (.error error) => .error error

/-- `Transport` and `ReconnectableTransport`. `tryRead` has the default of the trait: it
polls `read` once. -/
class Transport (τ : Type) (ε : outParam Type) where
  connect : ε → τ → Call Unit × τ
  disconnect : ε → τ → Call Unit × τ
  write : ε → Bytes → τ → Call Unit × τ
  read : ε → τ → Call (Option Bytes) × τ
  tryRead : ε → τ → Except TransportError ReadyRead × τ :=
    fun io transport => (readyOf (read io transport).1, (read io transport).2)
  reconnect : ε → τ → Call Unit × τ

/-- The contract of `Transport::read`, about the packets that a transport still has to deliver.
The packet that a read returns is the first of them, and a read that is dropped takes none.
More may arrive during either. -/
structure CancellationSafe {τ ε : Type} [Transport τ ε] (inbound : τ → List Bytes) : Prop where
  reads : ∀ (io : ε) (transport next : τ) (raw : Bytes),
    Transport.read io transport = (some (.ok (some raw)), next) →
      ∃ arrivals, inbound transport ++ arrivals = raw :: inbound next
  drops : ∀ (io : ε) (transport next : τ), Transport.read io transport = (none, next) →
    ∃ arrivals, inbound transport ++ arrivals = inbound next

/-- The default of `ReconnectableTransport::reconnect`: close, then open. -/
def reconnectByDefault (connect disconnect : ε → τ → Call Unit × τ) (io : ε) (transport : τ) :
    Call Unit × τ :=
  match disconnect io transport with
  | (some (.ok ()), closed) => connect io closed
  | (some (.error error), closed) => (some (.error error), closed)
  | (none, closed) => (none, closed)

/-! ## The scripted transport -/

/-- `ScriptedTransport`: preloaded inbound packets and the recorded outbound ones. -/
structure ScriptedTransport where
  connected : Bool := false
  incoming : List Bytes := []
  outgoing : List Bytes := []
deriving DecidableEq

namespace ScriptedTransport

/-- `with_inbound_frames`. -/
def withInboundFrames (frames : List Bytes) : ScriptedTransport :=
  { connected := true, incoming := frames }

variable (transport : ScriptedTransport)

def connect : Call Unit × ScriptedTransport :=
  (some (.ok ()), { transport with connected := true })

def disconnect : Call Unit × ScriptedTransport :=
  (some (.ok ()), { transport with connected := false })

def write (payload : Bytes) (transport : ScriptedTransport) : Call Unit × ScriptedTransport :=
  if !transport.connected then (some (.error .notConnected), transport)
  else (some (.ok ()), { transport with outgoing := transport.outgoing ++ [payload] })

def read : Call (Option Bytes) × ScriptedTransport :=
  if !transport.connected then (some (.error .notConnected), transport)
  else (some (.ok transport.incoming.head?), { transport with incoming := transport.incoming.tail })

/-- Scripted frames stand for responses that only become visible after the matching
write, so a poll never finds one. -/
def tryRead : Except TransportError ReadyRead × ScriptedTransport :=
  if !transport.connected then (.error .notConnected, transport) else (.ok .pending, transport)

end ScriptedTransport

/-- Every scripted call resolves at once, whatever the world does. -/
instance : Transport ScriptedTransport Unit where
  connect _ := ScriptedTransport.connect
  disconnect _ := ScriptedTransport.disconnect
  write _ := ScriptedTransport.write
  read _ := ScriptedTransport.read
  tryRead _ := ScriptedTransport.tryRead
  reconnect := reconnectByDefault (fun _ => ScriptedTransport.connect)
    (fun _ => ScriptedTransport.disconnect)

end Meshquill
