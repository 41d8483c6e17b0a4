import Meshquill.Domain

/-!
# Errors of the parser, the transports and the client

`error.rs`, together with the `std::io::ErrorKind` values that the client and the
transports tell apart. Every other kind is `other`.
-/
namespace Meshquill

/-- Parser errors. `PacketDisplay::Raw` is its code byte. -/
inductive ParseError where
  | unknownPacketCode (code : UInt8)
  | invalidPacketLength (code : UInt8) (minimum actual : Nat)
  | oversizedPacketPayload (actual maximum : Nat)
  | invalidUtf8Payload (context : String)
  | malformed (reason : String)
deriving DecidableEq

inductive IoErrorKind where
  | connectionAborted
  | connectionReset
  | brokenPipe
  | notConnected
  | unexpectedEof
  | alreadyExists
  | timedOut
  | invalidData
  | other (kind : Nat)
deriving DecidableEq

inductive TransportError where
  | io (kind : IoErrorKind) (message : String)
  | notConnected
  | reconnectFailed (message : String)
  | reconnectUnsupported
  | timeout
  | backpressure (queue : String) (capacity : Nat)
  | payloadTooLarge (maximum actual : Nat)
  | closed
deriving DecidableEq

inductive CoreError where
  | transport (error : TransportError)
  | parse (error : ParseError)
  | timeout
  | protocolInvariant (reason : String)
  | deviceRejected (operation : String) (code : Option UInt8)
  | featureDisabled (feature : String)
  | authenticationFailed
  | invalidArgument (field message : String)
  | invalidUtf8 (field : String)
  | disconnected
  | actorStopped
deriving DecidableEq

/-- The `io::ErrorKind`s after which a connection cannot be read again. The client and
the framed transports list the same five. -/
def IoErrorKind.endsConnection : IoErrorKind → Bool
  | .connectionAborted | .connectionReset | .brokenPipe | .notConnected | .unexpectedEof => true
  | _ => false

/-- `is_disconnect_error`: a read error that proves the session is over. -/
def isDisconnectError : TransportError → Bool
  | .notConnected | .closed => true
  | .io kind _ => kind.endsConnection
  | _ => false

/-- `is_terminal_write_error`: a write error after which the stream is not reused. -/
def isTerminalWriteError : TransportError → Bool
  | .notConnected | .closed | .timeout | .reconnectFailed _ | .io _ _ => true
  | _ => false

end Meshquill
