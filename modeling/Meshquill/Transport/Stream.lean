import Meshquill.Protocol.Parse
import Meshquill.Transport

/-!
# Framed stream transports

The outer frame codec of `framing.rs`, the persistent read state of `framed.rs`, and
`TcpTransport` and `SerialTransport`, which differ only in how they name their endpoint.

The world's part of a call is `StreamIo`: whether opening, writing and closing resolve
and how, and which socket reads complete. A provider error is its kind and its text; the
provider timeout is an outcome of its own. A timeout shows the configured duration, whose
text is a field here.
-/
namespace Meshquill

/-- `MAX_OUTER_PAYLOAD`. -/
def maxOuterPayload : Nat := 300

def appFramePrefix : UInt8 := 0x3c

def deviceFramePrefix : UInt8 := 0x3e

/-- `OuterDecoder::decode`: the decoded payload, if any, and the bytes left in the
buffer. The second test of the position is made against the buffer it has just been
advanced in. -/
def outerDecode (src : Bytes) : Except ParseError (Option Bytes) × Bytes :=
  if src.isEmpty then (.ok none, src)
  else
    let position := (src.findIdx? (· == deviceFramePrefix)).getD src.length
    let src := if position > 0 ∧ position < src.length then src.drop position else src
    if position ≥ src.length then (.ok none, [])
    else
      match src with
      | _ :: low :: high :: rest =>
        let declared := (u16FromLe low high).toNat
        if declared > maxOuterPayload then
          (.error (.oversizedPacketPayload declared maxOuterPayload), rest.drop declared)
        else if rest.length < declared then (.ok none, src)
        else (.ok (some (rest.take declared)), rest.drop declared)
      | _ => (.ok none, src)

/-- `encode_payload`. -/
def encodePayload (payload : Bytes) : Except ParseError Bytes :=
  if payload.length > maxOuterPayload then
    .error (.oversizedPacketPayload payload.length maxOuterPayload)
  else
    .ok ([appFramePrefix, UInt8.ofNat payload.length, UInt8.ofNat (payload.length / 256)] ++
      payload)

/-- A payload as the device frames it. -/
def deviceFrame (payload : Bytes) : Bytes :=
  [deviceFramePrefix, UInt8.ofNat payload.length, UInt8.ofNat (payload.length / 256)] ++ payload

/-- A length that fits is read back from its two bytes. -/
theorem declared_length {size : Nat} (fits : size ≤ maxOuterPayload) :
    (u16FromLe (UInt8.ofNat size) (UInt8.ofNat (size / 256))).toNat = size := by
  have small : size ≤ 300 := fits
  simp only [u16FromLe, UInt8.toNat_ofNat', UInt16.toNat_ofNat']
  omega

/-- The decoder takes one frame off the front of its buffer and leaves the rest. -/
theorem outerDecode_deviceFrame {payload : Bytes} (fits : payload.length ≤ maxOuterPayload)
    (rest : Bytes) : outerDecode (deviceFrame payload ++ rest) = (.ok (some payload), rest) := by
  have position : ((deviceFrame payload ++ rest).findIdx? (· == deviceFramePrefix)) = some 0 := by
    simp [deviceFrame, List.findIdx?_cons]
  have declared := declared_length fits
  have notOversized : ¬ payload.length > maxOuterPayload := Nat.not_lt.mpr fits
  unfold outerDecode
  rw [position]
  simp [deviceFrame, declared, notOversized]

/-- `{:#04x}` of a byte. -/
def hexByte (byte : UInt8) : String :=
  "0x" ++ String.ofList [hexDigit (byte.toNat / 16), hexDigit (byte.toNat % 16)]

/-- The `Display` text of a parse error. -/
def ParseError.display : ParseError → String
  | .unknownPacketCode code => "unknown packet code " ++ hexByte code
  | .invalidPacketLength code minimum actual =>
      "invalid packet length for Raw(" ++ toString code ++ "): expected at least " ++
        toString minimum ++ ", got " ++ toString actual
  | .oversizedPacketPayload actual maximum =>
      "oversized packet payload: " ++ toString actual ++ " > " ++ toString maximum
  | .invalidUtf8Payload context => "invalid UTF-8 payload for " ++ context
  | .malformed reason => "malformed packet: " ++ reason

/-- `core_codec_error`, for the only errors the codec produces. -/
def coreCodecError (error : ParseError) : TransportError :=
  .io .invalidData ("outer frame codec failed: parse error: " ++ error.display)

/-- `READ_CHUNK_SIZE`. -/
def readChunkSize : Nat := 1024

/-- One completed socket read. An empty chunk is the end of the stream. -/
inductive SocketRead where
  | chunk (bytes : Bytes)
  | failed (kind : IoErrorKind) (message : String)
deriving DecidableEq

/-- `FramedReadState::discard_preceding_noise`. -/
def discardPrecedingNoise (buffered : Bytes) : Bytes :=
  buffered.dropWhile (· != deviceFramePrefix)

/-- `FramedReadState::read_from`: the result, the buffer and the socket reads not yet
needed. With no read left the future is still pending, and the buffer keeps what has
arrived. -/
def readFrom : List SocketRead → Bytes → Call (Option Bytes) × Bytes × List SocketRead
  | reads, buffered =>
    match outerDecode (discardPrecedingNoise buffered) with
    | (.error error, rest) => (some (.error (coreCodecError error)), rest, reads)
    | (.ok (some payload), rest) => (some (.ok (some payload)), rest, reads)
    | (.ok none, rest) =>
      match reads with
      | [] => (none, rest, [])
      | .failed kind message :: more => (some (.error (.io kind message)), rest, more)
      | .chunk [] :: more =>
        if rest.isEmpty then (some (.ok none), rest, more)
        else
          (some (.error (.io .unexpectedEof
            ("peer closed with " ++ toString rest.length ++
              " byte(s) of an incomplete outer frame"))), [], more)
      | .chunk bytes :: more => readFrom more (rest ++ bytes)

/-! ## TCP and serial -/

/-- `is_terminal_read_error`, with its own list of kinds. -/
def isTerminalReadError : TransportError → Bool
  | .notConnected | .closed => true
  | .io .connectionAborted _ | .io .connectionReset _ | .io .brokenPipe _ | .io .notConnected _
  | .io .unexpectedEof _ => true
  | _ => false

/-- The transports and the client end a connection after the same errors. -/
theorem isTerminalReadError_eq (error : TransportError) :
    isTerminalReadError error = isDisconnectError error := by
  cases error with
  | io kind message => cases kind <;> rfl
  | _ => rfl

/-- The endpoint a stream transport reopens. -/
inductive Endpoint where
  | tcp (host : String) (port : UInt16)
  | serial (port : String) (baud : UInt32)
deriving DecidableEq

/-- `format_tcp_endpoint`, and the port of a serial transport. -/
def Endpoint.text : Endpoint → String
  | .tcp host port =>
      if host.contains ':' && !(host.startsWith "[" && host.endsWith "]") then
        "[" ++ host ++ "]:" ++ toString port
      else host ++ ":" ++ toString port
  | .serial port _ => port

/-- A provider operation. -/
inductive StreamAction where
  | opening
  | reading
  | writing
  | closing
deriving DecidableEq

/-- `contextual_io` of the two transports, and `serial_provider_error` for an open. -/
def Endpoint.failureText (endpoint : Endpoint) (action : StreamAction) (error : String) : String :=
  match endpoint, action with
  | .tcp _ _, .opening => "TCP connect " ++ endpoint.text ++ " failed: " ++ error
  | .tcp _ _, .reading => "TCP read from " ++ endpoint.text ++ " failed: " ++ error
  | .tcp _ _, .writing => "TCP write to " ++ endpoint.text ++ " failed: " ++ error
  | .tcp _ _, .closing => "TCP shutdown for " ++ endpoint.text ++ " failed: " ++ error
  | .serial port _, .opening =>
      "serial open for '" ++ port ++ "' failed: " ++ error ++
        "; check the device path, permissions, and whether another process holds the port"
  | .serial port _, .reading => "serial read from '" ++ port ++ "' failed: " ++ error
  | .serial port _, .writing => "serial write to '" ++ port ++ "' failed: " ++ error
  | .serial port _, .closing => "serial close '" ++ port ++ "' failed: " ++ error

/-- `timeout_error` and `serial_timeout`, for the two calls that use them. -/
def Endpoint.timeoutText (endpoint : Endpoint) (action : StreamAction) (duration : String) :
    String :=
  match endpoint, action with
  | .tcp _ _, .closing => "TCP shutdown for " ++ endpoint.text ++ " timed out after " ++ duration
  | .tcp _ _, _ => "TCP connect for " ++ endpoint.text ++ " timed out after " ++ duration
  | .serial port _, .closing => "serial close for '" ++ port ++ "' timed out after " ++ duration
  | .serial port _, _ => "serial open for '" ++ port ++ "' timed out after " ++ duration

def Endpoint.alreadyConnectedText : Endpoint → String
  | .tcp host port =>
      "TCP transport to " ++ (Endpoint.tcp host port).text ++
        " is already connected; disconnect before connecting again"
  | .serial port _ =>
      "serial port '" ++ port ++ "' is already connected; disconnect before connecting again"

/-- `TcpTransport` and `SerialTransport`. Of the open stream only its presence matters:
what it delivers is the world's input. -/
structure StreamTransport where
  endpoint : Endpoint
  connectTimeoutText : String
  stream : Bool := false
  buffered : Bytes := []
deriving DecidableEq

/-- How a provider operation resolves. -/
inductive Provided where
  | completed
  | failed (kind : IoErrorKind) (message : String)
  | timedOut
deriving DecidableEq

/-- How opening a stream resolves. A TCP stream can still fail to be configured after it
has connected; a serial port is opened by a worker that can fail itself. -/
inductive Opened where
  | provided (outcome : Provided)
  | unconfigured (kind : IoErrorKind) (message : String)
  | workerFailed (message : String)
deriving DecidableEq

/-- The world's part of one call on a stream. -/
structure StreamIo where
  opened : Option Opened := some (.provided .completed)
  written : Option Provided := some .completed
  shut : Option Provided := some .completed
  reads : List SocketRead := []
deriving DecidableEq

namespace StreamTransport

/-- `contextual_transport`. -/
def contextual (transport : StreamTransport) (action : StreamAction) :
    TransportError → TransportError
  | .io kind message => .io kind (transport.endpoint.failureText action message)
  | other => other

def provided (transport : StreamTransport) (action : StreamAction) :
    Provided → Except TransportError Unit
  | .completed => .ok ()
  | .failed kind message => .error (.io kind (transport.endpoint.failureText action message))
  | .timedOut =>
      .error (.io .timedOut (transport.endpoint.timeoutText action transport.connectTimeoutText))

/-- An open stream is refused before anything is touched. -/
def connect (io : StreamIo) (transport : StreamTransport) : Call Unit × StreamTransport :=
  if transport.stream then
    (some (.error (.io .alreadyExists transport.endpoint.alreadyConnectedText)), transport)
  else
    let fresh := { transport with buffered := [] }
    match io.opened with
    | none => (none, fresh)
    | some (.provided .completed) => (some (.ok ()), { fresh with stream := true })
    | some (.provided outcome) => (some (transport.provided .opening outcome), fresh)
    | some (.unconfigured kind message) =>
        (some (.error (.io kind
          ("configure TCP_NODELAY for " ++ transport.endpoint.text ++ " failed: " ++ message))),
          fresh)
    | some (.workerFailed message) =>
        (some (.error (.io (.other 0)
          ("serial open worker for '" ++ transport.endpoint.text ++ "' failed: " ++ message))),
          fresh)

/-- The stream is taken before its shutdown is awaited. -/
def disconnect (io : StreamIo) (transport : StreamTransport) : Call Unit × StreamTransport :=
  let closed := { transport with buffered := [], stream := false }
  if !transport.stream then (some (.ok ()), closed)
  else (io.shut.map (transport.provided .closing), closed)

/-- `validate_payload`, then `write_framed_bounded`: any failure of the framed write drops
the stream, an abandoned one leaves it. -/
def write (io : StreamIo) (payload : Bytes) (transport : StreamTransport) :
    Call Unit × StreamTransport :=
  if payload.length > maxInnerPayload then
    (some (.error (.payloadTooLarge maxInnerPayload payload.length)), transport)
  else if !transport.stream then (some (.error .notConnected), transport)
  else
    let dropped := { transport with stream := false, buffered := [] }
    match io.written with
    | none => (none, transport)
    | some .completed => (some (.ok ()), transport)
    | some (.failed kind message) =>
        (some (.error (transport.contextual .writing (.io kind message))), dropped)
    | some .timedOut =>
        (some (.error (transport.contextual .writing
          (.io .timedOut ("framed write timed out after " ++ transport.connectTimeoutText)))),
          dropped)

/-- `invalidate_on_terminal_read_error` keeps the stream after an error that does not end
the connection. -/
def read (io : StreamIo) (transport : StreamTransport) : Call (Option Bytes) × StreamTransport :=
  let dropped := { transport with stream := false, buffered := [] }
  if !transport.stream then (some (.error .notConnected), dropped)
  else
    match readFrom io.reads transport.buffered with
    | (none, buffered, _) => (none, { transport with buffered })
    | (some (.ok none), _, _) => (some (.ok none), dropped)
    | (some (.ok (some raw)), buffered, _) => (some (.ok (some raw)), { transport with buffered })
    | (some (.error error), buffered, _) =>
        (some (.error (transport.contextual .reading error)),
          if isTerminalReadError error then dropped else { transport with buffered })

end StreamTransport

instance : Transport StreamTransport StreamIo where
  connect := StreamTransport.connect
  disconnect := StreamTransport.disconnect
  write := StreamTransport.write
  read := StreamTransport.read
  reconnect := reconnectByDefault StreamTransport.connect StreamTransport.disconnect

/-- A connect on a transport that holds a stream is rejected and changes nothing. -/
theorem StreamTransport.connect_of_stream (io : StreamIo) {transport : StreamTransport}
    (held : transport.stream = true) :
    StreamTransport.connect io transport =
      (some (.error (.io .alreadyExists transport.endpoint.alreadyConnectedText)), transport) := by
  simp [StreamTransport.connect, held]

end Meshquill
