import Meshquill.Mqtt.Command
import Meshquill.Serde
import Meshquill.Store.Entry

/-!
# The event schema

`schema.rs`: the data of the events that the gateway publishes, the envelope around them, and the
checks that an envelope has to pass before it is sent and after it was received. The checks do
not trust the data: they read it back from its JSON value and look at the texts in it.

What is left to `serde_json` is how it turns a value into bytes and back, and how it holds numbers
that are not integers. The derived readers and writers are written out.
-/
namespace Meshquill.Mqtt

open Checks Serde Store

/-! ## What the libraries do -/

/-- `serde_json` and `uuid`. -/
structure Wire (ν : Type) where
  /-- `Number::from_f64`, which has no number for what is not finite. -/
  ofF64 : Float → Option ν
  toF64 : ν → Float
  /-- `Number::from_f32`. -/
  ofF32 : Float32 → Option ν
  toF32 : ν → Float32
  /-- `to_vec`, and `from_slice` with the members of the outermost object as they are listed. -/
  toVec : Value ν → Bytes
  fromSlice : Bytes → Option (Value ν)
  /-- `Uuid::parse_str`. -/
  parseStr : String → Option Uuid
  /-- Millionths within 32 bits are finite numbers, and a number keeps them. -/
  coordinates : ∀ word : Int32,
    (ofF64 (word.toFloat / 1000000)).map toF64 = some (word.toFloat / 1000000)
  /-- So are the quarters within a byte. -/
  quarters : ∀ byte : Int8, (ofF32 (snrOfByte byte)).map toF32 = some (snrOfByte byte)
  parses : ∀ id, parseStr (renderUuid id) = some id

variable {ν : Type} (wire : Wire ν)

def writeF64 (value : Float) : Value ν := (wire.ofF64 value).elim .null .float

def writeF32 (value : Float32) : Value ν := (wire.ofF32 value).elim .null .float

def readF64 : Value ν → Option Float
  | .float value => some (wire.toF64 value)
  | .integer value => some (Float.ofInt value)
  | _ => none

def readF32 : Value ν → Option Float32
  | .float value => some (wire.toF32 value)
  | .integer value => some (Float32.ofInt value)
  | _ => none

/-! ## Event kinds -/

inductive EventKind where
  | incomingMessage
  | ack
  | connectionState
  | contacts
  | telemetry
  | sendDirect
  | sendChannel
deriving DecidableEq

/-- The name of a kind in snake case. -/
def EventKind.name : EventKind → String
  | .incomingMessage => "incoming_message"
  | .ack => "ack"
  | .connectionState => "connection_state"
  | .contacts => "contacts"
  | .telemetry => "telemetry"
  | .sendDirect => "send_direct"
  | .sendChannel => "send_channel"

variable (value : Value ν)

def EventKind.read : Option EventKind :=
  (readVariant value).bind fun
    | "incoming_message" => some .incomingMessage
    | "ack" => some .ack
    | "connection_state" => some .connectionState
    | "contacts" => some .contacts
    | "telemetry" => some .telemetry
    | "send_direct" => some .sendDirect
    | "send_channel" => some .sendChannel
    | _ => none

/-! ## Connection states -/

inductive ConnectionComponent where
  | meshCore
  | mqttBroker
deriving DecidableEq

structure ConnectionStateData where
  component : ConnectionComponent
  status : ConnectionStatus
  reason : Option String
deriving DecidableEq

def ConnectionComponent.name : ConnectionComponent → String
  | .meshCore => "mesh_core"
  | .mqttBroker => "mqtt_broker"

def ConnectionComponent.read : Option ConnectionComponent :=
  (readVariant value).bind fun
    | "mesh_core" => some .meshCore
    | "mqtt_broker" => some .mqttBroker
    | _ => none

def ConnectionStatus.name : ConnectionStatus → String
  | .connected => "connected"
  | .disconnected => "disconnected"

def ConnectionStatus.read : Option ConnectionStatus :=
  (readVariant value).bind fun
    | "connected" => some .connected
    | "disconnected" => some .disconnected
    | _ => none

def ConnectionStateData.write (data : ConnectionStateData) : Value ν :=
  record (field "component" (.string data.component.name) ++
    field "status" (.string data.status.name) ++
    optionalField "reason" (data.reason.map .string))

def ConnectionStateData.read (value : Value ν) : Option ConnectionStateData := do
  let members ← readRecord ["component", "status", "reason"] value
  let component ← readMember ConnectionComponent.read (findKey "component" members)
  let status ← readMember ConnectionStatus.read (findKey "status" members)
  let reason ← readOptional asString (findKey "reason" members)
  return { component, status, reason }

/-! ## Contacts -/

/-- `ContactTypeData` has the variants of `ContactType`. -/
def writeContactType : ContactType → Value ν
  | .chat => tagged "kind" "chat" []
  | .repeater => tagged "kind" "repeater" []
  | .room => tagged "kind" "room" []
  | .sensor => tagged "kind" "sensor" []
  | .unknown code => tagged "kind" "unknown" (field "code" (writeU8 code))

/-- A variant without members ignores what else there is. -/
def readContactType : Option ContactType := do
  match ← readTagged "kind" value with
  | ("chat", _) => some .chat
  | ("repeater", _) => some .repeater
  | ("room", _) => some .room
  | ("sensor", _) => some .sensor
  | ("unknown", content) => do
    let members ← readRecord ["code"] content
    let code ← readMember asU8 (findKey "code" members)
    return .unknown code
  | _ => none

/-- The members of a route along a path. -/
def routeMembers (hashMode hopCount : UInt8) : Members ν :=
  field "hash_mode" (writeU8 hashMode) ++ field "hop_count" (writeU8 hopCount)

def readRouteMembers (content : Value ν) : Option (UInt8 × UInt8) := do
  let members ← readRecord ["hash_mode", "hop_count"] content
  let hashMode ← readMember asU8 (findKey "hash_mode" members)
  let hopCount ← readMember asU8 (findKey "hop_count" members)
  return (hashMode, hopCount)

/-- `ContactRouteData` has the variants of `ContactRoute`. -/
def writeContactRoute : ContactRoute → Value ν
  | .flood => tagged "kind" "flood" []
  | .path hashMode hopCount => tagged "kind" "path" (routeMembers hashMode hopCount)

def readContactRoute : Option ContactRoute := do
  match ← readTagged "kind" value with
  | ("flood", _) => some .flood
  | ("path", content) => do
    let (hashMode, hopCount) ← readRouteMembers content
    return .path hashMode hopCount
  | _ => none

structure ContactData where
  publicKey : String
  contactType : ContactType
  flags : UInt8
  route : ContactRoute
  outPath : String
  advName : String
  lastAdvert : UInt32
  advLat : Float
  advLon : Float
  lastmod : UInt32

structure ContactsData where
  contacts : List ContactData
  lastmod : UInt32

/-- `From<&Contact>`. -/
def ContactData.ofContact (value : Contact) : ContactData where
  publicKey := hexEncode value.publicKey.val
  contactType := value.contactType
  flags := value.flags
  route := value.route
  outPath := hexEncode value.outPath.bytes
  advName := value.advName
  lastAdvert := value.lastAdvert
  advLat := value.advLat
  advLon := value.advLon
  lastmod := value.lastmod

/-- `From<ContactSnapshot>`. -/
def ContactsData.ofSnapshot (value : ContactSnapshot) : ContactsData where
  contacts := value.contacts.map ContactData.ofContact
  lastmod := value.lastmod

def ContactData.write (data : ContactData) : Value ν :=
  record (field "public_key" (.string data.publicKey) ++
    field "contact_type" (writeContactType data.contactType) ++
    field "flags" (writeU8 data.flags) ++
    field "route" (writeContactRoute data.route) ++
    field "out_path" (.string data.outPath) ++
    field "adv_name" (.string data.advName) ++
    field "last_advert" (writeU32 data.lastAdvert) ++
    field "adv_lat" (writeF64 wire data.advLat) ++
    field "adv_lon" (writeF64 wire data.advLon) ++
    field "lastmod" (writeU32 data.lastmod))

def ContactData.read : Option ContactData := do
  let members ← readRecord ["public_key", "contact_type", "flags", "route", "out_path", "adv_name",
    "last_advert", "adv_lat", "adv_lon", "lastmod"] value
  let publicKey ← readMember asString (findKey "public_key" members)
  let contactType ← readMember readContactType (findKey "contact_type" members)
  let flags ← readMember asU8 (findKey "flags" members)
  let route ← readMember readContactRoute (findKey "route" members)
  let outPath ← readMember asString (findKey "out_path" members)
  let advName ← readMember asString (findKey "adv_name" members)
  let lastAdvert ← readMember asU32 (findKey "last_advert" members)
  let advLat ← readMember (readF64 wire) (findKey "adv_lat" members)
  let advLon ← readMember (readF64 wire) (findKey "adv_lon" members)
  let lastmod ← readMember asU32 (findKey "lastmod" members)
  return { publicKey, contactType, flags, route, outPath, advName, lastAdvert, advLat, advLon,
           lastmod }

def ContactsData.write (data : ContactsData) : Value ν :=
  record (field "contacts" (.array (data.contacts.map (ContactData.write wire))) ++
    field "lastmod" (writeU32 data.lastmod))

def ContactsData.read (value : Value ν) : Option ContactsData := do
  let members ← readRecord ["contacts", "lastmod"] value
  let contacts ← readMember (asArray (ContactData.read wire)) (findKey "contacts" members)
  let lastmod ← readMember asU32 (findKey "lastmod" members)
  return { contacts, lastmod }

/-! ## Messages -/

/-- `MessageSourceData` has the variants of `MessageSource`. -/
def writeMessageSource : MessageSource → Value ν
  | .direct pubkeyPrefix =>
    tagged "kind" "direct" (field "pubkey_prefix" (.string pubkeyPrefix))
  | .channel channelIdx => tagged "kind" "channel" (field "channel_idx" (writeU8 channelIdx))

def readMessageSource : Option MessageSource := do
  match ← readTagged "kind" value with
  | ("direct", content) => do
    let members ← readRecord ["pubkey_prefix"] content
    let pubkeyPrefix ← readMember asString (findKey "pubkey_prefix" members)
    return .direct pubkeyPrefix
  | ("channel", content) => do
    let members ← readRecord ["channel_idx"] content
    let channelIdx ← readMember asU8 (findKey "channel_idx" members)
    return .channel channelIdx
  | _ => none

/-- `MessageRouteData` has the variants of `MessageRoute`. -/
def writeMessageRoute : MessageRoute → Value ν
  | .direct => tagged "kind" "direct" []
  | .path hashMode hopCount => tagged "kind" "path" (routeMembers hashMode hopCount)

def readMessageRoute : Option MessageRoute := do
  match ← readTagged "kind" value with
  | ("direct", _) => some .direct
  | ("path", content) => do
    let (hashMode, hopCount) ← readRouteMembers content
    return .path hashMode hopCount
  | _ => none

/-- `MessageStatusData` has the variants of `MessageStatus`. -/
def writeMessageStatus : MessageStatus → Value ν
  | .received => tagged "kind" "received" []
  | .queued => tagged "kind" "queued" []
  | .sent suggestedTimeoutMs =>
    tagged "kind" "sent" (optionalField "suggested_timeout_ms" (suggestedTimeoutMs.map writeU32))
  | .acked => tagged "kind" "acked" []
  | .failed reason => tagged "kind" "failed" (field "reason" (.string reason))

def readMessageStatus : Option MessageStatus := do
  match ← readTagged "kind" value with
  | ("received", _) => some .received
  | ("queued", _) => some .queued
  | ("sent", content) => do
    let members ← readRecord ["suggested_timeout_ms"] content
    let suggestedTimeoutMs ← readOptional asU32 (findKey "suggested_timeout_ms" members)
    return .sent suggestedTimeoutMs
  | ("acked", _) => some .acked
  | ("failed", content) => do
    let members ← readRecord ["reason"] content
    let reason ← readMember asString (findKey "reason" members)
    return .failed reason
  | _ => none

structure IncomingMessageData where
  source : MessageSource
  route : MessageRoute
  txtType : UInt8
  senderTimestamp : UInt32
  signature : Option String
  text : String
  snr : Option Float32
  status : MessageStatus

/-- `to_ascii_lowercase` of the key prefix of a direct message. -/
def lowercaseSource : MessageSource → MessageSource
  | .direct pubkeyPrefix => .direct pubkeyPrefix.toLower
  | .channel channelIdx => .channel channelIdx

/-- `From<Message>`. -/
def IncomingMessageData.ofMessage (value : Message) : IncomingMessageData where
  source := lowercaseSource value.source
  route := value.route
  txtType := value.txtType
  senderTimestamp := value.senderTimestamp
  signature := value.signature.map fun bytes => hexEncode bytes.val
  text := value.text
  snr := value.snr
  status := value.status

def IncomingMessageData.write (data : IncomingMessageData) : Value ν :=
  record (field "source" (writeMessageSource data.source) ++
    field "route" (writeMessageRoute data.route) ++
    field "txt_type" (writeU8 data.txtType) ++
    field "sender_timestamp" (writeU32 data.senderTimestamp) ++
    optionalField "signature" (data.signature.map .string) ++
    field "text" (.string data.text) ++
    optionalField "snr" (data.snr.map (writeF32 wire)) ++
    field "status" (writeMessageStatus data.status))

def IncomingMessageData.read : Option IncomingMessageData := do
  let members ← readRecord ["source", "route", "txt_type", "sender_timestamp", "signature", "text",
    "snr", "status"] value
  let source ← readMember readMessageSource (findKey "source" members)
  let route ← readMember readMessageRoute (findKey "route" members)
  let txtType ← readMember asU8 (findKey "txt_type" members)
  let senderTimestamp ← readMember asU32 (findKey "sender_timestamp" members)
  let signature ← readOptional asString (findKey "signature" members)
  let text ← readMember asString (findKey "text" members)
  let snr ← readOptional (readF32 wire) (findKey "snr" members)
  let status ← readMember readMessageStatus (findKey "status" members)
  return { source, route, txtType, senderTimestamp, signature, text, snr, status }

structure AckData where
  code : String
  tripTimeMs : Option UInt32
deriving DecidableEq

/-- `From<Ack>`. -/
def AckData.ofAck (value : Ack) : AckData where
  code := hexEncode value.code.val
  tripTimeMs := value.tripTimeMs

def AckData.write (data : AckData) : Value ν :=
  record (field "code" (.string data.code) ++
    optionalField "trip_time_ms" (data.tripTimeMs.map writeU32))

def AckData.read : Option AckData := do
  let members ← readRecord ["code", "trip_time_ms"] value
  let code ← readMember asString (findKey "code" members)
  let tripTimeMs ← readOptional asU32 (findKey "trip_time_ms" members)
  return { code, tripTimeMs }

/-! ## Telemetry -/

inductive TelemetryData where
  | battery (level : UInt16) (usedKb totalKb : Option UInt32)
  | statsCore (batteryMv : UInt16) (uptimeSeconds : UInt32) (errors : UInt16)
      (queueLength : UInt8)
  | statsRadio (noiseFloor : Int16) (lastRssi : Int8) (lastSnr : Float32)
      (txAirtimeSeconds rxAirtimeSeconds : UInt32)
  | statsPackets (recv sent floodRecv floodSent directRecv directSent : UInt32)
      (recvErrors : Option UInt32)
  | rawCayenneLpp (sourcePubkeyPrefix payload : String)

namespace TelemetryData

/-- `From<DeviceStats>`. -/
def ofStats : DeviceStats → TelemetryData
  | .core batteryMv uptimeSeconds errors queueLength =>
    .statsCore batteryMv uptimeSeconds errors queueLength
  | .radio noiseFloor lastRssi lastSnr txAirtimeSeconds rxAirtimeSeconds =>
    .statsRadio noiseFloor lastRssi lastSnr txAirtimeSeconds rxAirtimeSeconds
  | .packets recv sent floodRecv floodSent directRecv directSent recvErrors =>
    .statsPackets recv sent floodRecv floodSent directRecv directSent recvErrors

/-- `From<TelemetryResponse>`. -/
def ofResponse (value : TelemetryResponse) : TelemetryData :=
  .rawCayenneLpp (hexEncode value.pubkeyPrefix.val) (hexEncode value.payload)

def write : TelemetryData → Value ν
  | .battery level usedKb totalKb => tagged "kind" "battery"
      (field "level" (writeU16 level) ++ optionalField "used_kb" (usedKb.map writeU32) ++
        optionalField "total_kb" (totalKb.map writeU32))
  | .statsCore batteryMv uptimeSeconds errors queueLength => tagged "kind" "stats_core"
      (field "battery_mv" (writeU16 batteryMv) ++
        field "uptime_seconds" (writeU32 uptimeSeconds) ++ field "errors" (writeU16 errors) ++
        field "queue_length" (writeU8 queueLength))
  | .statsRadio noiseFloor lastRssi lastSnr txAirtimeSeconds rxAirtimeSeconds =>
    tagged "kind" "stats_radio"
      (field "noise_floor" (writeI16 noiseFloor) ++ field "last_rssi" (writeI8 lastRssi) ++
        field "last_snr" (writeF32 wire lastSnr) ++
        field "tx_airtime_seconds" (writeU32 txAirtimeSeconds) ++
        field "rx_airtime_seconds" (writeU32 rxAirtimeSeconds))
  | .statsPackets recv sent floodRecv floodSent directRecv directSent recvErrors =>
    tagged "kind" "stats_packets"
      (field "recv" (writeU32 recv) ++ field "sent" (writeU32 sent) ++
        field "flood_recv" (writeU32 floodRecv) ++ field "flood_sent" (writeU32 floodSent) ++
        field "direct_recv" (writeU32 directRecv) ++ field "direct_sent" (writeU32 directSent) ++
        optionalField "recv_errors" (recvErrors.map writeU32))
  | .rawCayenneLpp sourcePubkeyPrefix payload => tagged "kind" "raw_cayenne_lpp"
      (field "source_pubkey_prefix" (.string sourcePubkeyPrefix) ++
        field "payload" (.string payload))

def read (value : Value ν) : Option TelemetryData := do
  match ← readTagged "kind" value with
  | ("battery", content) => do
    let members ← readRecord ["level", "used_kb", "total_kb"] content
    let level ← readMember asU16 (findKey "level" members)
    let usedKb ← readOptional asU32 (findKey "used_kb" members)
    let totalKb ← readOptional asU32 (findKey "total_kb" members)
    return .battery level usedKb totalKb
  | ("stats_core", content) => do
    let members ← readRecord ["battery_mv", "uptime_seconds", "errors", "queue_length"] content
    let batteryMv ← readMember asU16 (findKey "battery_mv" members)
    let uptimeSeconds ← readMember asU32 (findKey "uptime_seconds" members)
    let errors ← readMember asU16 (findKey "errors" members)
    let queueLength ← readMember asU8 (findKey "queue_length" members)
    return .statsCore batteryMv uptimeSeconds errors queueLength
  | ("stats_radio", content) => do
    let members ← readRecord ["noise_floor", "last_rssi", "last_snr", "tx_airtime_seconds",
      "rx_airtime_seconds"] content
    let noiseFloor ← readMember asI16 (findKey "noise_floor" members)
    let lastRssi ← readMember asI8 (findKey "last_rssi" members)
    let lastSnr ← readMember (readF32 wire) (findKey "last_snr" members)
    let txAirtimeSeconds ← readMember asU32 (findKey "tx_airtime_seconds" members)
    let rxAirtimeSeconds ← readMember asU32 (findKey "rx_airtime_seconds" members)
    return .statsRadio noiseFloor lastRssi lastSnr txAirtimeSeconds rxAirtimeSeconds
  | ("stats_packets", content) => do
    let members ← readRecord ["recv", "sent", "flood_recv", "flood_sent", "direct_recv",
      "direct_sent", "recv_errors"] content
    let recv ← readMember asU32 (findKey "recv" members)
    let sent ← readMember asU32 (findKey "sent" members)
    let floodRecv ← readMember asU32 (findKey "flood_recv" members)
    let floodSent ← readMember asU32 (findKey "flood_sent" members)
    let directRecv ← readMember asU32 (findKey "direct_recv" members)
    let directSent ← readMember asU32 (findKey "direct_sent" members)
    let recvErrors ← readOptional asU32 (findKey "recv_errors" members)
    return .statsPackets recv sent floodRecv floodSent directRecv directSent recvErrors
  | ("raw_cayenne_lpp", content) => do
    let members ← readRecord ["source_pubkey_prefix", "payload"] content
    let sourcePubkeyPrefix ← readMember asString (findKey "source_pubkey_prefix" members)
    let payload ← readMember asString (findKey "payload" members)
    return .rawCayenneLpp sourcePubkeyPrefix payload
  | _ => none

end TelemetryData

/-! ## Publications -/

inductive Publication where
  | incomingMessage (data : IncomingMessageData)
  | ack (data : AckData)
  | connectionState (data : ConnectionStateData)
  | contacts (data : ContactsData)
  | telemetry (data : TelemetryData)

namespace Publication

def kind : Publication → EventKind
  | .incomingMessage _ => .incomingMessage
  | .ack _ => .ack
  | .connectionState _ => .connectionState
  | .contacts _ => .contacts
  | .telemetry _ => .telemetry

/-- Events that are not published give nothing. -/
def fromCoreEvent : Event → Option Publication
  | .connected => some (.connectionState
      { component := .meshCore, status := .connected, reason := none })
  | .disconnected => some (.connectionState
      { component := .meshCore, status := .disconnected, reason := none })
  | .contacts rows lastmod => some (.contacts (.ofSnapshot { contacts := rows, lastmod }))
  | .message message => some (.incomingMessage (.ofMessage message))
  | .ack receipt => some (.ack (.ofAck receipt))
  | .battery level usedKb totalKb => some (.telemetry (.battery level usedKb totalKb))
  | .deviceStats stats => some (.telemetry (.ofStats stats))
  | .telemetry response => some (.telemetry (.ofResponse response))
  | _ => none

def dataValue : Publication → Value ν
  | .incomingMessage data => data.write wire
  | .ack data => data.write
  | .connectionState data => data.write
  | .contacts data => data.write wire
  | .telemetry data => data.write wire

end Publication

/-! ## Checks of the data -/

inductive SchemaError where
  | json
  | unsupportedSchema (schema : String)
  | nilEventId
  | invalidOrigin
  | dataMustBeObject
  | invalidEventData
  | invalidWireData (reason : String)
deriving DecidableEq

def isLowerHexDigit (byte : UInt8) : Bool :=
  (0x30 ≤ byte && byte ≤ 0x39) || (0x61 ≤ byte && byte ≤ 0x66)

def isLowerHexExact (value : String) (bytes : Nat) : Bool :=
  value.utf8ByteSize = bytes * 2 && (utf8 value).all isLowerHexDigit

def isLowerHexBounded (value : String) (maximumBytes : Nat) : Bool :=
  value.utf8ByteSize % 2 = 0 && value.utf8ByteSize / 2 ≤ maximumBytes &&
    (utf8 value).all isLowerHexDigit

/-- A check that fails with this error. -/
def ensureWire (condition : Bool) (error : SchemaError) : Except SchemaError Unit :=
  if condition then .ok () else .error error

/-- `deserialize_data`. -/
def deserializeData {α : Type} (read : Value ν → Option α) (data : Value ν) :
    Except SchemaError α :=
  match read data with
  | some value => .ok value
  | none => .error .invalidEventData

/-- Whether a source is a channel or a key prefix in six lowercase bytes. -/
def isWireSource : MessageSource → Bool
  | .direct pubkeyPrefix => isLowerHexExact pubkeyPrefix 6
  | .channel _ => true

def validateIncomingMessage (value : IncomingMessageData) : Except SchemaError Unit := do
  ensureWire (isWireSource value.source)
    (.invalidWireData "incoming message public-key prefix must be six lowercase-hex bytes")
  ensureWire (value.signature.all fun signature => isLowerHexExact signature 4)
    (.invalidWireData "incoming message signature must be four lowercase-hex bytes")

def validateContacts : List ContactData → Except SchemaError Unit
  | [] => .ok ()
  | contact :: later => do
    ensureWire (isLowerHexExact contact.publicKey 32)
      (.invalidWireData "contact public key must be 32 lowercase-hex bytes")
    ensureWire (isLowerHexBounded contact.outPath 128)
      (.invalidWireData "contact path must be at most 128 lowercase-hex bytes")
    validateContacts later

def validateTelemetry : TelemetryData → Except SchemaError Unit
  | .rawCayenneLpp sourcePubkeyPrefix payload => do
    ensureWire (isLowerHexExact sourcePubkeyPrefix 6)
      (.invalidWireData "telemetry source must be six lowercase-hex bytes")
    ensureWire (isLowerHexBounded payload usizeMax)
      (.invalidWireData "telemetry payload must be lowercase hexadecimal")
  | _ => .ok ()

def DirectData.read : Option DirectData := do
  let members ← readRecord ["destination", "text"] value
  let destination ← readMember asString (findKey "destination" members)
  let text ← readMember asString (findKey "text" members)
  return { destination, text }

def ChannelData.read : Option ChannelData := do
  let members ← readRecord ["channel", "text"] value
  let channel ← readMember asU8 (findKey "channel" members)
  let text ← readMember asString (findKey "text" members)
  return { channel, text }

/-- The text of a command. -/
def isWireText (text : String) : Bool :=
  text ≠ "" && text.utf8ByteSize ≤ maxCommandTextBytes && !text.toList.contains '\x00'

def isWireDestination (destination : String) : Bool :=
  destination ≠ "" && destination.utf8ByteSize ≤ maxCommandDestinationBytes &&
    isTrimmed destination && !destination.toList.any isControl

def validateEventData (kind : EventKind) (data : Value ν) : Except SchemaError Unit :=
  match kind with
  | .incomingMessage => do
    validateIncomingMessage (← deserializeData (IncomingMessageData.read wire) data)
  | .ack => do
    let value ← deserializeData AckData.read data
    ensureWire (isLowerHexExact value.code 4)
      (.invalidWireData "acknowledgement code must be four lowercase-hex bytes")
  | .connectionState => do
    let _ ← deserializeData ConnectionStateData.read data
    return ()
  | .contacts => do
    let value ← deserializeData (ContactsData.read wire) data
    validateContacts value.contacts
  | .telemetry => do
    validateTelemetry (← deserializeData (TelemetryData.read wire) data)
  | .sendDirect => do
    let value ← deserializeData DirectData.read data
    ensureWire (isWireDestination value.destination && isWireText value.text)
      (.invalidWireData "direct command destination or text is invalid")
  | .sendChannel => do
    let value ← deserializeData ChannelData.read data
    ensureWire (isWireText value.text) (.invalidWireData "channel command text is invalid")

/-! ## Envelopes -/

/-- `EventEnvelope`. -/
structure EventEnvelope (ν : Type) where
  schema : String
  eventId : Uuid
  origin : String
  timestamp : UInt64
  kind : EventKind
  data : Value ν

/-- `Value::is_object`. -/
def isObject : Value ν → Bool
  | .object _ => true
  | _ => false

/-- `deserialize_canonical_uuid`. -/
def readCanonicalUuid : Option Uuid := do
  let text ← asString value
  let eventId ← wire.parseStr text
  let canonical := renderUuid eventId
  if text.utf8ByteSize = canonical.utf8ByteSize ∧ text.toLower = canonical.toLower then
    some eventId
  else none

namespace EventEnvelope

variable (envelope : EventEnvelope ν)

def validate : Except SchemaError Unit := do
  ensureWire (envelope.schema = schemaVersion) (.unsupportedSchema envelope.schema)
  ensureWire (envelope.eventId ≠ 0) .nilEventId
  ensureWire (validateOrigin envelope.origin) .invalidOrigin
  ensureWire (isObject envelope.data) .dataMustBeObject
  validateEventData wire envelope.kind envelope.data

def new (eventId : Uuid) (origin : String) (timestamp : UInt64) (kind : EventKind)
    (data : Value ν) : Except SchemaError (EventEnvelope ν) := do
  let envelope := { schema := schemaVersion, eventId, origin, timestamp, kind, data }
  envelope.validate wire
  return envelope

def fromPublication (eventId : Uuid) (origin : String) (timestamp : UInt64)
    (publication : Publication) : Except SchemaError (EventEnvelope ν) :=
  new wire eventId origin timestamp publication.kind (publication.dataValue wire)

/-- What is written of an envelope, in the order of its fields. -/
def document : Value ν :=
  .object (field "schema" (.string envelope.schema) ++
    field "event_id" (.string (renderUuid envelope.eventId)) ++
    field "origin" (.string envelope.origin) ++
    field "timestamp" (writeU64 envelope.timestamp) ++
    field "type" (.string envelope.kind.name) ++
    field "data" envelope.data)

def read (document : Value ν) : Option (EventEnvelope ν) := do
  let members ← readRecord ["schema", "event_id", "origin", "timestamp", "type", "data"] document
  let schema ← readMember asString (findKey "schema" members)
  let eventId ← readMember (readCanonicalUuid wire) (findKey "event_id" members)
  let origin ← readMember asString (findKey "origin" members)
  let timestamp ← readMember asU64 (findKey "timestamp" members)
  let kind ← readMember EventKind.read (findKey "type" members)
  let data ← findKey "data" members
  return { schema, eventId, origin, timestamp, kind, data }

def encode : Except SchemaError Bytes := do
  envelope.validate wire
  return wire.toVec envelope.document

def decode (payload : Bytes) : Except SchemaError (EventEnvelope ν) :=
  match (wire.fromSlice payload).bind (read wire) with
  | none => .error .json
  | some envelope => do
    envelope.validate wire
    return envelope

end EventEnvelope

end Meshquill.Mqtt
