import Mathlib.Data.List.Basic

/-!
# Wire values and domain records

The records that companion packets decode to, as `domain.rs` declares them. Byte
vectors are lists, `[u8; n]` is a list together with its length, and the fixed-width
integers and floats are Lean's own. Formatting, serialisation and zeroisation are not
modelled.

`ChannelInfo::secret_hash` is the first SHA-256 byte of the secret. The digest is not
modelled: the channel event carries the secret that is hashed in its place.
-/
namespace Meshquill

/-- `Vec<u8>` and `&[u8]`. -/
abbrev Bytes := List UInt8

/-- `[u8; n]`. -/
abbrev Octets (n : Nat) := { bytes : Bytes // bytes.length = n }

/-- `Uuid`, as `Uuid::as_u128` has it. -/
abbrev Uuid := BitVec 128

/-- The four-byte acknowledgement code that correlates a send with its ACK. -/
abbrev AckCode := Octets 4

/-- The code with these bytes. -/
def AckCode.ofBytes (first second third fourth : UInt8) : AckCode :=
  ⟨[first, second, third, fourth], rfl⟩

/-- Six-byte public-key prefix used to match remote responses. -/
abbrev KeyPrefix := Octets 6

abbrev PublicKey := Octets 32

abbrev PrivateKeyMaterial := Octets 64

/-- `Path::MAX_BYTES`. -/
def pathMaxBytes : Nat := 128

/-- A path never holds more than `Path::MAX_BYTES` bytes; `Path::try_from_bytes` is its
only constructor. -/
structure Path where
  bytes : Bytes
  bounded : bytes.length ≤ pathMaxBytes
deriving DecidableEq

/-- `Path::try_from_bytes`. -/
def Path.tryFromBytes (bytes : Bytes) : Option Path :=
  if bounded : bytes.length ≤ pathMaxBytes then some ⟨bytes, bounded⟩ else none

structure Scope where
  name : Option String
  key : Octets 16
deriving DecidableEq

inductive FloodScope where
  | default
  | unscoped
  | key (key : Octets 16)
deriving DecidableEq

structure BatteryInfo where
  level : UInt16
  usedKb : Option UInt32
  totalKb : Option UInt32
deriving DecidableEq

structure RadioParams where
  frequencyKhz : UInt32
  bandwidthHz : UInt32
  spreadingFactor : UInt8
  codingRate : UInt8
  repeats : Option Bool
deriving DecidableEq

structure TuningParams where
  rxDelay : UInt32
  airtimeFactor : UInt32
deriving DecidableEq

structure CustomVariable where
  key : String
  value : String
deriving DecidableEq

structure CustomVariables where
  raw : Bytes
  entries : List CustomVariable
deriving DecidableEq

/-- Route advertised for a saved contact. -/
inductive ContactRoute where
  | flood
  | path (hashMode hopCount : UInt8)
deriving DecidableEq

structure AdvertPath where
  receivedAt : UInt32
  route : ContactRoute
  path : Path
deriving DecidableEq

inductive StatsType where
  | core
  | radio
  | packets
deriving DecidableEq

inductive DeviceStats where
  | core (batteryMv : UInt16) (uptimeSeconds : UInt32) (errors : UInt16) (queueLength : UInt8)
  | radio (noiseFloor : Int16) (lastRssi : Int8) (lastSnr : Float32)
      (txAirtimeSeconds rxAirtimeSeconds : UInt32)
  | packets (recv sent floodRecv floodSent directRecv directSent : UInt32)
      (recvErrors : Option UInt32)

structure LoginSession where
  permissions : UInt8
  pubkeyPrefix : KeyPrefix
  serverTimestamp : Option UInt32
  aclPermissions : Option UInt8
  firmwareVersionLevel : Option UInt8
deriving DecidableEq

structure RemoteStatus where
  pubkeyPrefix : KeyPrefix
  batteryMv : UInt16
  txQueueLength : UInt16
  noiseFloor : Int16
  lastRssi : Int16
  packetsReceived : UInt32
  packetsSent : UInt32
  txAirtimeSeconds : UInt32
  uptimeSeconds : UInt32
  sentFlood : UInt32
  sentDirect : UInt32
  receivedFlood : UInt32
  receivedDirect : UInt32
  errorEvents : UInt16
  lastSnr : Float32
  directDuplicates : UInt16
  floodDuplicates : UInt16
  rxAirtimeSeconds : UInt32
  receiveErrors : Option UInt32

structure TelemetryResponse where
  pubkeyPrefix : KeyPrefix
  payload : Bytes
deriving DecidableEq

structure BinaryResponse where
  tag : Octets 4
  payload : Bytes
deriving DecidableEq

structure ControlData where
  snrQdb : Int8
  rssi : Int8
  pathLen : UInt8
  payload : Bytes
deriving DecidableEq

structure PathDiscovery where
  pubkeyPrefix : KeyPrefix
  outboundRoute : ContactRoute
  outboundPath : Path
  inboundRoute : ContactRoute
  inboundPath : Path
deriving DecidableEq

/-- A device signature is exactly 64 bytes. -/
abbrev Signature := Octets 64

structure AutoAddConfig where
  config : UInt8
  maxHops : Option UInt8
deriving DecidableEq

structure FrequencyRange where
  lowerKhz : UInt32
  upperKhz : UInt32
deriving DecidableEq

inductive DefaultFloodScope where
  | unconfigured
  | configured (scope : Scope)
deriving DecidableEq

structure ContactUri where
  uri : String
  card : Bytes
deriving DecidableEq

inductive ContactType where
  | chat
  | repeater
  | room
  | sensor
  | unknown (raw : UInt8)
deriving DecidableEq

/-- `ContactType::from_u8`. -/
def ContactType.fromU8 : UInt8 → ContactType
  | 0 => .chat
  | 1 => .repeater
  | 2 => .room
  | 3 => .sensor
  | other => .unknown other

structure Contact where
  publicKey : PublicKey
  contactType : ContactType
  flags : UInt8
  route : ContactRoute
  outPath : Path
  advName : String
  lastAdvert : UInt32
  advLat : Float
  advLon : Float
  lastmod : UInt32

structure ContactSnapshot where
  contacts : List Contact
  lastmod : UInt32

structure SelfInfo where
  advertisingType : UInt8
  txPower : UInt8
  maxTxPower : UInt8
  publicKey : PublicKey
  advLat : Float
  advLon : Float
  multiAcks : UInt8
  advertLocPolicy : UInt8
  telemetryModeEnv : UInt8
  telemetryModeLoc : UInt8
  telemetryModeBase : UInt8
  manualAddContacts : Bool
  radioFrequencyMhz : Float
  radioBandwidthKhz : Float
  radioSpreadingFactor : UInt8
  radioCodingRate : UInt8
  name : String

structure DeviceInfo where
  protocolVersion : UInt8
  maxContacts : Option UInt16
  maxChannels : Option UInt8
  blePin : Option UInt32
  firmwareBuild : Option String
  model : Option String
  firmwareVersion : Option String
  repeatEnabled : Option Bool
  pathHashMode : Option UInt8
deriving DecidableEq

inductive MessageStatus where
  | received
  | queued
  | sent (suggestedTimeoutMs : Option UInt32)
  | acked
  | failed (reason : String)
deriving DecidableEq

inductive MessageSource where
  | direct (pubkeyPrefix : String)
  | channel (channelIdx : UInt8)
deriving DecidableEq

inductive MessageRoute where
  | direct
  | path (hashMode hopCount : UInt8)
deriving DecidableEq

/-- A decoded inbound message. The observation id is client-local: the parser leaves it
unset and the client fills it in. -/
structure Message where
  observationId : Option UInt64
  source : MessageSource
  route : MessageRoute
  txtType : UInt8
  senderTimestamp : UInt32
  signature : Option (Octets 4)
  text : String
  snr : Option Float32
  status : MessageStatus

structure Ack where
  code : AckCode
  tripTimeMs : Option UInt32
deriving DecidableEq

/-- Outstanding tracker state of one accepted direct send. -/
structure CommandTracking where
  ackCode : AckCode
  timeoutMs : UInt32
deriving DecidableEq

structure ChannelInfo where
  idx : UInt8
  name : String
  secret : Option (Octets 16)
deriving DecidableEq

/-- Application-level events on the client's broadcast channel. -/
inductive Event where
  | connected
  | disconnected
  | contacts (contacts : List Contact) (lastmod : UInt32)
  | selfInfo (info : SelfInfo)
  | deviceInfo (info : DeviceInfo)
  | message (message : Message)
  | channelInfo (idx : UInt8) (name : String) (hashedSecret : Option (Octets 16))
  | ack (ack : Ack)
  | messageSent (destinationType : UInt8) (ackCode : AckCode) (suggestedTimeoutMs : UInt32)
  | currentTime (timestamp : UInt32)
  | battery (level : UInt16) (usedKb totalKb : Option UInt32)
  | contactUri (uri : ContactUri)
  | tuningParams (params : TuningParams)
  | customVariables (vars : CustomVariables)
  | advertPath (path : AdvertPath)
  | deviceStats (stats : DeviceStats)
  | autoAddConfig (config : AutoAddConfig)
  | allowedRepeatFrequencies (ranges : List FrequencyRange)
  | defaultFloodScope (scope : DefaultFloodScope)
  | loginSucceeded (session : LoginSession)
  | loginFailed (pubkeyPrefix : KeyPrefix)
  | remoteStatus (status : RemoteStatus)
  | telemetry (response : TelemetryResponse)
  | binaryResponse (response : BinaryResponse)
  | controlData (data : ControlData)
  | pathDiscovery (path : PathDiscovery)
  | signature (signature : Signature)
  | inboxEmpty
  | messagesWaiting
  | protocolError (reason : String)
  | unknownPacket (code : UInt8) (payload : Bytes)

end Meshquill
