import Meshquill.Error

/-!
# Companion packets

`PacketCode`, `Packet`, `Packet::into_event` and `Packet::code` of `protocol.rs`. The
parser that produces packets from bytes is in `Protocol.Parse`.
-/
namespace Meshquill

/-- `MAX_INNER_PAYLOAD`: the longest logical companion packet. -/
def maxInnerPayload : Nat := 176

/-- Response and notification tags. -/
inductive PacketCode where
  | ok
  | error
  | contactStart
  | contact
  | contactEnd
  | selfInfo
  | msgSent
  | contactMsgRecv
  | channelMsgRecv
  | currentTime
  | noMoreMsgs
  | contactUri
  | battery
  | deviceInfo
  | privateKey
  | disabled
  | contactMsgRecvV3
  | channelMsgRecvV3
  | channelInfo
  | signStart
  | signature
  | customVars
  | advertPath
  | tuningParams
  | stats
  | autoaddConfig
  | allowedRepeatFreq
  | channelDataRecv
  | defaultFloodScope
  | advertisement
  | pathUpdate
  | ack
  | messagesWaiting
  | rawData
  | loginSuccess
  | loginFailed
  | statusResponse
  | logData
  | traceData
  | newAdvert
  | telemetryResponse
  | binaryResponse
  | pathDiscoveryResponse
  | controlData
  | contactDeleted
  | contactsFull
  | unknown (code : UInt8)
deriving DecidableEq

/-- `PacketCode::to_u8`. -/
def PacketCode.toU8 : PacketCode → UInt8
  | .ok => 0x00
  | .error => 0x01
  | .contactStart => 0x02
  | .contact => 0x03
  | .contactEnd => 0x04
  | .selfInfo => 0x05
  | .msgSent => 0x06
  | .contactMsgRecv => 0x07
  | .channelMsgRecv => 0x08
  | .currentTime => 0x09
  | .noMoreMsgs => 0x0a
  | .contactUri => 0x0b
  | .battery => 0x0c
  | .deviceInfo => 0x0d
  | .privateKey => 0x0e
  | .disabled => 0x0f
  | .contactMsgRecvV3 => 0x10
  | .channelMsgRecvV3 => 0x11
  | .channelInfo => 0x12
  | .signStart => 0x13
  | .signature => 0x14
  | .customVars => 0x15
  | .advertPath => 0x16
  | .tuningParams => 0x17
  | .stats => 0x18
  | .autoaddConfig => 0x19
  | .allowedRepeatFreq => 0x1a
  | .channelDataRecv => 0x1b
  | .defaultFloodScope => 0x1c
  | .advertisement => 0x80
  | .pathUpdate => 0x81
  | .ack => 0x82
  | .messagesWaiting => 0x83
  | .rawData => 0x84
  | .loginSuccess => 0x85
  | .loginFailed => 0x86
  | .statusResponse => 0x87
  | .logData => 0x88
  | .traceData => 0x89
  | .newAdvert => 0x8a
  | .telemetryResponse => 0x8b
  | .binaryResponse => 0x8c
  | .pathDiscoveryResponse => 0x8d
  | .controlData => 0x8e
  | .contactDeleted => 0x8f
  | .contactsFull => 0x90
  | .unknown code => code

/-- `PacketCode::from_u8`. -/
def PacketCode.fromU8 : UInt8 → PacketCode
  | 0x00 => .ok
  | 0x01 => .error
  | 0x02 => .contactStart
  | 0x03 => .contact
  | 0x04 => .contactEnd
  | 0x05 => .selfInfo
  | 0x06 => .msgSent
  | 0x07 => .contactMsgRecv
  | 0x08 => .channelMsgRecv
  | 0x09 => .currentTime
  | 0x0a => .noMoreMsgs
  | 0x0b => .contactUri
  | 0x0c => .battery
  | 0x0d => .deviceInfo
  | 0x0e => .privateKey
  | 0x0f => .disabled
  | 0x10 => .contactMsgRecvV3
  | 0x11 => .channelMsgRecvV3
  | 0x12 => .channelInfo
  | 0x13 => .signStart
  | 0x14 => .signature
  | 0x15 => .customVars
  | 0x16 => .advertPath
  | 0x17 => .tuningParams
  | 0x18 => .stats
  | 0x19 => .autoaddConfig
  | 0x1a => .allowedRepeatFreq
  | 0x1b => .channelDataRecv
  | 0x1c => .defaultFloodScope
  | 0x80 => .advertisement
  | 0x81 => .pathUpdate
  | 0x82 => .ack
  | 0x83 => .messagesWaiting
  | 0x84 => .rawData
  | 0x85 => .loginSuccess
  | 0x86 => .loginFailed
  | 0x87 => .statusResponse
  | 0x88 => .logData
  | 0x89 => .traceData
  | 0x8a => .newAdvert
  | 0x8b => .telemetryResponse
  | 0x8c => .binaryResponse
  | 0x8d => .pathDiscoveryResponse
  | 0x8e => .controlData
  | 0x8f => .contactDeleted
  | 0x90 => .contactsFull
  | other => .unknown other

/-- One parsed companion packet. -/
inductive Packet where
  | ok (value : Option UInt32)
  | error (code : Option UInt8)
  | contactStart (count : UInt32)
  | contact (contact : Contact)
  | contactEnd (lastmod : UInt32)
  | selfInfo (info : SelfInfo)
  | msgSent (destinationType : UInt8) (expectedAck : AckCode) (suggestedTimeoutMs : UInt32)
  | contactMsg (message : Message)
  | channelMsg (message : Message)
  | currentTime (timestamp : UInt32)
  | noMoreMsgs
  | contactUri (uri : ContactUri)
  | battery (info : BatteryInfo)
  | deviceInfo (info : DeviceInfo)
  | privateKey (key : PrivateKeyMaterial)
  | disabled
  | signStart (maxDataBytes : UInt32)
  | signature (signature : Signature)
  | channelInfo (info : ChannelInfo)
  | tuningParams (params : TuningParams)
  | customVariables (vars : CustomVariables)
  | advertPath (path : AdvertPath)
  | deviceStats (stats : DeviceStats)
  | autoAddConfig (config : AutoAddConfig)
  | allowedRepeatFrequencies (ranges : List FrequencyRange)
  | defaultFloodScope (scope : DefaultFloodScope)
  | ack (ack : Ack)
  | messagesWaiting
  | loginSuccess (session : LoginSession)
  | loginFailed (pubkeyPrefix : KeyPrefix)
  | remoteStatus (status : RemoteStatus)
  | telemetryResponse (response : TelemetryResponse)
  | binaryResponse (response : BinaryResponse)
  | controlData (data : ControlData)
  | pathDiscovery (path : PathDiscovery)
  | unknown (code : UInt8) (payload : Bytes)

/-- `Packet::into_event`: what a watcher sees of a packet, if anything. -/
def Packet.intoEvent : Packet → Option Event
  | .ok _ | .error _ | .contactStart _ | .privateKey _ | .disabled | .signStart _ => none
  | .contact row => some (.contacts [row] 0)
  | .contactEnd lastmod => some (.contacts [] lastmod)
  | .selfInfo info => some (.selfInfo info)
  | .msgSent destinationType expectedAck suggestedTimeoutMs =>
      some (.messageSent destinationType expectedAck suggestedTimeoutMs)
  | .contactMsg message | .channelMsg message => some (.message message)
  | .currentTime timestamp => some (.currentTime timestamp)
  | .contactUri uri => some (.contactUri uri)
  | .battery info => some (.battery info.level info.usedKb info.totalKb)
  | .deviceInfo info => some (.deviceInfo info)
  | .channelInfo info => some (.channelInfo info.idx info.name info.secret)
  | .tuningParams params => some (.tuningParams params)
  | .customVariables vars => some (.customVariables vars)
  | .advertPath path => some (.advertPath path)
  | .deviceStats stats => some (.deviceStats stats)
  | .autoAddConfig config => some (.autoAddConfig config)
  | .allowedRepeatFrequencies ranges => some (.allowedRepeatFrequencies ranges)
  | .defaultFloodScope scope => some (.defaultFloodScope scope)
  | .loginSuccess session => some (.loginSucceeded session)
  | .loginFailed pubkeyPrefix => some (.loginFailed pubkeyPrefix)
  | .remoteStatus status => some (.remoteStatus status)
  | .telemetryResponse response => some (.telemetry response)
  | .binaryResponse response => some (.binaryResponse response)
  | .controlData data => some (.controlData data)
  | .pathDiscovery path => some (.pathDiscovery path)
  | .signature bytes => some (.signature bytes)
  | .ack receipt => some (.ack receipt)
  | .noMoreMsgs => some .inboxEmpty
  | .messagesWaiting => some .messagesWaiting
  | .unknown code payload => some (.unknownPacket code payload)

/-- `Packet::code`. Both message layouts report their legacy code. -/
def Packet.code : Packet → PacketCode
  | .ok _ => .ok
  | .error _ => .error
  | .contactStart _ => .contactStart
  | .contact _ => .contact
  | .contactEnd _ => .contactEnd
  | .selfInfo _ => .selfInfo
  | .msgSent _ _ _ => .msgSent
  | .contactMsg _ => .contactMsgRecv
  | .channelMsg _ => .channelMsgRecv
  | .currentTime _ => .currentTime
  | .noMoreMsgs => .noMoreMsgs
  | .contactUri _ => .contactUri
  | .battery _ => .battery
  | .deviceInfo _ => .deviceInfo
  | .privateKey _ => .privateKey
  | .disabled => .disabled
  | .signStart _ => .signStart
  | .signature _ => .signature
  | .channelInfo _ => .channelInfo
  | .tuningParams _ => .tuningParams
  | .customVariables _ => .customVars
  | .advertPath _ => .advertPath
  | .deviceStats _ => .stats
  | .autoAddConfig _ => .autoaddConfig
  | .allowedRepeatFrequencies _ => .allowedRepeatFreq
  | .defaultFloodScope _ => .defaultFloodScope
  | .ack _ => .ack
  | .messagesWaiting => .messagesWaiting
  | .loginSuccess _ => .loginSuccess
  | .loginFailed _ => .loginFailed
  | .remoteStatus _ => .statusResponse
  | .telemetryResponse _ => .telemetryResponse
  | .binaryResponse _ => .binaryResponse
  | .controlData _ => .controlData
  | .pathDiscovery _ => .pathDiscoveryResponse
  | .unknown code _ => PacketCode.fromU8 code

/-- The message a packet carries, in either layout. -/
def Packet.message? : Packet → Option Message
  | .contactMsg message | .channelMsg message => some message
  | _ => none

end Meshquill
