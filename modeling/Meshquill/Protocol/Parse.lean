import Meshquill.Protocol.Packet

/-!
# The packet parser

`Packet::parse` and the parsers behind it, in the order of `protocol.rs`. A slice index
that the source writes as `raw[i]` or `&raw[a..b]` is a read that can panic here, kept
apart from the errors the parser returns, so that the absence of panics is a statement
about these definitions rather than an assumption in them.

Offsets and lengths are natural numbers. Where one is computed from the bytes of the packet,
its width is checked, since the source would panic on overflow.
-/
namespace Meshquill

/-- Why a parser did not return a packet. -/
inductive Fault where
  | rejected (error : ParseError)
  | panicked
deriving DecidableEq

abbrev Parse := Except Fault

namespace Parse

def reject (error : ParseError) : Parse α := .error (.rejected error)

/-- `raw[index]`. -/
def byteAt (raw : Bytes) (index : Nat) : Parse UInt8 :=
  match raw[index]? with
  | some byte => .ok byte
  | none => .error .panicked

/-- `&raw[start..stop]`. -/
def slice (raw : Bytes) (start stop : Nat) : Parse Bytes :=
  if start ≤ stop ∧ stop ≤ raw.length then .ok ((raw.take stop).drop start)
  else .error .panicked

/-- `copy_from_slice` into a fixed array, and `try_into` where the source has already
fixed the length. -/
def octets (n : Nat) (bytes : Bytes) : Parse (Octets n) :=
  if exact : bytes.length = n then .ok ⟨bytes, exact⟩ else .error .panicked

/-- `left - right` on `usize`. -/
def subtract (left right : Nat) : Parse Nat :=
  if right ≤ left then .ok (left - right) else .error .panicked

/-- A sum or a product on an unsigned type. `usize` has at least 16 bits on every target. -/
def fits (bits value : Nat) : Parse Nat :=
  if value < 1 <<< bits then .ok value else .error .panicked

end Parse

/-- `u16::from_le_bytes`. -/
def u16FromLe (b0 b1 : UInt8) : UInt16 := UInt16.ofNat (b0.toNat + 256 * b1.toNat)

/-- `u32::from_le_bytes`. -/
def u32FromLe (b0 b1 b2 b3 : UInt8) : UInt32 :=
  UInt32.ofNat (b0.toNat + 256 * (b1.toNat + 256 * (b2.toNat + 256 * b3.toNat)))

/-- One lowercase hexadecimal digit. -/
def hexDigit (value : Nat) : Char :=
  if value < 10 then Char.ofNat (48 + value) else Char.ofNat (87 + value)

/-- `hex::encode`, as its crate describes it. -/
def hexEncode (bytes : Bytes) : String :=
  String.ofList (bytes.flatMap fun byte => [hexDigit (byte.toNat / 16), hexDigit (byte.toNat % 16)])

/-- `String::from_utf8`. -/
def fromUtf8 (bytes : Bytes) : Option String := String.fromUTF8? ⟨bytes.toArray⟩

/-- `str::split_once` on a character. -/
def splitOnce (separator : Char) : List Char → Option (List Char × List Char)
  | [] => none
  | first :: rest =>
      if first = separator then some ([], rest)
      else (splitOnce separator rest).map fun parts => (first :: parts.1, parts.2)

open Parse

variable (raw : Bytes) (offset : Nat)

def readU32 : Parse UInt32 := do
  let b0 ← byteAt raw offset
  let b1 ← byteAt raw (offset + 1)
  let b2 ← byteAt raw (offset + 2)
  let b3 ← byteAt raw (offset + 3)
  return u32FromLe b0 b1 b2 b3

def readU16 : Parse UInt16 := do
  let b0 ← byteAt raw offset
  let b1 ← byteAt raw (offset + 1)
  return u16FromLe b0 b1

def readI16 : Parse Int16 := do
  return (← readU16 raw offset).toInt16

/-- `i8::from_le_bytes([raw[offset]])`. -/
def readI8 : Parse Int8 := do
  return (← byteAt raw offset).toInt8

/-- `parse_scaled_i32` of the four bytes at an offset. -/
def parseScaledI32 : Parse Float := do
  return (← readU32 raw offset).toInt32.toFloat / 1000000

/-- Signed quarter-decibel byte as decibels. -/
def snrOfByte (quarters : Int8) : Float32 := quarters.toFloat32 / 4

def requireLen (minimum : Nat) (code : PacketCode) : Parse Unit :=
  if raw.length < minimum then reject (.invalidPacketLength code.toU8 minimum raw.length)
  else .ok ()

def requireExactLen (expected : Nat) (code : PacketCode) : Parse Unit := do
  requireLen raw expected code
  if raw.length ≠ expected then reject (.malformed "packet contains unexpected trailing bytes")

def decodePaddedString (context : String) : Parse String :=
  match fromUtf8 (raw.takeWhile (· ≠ 0)) with
  | some text => .ok text
  | none => reject (.invalidUtf8Payload context)

def decodeText (context : String) : Parse String :=
  match fromUtf8 raw with
  | some text => .ok text
  | none => reject (.invalidUtf8Payload context)

def messageRoute (routeByte : UInt8) : MessageRoute :=
  if routeByte = 0xff then .direct else .path (routeByte >>> 6) (routeByte &&& 0x3f)

/-- The route a descriptor byte encodes, with the number of path bytes it announces. -/
def descriptorRoute (descriptor : UInt8) : ContactRoute × Nat :=
  if descriptor = 0xff then (.flood, 0)
  else
    let hashMode := descriptor >>> 6
    let hopCount := descriptor &&& 0x3f
    (.path hashMode hopCount, hopCount.toNat * (hashMode.toNat + 1))

def parseOk : Parse Packet :=
  match raw with
  | [_] => .ok (.ok none)
  | [_, one, two, three, four] => .ok (.ok (some (u32FromLe one two three four)))
  | _ => reject (.malformed "OK packet must contain either no value or one complete u32 value")

def parseError : Packet := .error raw[1]?

def parsePrivateKey : Parse Packet := do
  requireExactLen raw 65 .privateKey
  return .privateKey (← octets 64 (← slice raw 1 raw.length))

def parseDisabled : Parse Packet := do
  requireExactLen raw 1 .disabled
  return .disabled

def parseSignStart : Parse Packet := do
  requireExactLen raw 6 .signStart
  if (← byteAt raw 1) ≠ 0 then reject (.malformed "sign-start reserved byte must be zero")
  return .signStart (← readU32 raw 2)

def parseSignature : Parse Packet := do
  requireExactLen raw 65 .signature
  return .signature (← octets 64 (← slice raw 1 raw.length))

def parseLoginSuccess : Parse Packet := do
  if raw.length ∉ [8, 12, 13, 14] then
    requireLen raw 8 .loginSuccess
    reject (.malformed "login-success packet has a partial or unexpected extension")
  let pubkeyPrefix ← octets 6 (← slice raw 2 8)
  let permissions ← byteAt raw 1
  let serverTimestamp ← if raw.length ≥ 12 then some <$> readU32 raw 8 else pure none
  return .loginSuccess
    { permissions, pubkeyPrefix, serverTimestamp
      aclPermissions := raw[12]?
      firmwareVersionLevel := raw[13]? }

def parseLoginFailed : Parse Packet := do
  requireExactLen raw 8 .loginFailed
  if (← byteAt raw 1) ≠ 0 then reject (.malformed "login-failed reserved byte must be zero")
  return .loginFailed (← octets 6 (← slice raw 2 8))

def parseRemoteStatus : Parse Packet := do
  if raw.length ∉ [60, 64] then
    requireLen raw 60 .statusResponse
    reject (.malformed "status response must contain the legacy or current complete layout")
  if (← byteAt raw 1) ≠ 0 then reject (.malformed "status-response reserved byte must be zero")
  let pubkeyPrefix ← octets 6 (← slice raw 2 8)
  let offset := 8
  let batteryMv ← readU16 raw offset
  let txQueueLength ← readU16 raw (offset + 2)
  let noiseFloor ← readI16 raw (offset + 4)
  let lastRssi ← readI16 raw (offset + 6)
  let packetsReceived ← readU32 raw (offset + 8)
  let packetsSent ← readU32 raw (offset + 12)
  let txAirtimeSeconds ← readU32 raw (offset + 16)
  let uptimeSeconds ← readU32 raw (offset + 20)
  let sentFlood ← readU32 raw (offset + 24)
  let sentDirect ← readU32 raw (offset + 28)
  let receivedFlood ← readU32 raw (offset + 32)
  let receivedDirect ← readU32 raw (offset + 36)
  let errorEvents ← readU16 raw (offset + 40)
  let lastSnr := (← readI16 raw (offset + 42)).toFloat32 / 4
  let directDuplicates ← readU16 raw (offset + 44)
  let floodDuplicates ← readU16 raw (offset + 46)
  let rxAirtimeSeconds ← readU32 raw (offset + 48)
  let receiveErrors ← if raw.length = 64 then some <$> readU32 raw (offset + 52) else pure none
  return .remoteStatus
    { pubkeyPrefix, batteryMv, txQueueLength, noiseFloor, lastRssi, packetsReceived, packetsSent
      txAirtimeSeconds, uptimeSeconds, sentFlood, sentDirect, receivedFlood, receivedDirect
      errorEvents, lastSnr, directDuplicates, floodDuplicates, rxAirtimeSeconds, receiveErrors }

def parseTelemetryResponse : Parse Packet := do
  requireLen raw 8 .telemetryResponse
  if (← byteAt raw 1) ≠ 0 then reject (.malformed "telemetry-response reserved byte must be zero")
  let pubkeyPrefix ← octets 6 (← slice raw 2 8)
  return .telemetryResponse { pubkeyPrefix, payload := ← slice raw 8 raw.length }

def parseBinaryResponse : Parse Packet := do
  requireLen raw 6 .binaryResponse
  if (← byteAt raw 1) ≠ 0 then reject (.malformed "binary-response reserved byte must be zero")
  let tag ← octets 4 (← slice raw 2 6)
  return .binaryResponse { tag, payload := ← slice raw 6 raw.length }

def parseControlData : Parse Packet := do
  requireLen raw 5 .controlData
  let snrQdb ← readI8 raw 1
  let rssi ← readI8 raw 2
  let pathLen ← byteAt raw 3
  return .controlData { snrQdb, rssi, pathLen, payload := ← slice raw 4 raw.length }

/-- One descriptor-prefixed path at a cursor, with the cursor after it. -/
def parseDiscoveredPath (cursor : Nat) : Parse ((ContactRoute × Path) × Nat) := do
  let descriptor ← match raw[cursor]? with
    | some descriptor => pure descriptor
    | none => reject (.malformed "path-discovery response is missing a route descriptor")
  let cursor := cursor + 1
  let (route, byteLen) := descriptorRoute descriptor
  let stop := cursor + byteLen
  if stop > raw.length then
    reject (.malformed "path-discovery response contains a truncated path")
  let bytes ← slice raw cursor stop
  match Path.tryFromBytes bytes with
  | some path => return ((route, path), stop)
  | none => reject (.malformed "path-discovery response exceeds supported path bytes")

def parsePathDiscovery : Parse Packet := do
  requireLen raw 10 .pathDiscoveryResponse
  if (← byteAt raw 1) ≠ 0 then reject (.malformed "path-discovery reserved byte must be zero")
  let pubkeyPrefix ← octets 6 (← slice raw 2 8)
  let ((outboundRoute, outboundPath), cursor) ← parseDiscoveredPath raw 8
  let ((inboundRoute, inboundPath), cursor) ← parseDiscoveredPath raw cursor
  if cursor ≠ raw.length then
    reject (.malformed "path-discovery response contains trailing bytes")
  return .pathDiscovery { pubkeyPrefix, outboundRoute, outboundPath, inboundRoute, inboundPath }

def parseContactStart : Parse Packet := do
  requireLen raw 5 .contactStart
  return .contactStart (← readU32 raw 1)

def parseContact : Parse Packet := do
  requireLen raw 148 .contact
  let publicKey ← octets 32 (← slice raw 1 33)
  let contactType := ContactType.fromU8 (← byteAt raw 33)
  let flags ← byteAt raw 34
  let routeByte ← byteAt raw 35
  let (route, used) := descriptorRoute routeByte
  let usedPathBytes ← fits 16 used
  if usedPathBytes > 64 then
    reject (.malformed "contact path descriptor exceeds fixed path field")
  let outPath ← match Path.tryFromBytes (← slice raw 36 (← fits 16 (36 + usedPathBytes))) with
    | some path => pure path
    | none => reject (.malformed "invalid contact path")
  let advName ← decodePaddedString (← slice raw 100 132) "Contact.adv_name"
  let lastAdvert ← readU32 raw 132
  let advLat ← parseScaledI32 raw 136
  let advLon ← parseScaledI32 raw 140
  let lastmod ← readU32 raw 144
  return .contact
    { publicKey, contactType, flags, route, outPath, advName, lastAdvert, advLat, advLon, lastmod }

def parseContactEnd : Parse Packet := do
  requireLen raw 5 .contactEnd
  return .contactEnd (← readU32 raw 1)

def parseSelfInfo : Parse Packet := do
  requireLen raw 58 .selfInfo
  let publicKey ← octets 32 (← slice raw 4 36)
  let modes ← byteAt raw 46
  let advertisingType ← byteAt raw 1
  let txPower ← byteAt raw 2
  let maxTxPower ← byteAt raw 3
  let advLat ← parseScaledI32 raw 36
  let advLon ← parseScaledI32 raw 40
  let multiAcks ← byteAt raw 44
  let advertLocPolicy ← byteAt raw 45
  let manualAddContacts := (← byteAt raw 47) != 0
  let radioFrequencyMhz := (← readU32 raw 48).toFloat / 1000
  let radioBandwidthKhz := (← readU32 raw 52).toFloat / 1000
  let radioSpreadingFactor ← byteAt raw 56
  let radioCodingRate ← byteAt raw 57
  let name ← decodePaddedString (← slice raw 58 raw.length) "SelfInfo.name"
  return .selfInfo
    { advertisingType, txPower, maxTxPower, publicKey, advLat, advLon, multiAcks, advertLocPolicy
      telemetryModeEnv := modes >>> 4 &&& 3
      telemetryModeLoc := modes >>> 2 &&& 3
      telemetryModeBase := modes &&& 3
      manualAddContacts, radioFrequencyMhz, radioBandwidthKhz, radioSpreadingFactor
      radioCodingRate, name }

/-- The version-3 block: contact and channel limits, PIN and three padded names. -/
def parseDeviceLimits (info : DeviceInfo) : Parse DeviceInfo := do
  requireLen raw 80 .deviceInfo
  let maxContacts ← fits 16 ((← byteAt raw 2).toNat * 2)
  let channels ← byteAt raw 3
  let pin ← readU32 raw 4
  let build ← decodePaddedString (← slice raw 8 20) "DeviceInfo.firmware_build"
  let model ← decodePaddedString (← slice raw 20 60) "DeviceInfo.model"
  let version ← decodePaddedString (← slice raw 60 80) "DeviceInfo.version"
  return { info with
    maxContacts := some (UInt16.ofNat maxContacts)
    maxChannels := some channels
    blePin := some pin
    firmwareBuild := some build
    model := some model
    firmwareVersion := some version }

def parseDeviceInfo : Parse Packet := do
  requireLen raw 2 .deviceInfo
  let protocolVersion ← byteAt raw 1
  let mut info : DeviceInfo :=
    { protocolVersion, maxContacts := none, maxChannels := none, blePin := none
      firmwareBuild := none, model := none, firmwareVersion := none, repeatEnabled := none
      pathHashMode := none }
  if protocolVersion ≥ 3 then
    info ← parseDeviceLimits raw info
  if protocolVersion ≥ 9 then
    requireLen raw 81 .deviceInfo
    info := { info with repeatEnabled := some ((← byteAt raw 80) != 0) }
  if protocolVersion ≥ 10 then
    requireLen raw 82 .deviceInfo
    info := { info with pathHashMode := some (← byteAt raw 81) }
  return .deviceInfo info

def parseMsgSent : Parse Packet := do
  requireLen raw 10 .msgSent
  let expectedAck ← octets 4 (← slice raw 2 6)
  return .msgSent (← byteAt raw 1) expectedAck (← readU32 raw 6)

/-- The V3 layouts put an SNR byte and two reserved bytes before the legacy body. -/
def parseSnr (isV3 : Bool) : Parse (Option Float32 × Nat) := do
  if isV3 then return (some (snrOfByte (← readI8 raw 1)), 4) else return (none, 1)

def parseContactMsg (isV3 : Bool) : Parse Packet := do
  let code := if isV3 then PacketCode.contactMsgRecvV3 else PacketCode.contactMsgRecv
  requireLen raw (if isV3 then 16 else 13) code
  let (snr, prefixStart) ← parseSnr raw isV3
  let route := messageRoute (← byteAt raw (prefixStart + 6))
  let pubkeyPrefix := hexEncode (← slice raw prefixStart (prefixStart + 6))
  let cursor := prefixStart + 7
  let txtType ← byteAt raw cursor
  let senderTimestamp ← readU32 raw (cursor + 1)
  let cursor := cursor + 5
  let (signature, cursor) ←
    if txtType = 0x02 then do
      requireLen raw (cursor + 4) code
      pure (some (← octets 4 (← slice raw cursor (cursor + 4))), cursor + 4)
    else pure (none, cursor)
  let text ← decodeText (← slice raw cursor raw.length)
    (if isV3 then "ContactMsg.text_v3" else "ContactMsg.text")
  return .contactMsg
    { observationId := none, source := .direct pubkeyPrefix, route, txtType, senderTimestamp
      signature, text, snr, status := .received }

def parseChannelMsg (isV3 : Bool) : Parse Packet := do
  let code := if isV3 then PacketCode.channelMsgRecvV3 else PacketCode.channelMsgRecv
  requireLen raw (if isV3 then 11 else 8) code
  let (snr, cursor) ← parseSnr raw isV3
  let channelIdx ← byteAt raw cursor
  let cursor := cursor + 1
  let route := messageRoute (← byteAt raw cursor)
  let txtType ← byteAt raw (cursor + 1)
  let senderTimestamp ← readU32 raw (cursor + 2)
  let text ← decodeText (← slice raw (cursor + 6) raw.length)
    (if isV3 then "ChannelMsg.text_v3" else "ChannelMsg.text")
  return .channelMsg
    { observationId := none, source := .channel channelIdx, route, txtType, senderTimestamp
      signature := none, text, snr, status := .received }

def parseCurrentTime : Parse Packet := do
  requireExactLen raw 5 .currentTime
  return .currentTime (← readU32 raw 1)

def parseContactUri : Parse Packet := do
  requireLen raw 2 .contactUri
  let card ← slice raw 1 raw.length
  return .contactUri { uri := "meshcore://" ++ hexEncode card, card }

def parseBattery : Parse Packet := do
  requireLen raw 3 .battery
  let level ← readU16 raw 1
  if raw.length = 3 then
    return .battery { level, usedKb := none, totalKb := none }
  else if raw.length = 11 then
    let used ← readU32 raw 3
    let total ← readU32 raw 7
    return .battery { level, usedKb := some used, totalKb := some total }
  else if raw.length < 11 then
    reject (.invalidPacketLength PacketCode.battery.toU8 11 raw.length)
  else
    reject (.malformed "battery packet contains unexpected trailing bytes")

def parseTuningParams : Parse Packet := do
  requireExactLen raw 9 .tuningParams
  let rxDelay ← readU32 raw 1
  return .tuningParams { rxDelay, airtimeFactor := ← readU32 raw 5 }

/-- The entries of a custom-variable payload, after those already accepted. -/
def parseCustomEntries (entries : List CustomVariable) :
    List (List Char) → Parse (List CustomVariable)
  | [] => .ok entries
  | pair :: rest =>
      match splitOnce ':' pair with
      | none => reject (.malformed "custom-variable entry is missing its separator")
      | some (key, value) =>
          if key = [] ∨ value = [] ∨ ':' ∈ value ∨ '\x00' ∈ key ∨ '\x00' ∈ value then
            reject (.malformed "custom-variable entry is not one strict non-empty key:value pair")
          else if entries.any (fun entry => entry.key = String.ofList key) then
            reject (.malformed "custom-variable payload contains a duplicate key")
          else
            parseCustomEntries
              (entries ++ [{ key := String.ofList key, value := String.ofList value }]) rest

def parseCustomVars : Parse Packet := do
  if raw.length - 1 > 140 then
    reject (.malformed "custom-variable payload exceeds firmware response bound")
  let payload ← slice raw 1 raw.length
  match fromUtf8 payload with
  | none => reject (.invalidUtf8Payload "CustomVariables")
  | some text =>
      let entries ←
        if text.isEmpty then pure [] else parseCustomEntries [] (text.toList.splitOn ',')
      return .customVariables { raw := payload, entries }

def parseAdvertPath : Parse Packet := do
  requireLen raw 6 .advertPath
  let (route, used) := descriptorRoute (← byteAt raw 5)
  let usedPathBytes ← fits 16 used
  requireExactLen raw (← fits 16 (6 + usedPathBytes)) .advertPath
  match Path.tryFromBytes (← slice raw 6 raw.length) with
  | none => reject (.malformed "advert path exceeds supported path bytes")
  | some path => return .advertPath { receivedAt := ← readU32 raw 1, route, path }

def parseCoreStats : Parse DeviceStats := do
  requireExactLen raw 11 .stats
  return .core (← readU16 raw 2) (← readU32 raw 4) (← readU16 raw 8) (← byteAt raw 10)

def parseRadioStats : Parse DeviceStats := do
  requireExactLen raw 14 .stats
  return .radio (← readI16 raw 2) (← readI8 raw 4) (snrOfByte (← readI8 raw 5))
    (← readU32 raw 6) (← readU32 raw 10)

/-- The wire order alternates sent and received counters; the record does not. -/
def parsePacketStats : Parse DeviceStats := do
  if raw.length ∉ [26, 30] then
    requireLen raw 26 .stats
    reject (.malformed "packet statistics must use the 26- or 30-byte layout")
  let recv ← readU32 raw 2
  let sent ← readU32 raw 6
  let floodSent ← readU32 raw 10
  let directSent ← readU32 raw 14
  let floodRecv ← readU32 raw 18
  let directRecv ← readU32 raw 22
  let recvErrors ← if raw.length = 30 then some <$> readU32 raw 26 else pure none
  return .packets recv sent floodRecv floodSent directRecv directSent recvErrors

def parseStats : Parse Packet := do
  requireLen raw 2 .stats
  let subtype ← byteAt raw 1
  if subtype = 0 then return .deviceStats (← parseCoreStats raw)
  else if subtype = 1 then return .deviceStats (← parseRadioStats raw)
  else if subtype = 2 then return .deviceStats (← parsePacketStats raw)
  else reject (.malformed "unknown statistics subtype")

def parseAutoAddConfig : Parse Packet := do
  if raw.length ∉ [2, 3] then
    requireLen raw 2 .autoaddConfig
    reject (.malformed "auto-add config must use the 2- or 3-byte layout")
  let maxHops := raw[2]?
  if maxHops.any (· > 64) then
    reject (.malformed "auto-add max hops exceeds firmware bound")
  return .autoAddConfig { config := ← byteAt raw 1, maxHops }

/-- `chunks_exact(8)` of the payload, each decoded and checked in turn. -/
def parseFrequencyRanges : Bytes → Parse (List FrequencyRange)
  | b0 :: b1 :: b2 :: b3 :: b4 :: b5 :: b6 :: b7 :: rest => do
      let lowerKhz := u32FromLe b0 b1 b2 b3
      let upperKhz := u32FromLe b4 b5 b6 b7
      if lowerKhz = 0 ∨ upperKhz = 0 ∨ lowerKhz > upperKhz then
        reject (.malformed "repeat-frequency range is invalid")
      return { lowerKhz, upperKhz } :: (← parseFrequencyRanges rest)
  | _ => .ok []

def parseAllowedRepeatFrequencies : Parse Packet := do
  if (← subtract raw.length 1) % 8 ≠ 0 then
    reject (.malformed "repeat-frequency payload contains a truncated range")
  return .allowedRepeatFrequencies (← parseFrequencyRanges (← slice raw 1 raw.length))

def parseDefaultFloodScope : Parse Packet := do
  if raw.length = 1 then
    return .defaultFloodScope .unconfigured
  requireExactLen raw 48 .defaultFloodScope
  let field ← slice raw 1 32
  match field.findIdx? (· = 0) with
  | none => reject (.malformed "default flood scope name is not NUL terminated")
  | some nameEnd =>
      if nameEnd = 0 then
        reject (.malformed "configured default flood scope has an empty name")
      match fromUtf8 (← slice raw 1 (nameEnd + 1)) with
      | none => reject (.invalidUtf8Payload "DefaultFloodScope.name")
      | some name =>
          let key ← octets 16 (← slice raw 32 48)
          return .defaultFloodScope (.configured { name := some name, key })

def parseChannelInfo : Parse Packet := do
  requireLen raw 50 .channelInfo
  let idx ← byteAt raw 1
  let name ← decodePaddedString (← slice raw 2 34) "ChannelInfo.name"
  let secret ← octets 16 (← slice raw 34 50)
  return .channelInfo { idx, name, secret := some secret }

def parseAck : Parse Packet := do
  requireLen raw 5 .ack
  if 6 ≤ raw.length ∧ raw.length < 9 then
    reject (.malformed "ACK packet contains a truncated trip-time field")
  let code ← octets 4 (← slice raw 1 5)
  let tripTimeMs ← if raw.length ≥ 9 then some <$> readU32 raw 5 else pure none
  return .ack { code, tripTimeMs }

/-- `Packet::parse`. -/
def Packet.parse : Parse Packet := do
  if raw.isEmpty then reject (.malformed "empty packet")
  if raw.length > maxInnerPayload then
    reject (.oversizedPacketPayload raw.length maxInnerPayload)
  match PacketCode.fromU8 (← byteAt raw 0) with
  | .ok => parseOk raw
  | .error => pure (parseError raw)
  | .contactStart => parseContactStart raw
  | .contact => parseContact raw
  | .contactEnd => parseContactEnd raw
  | .selfInfo => parseSelfInfo raw
  | .msgSent => parseMsgSent raw
  | .contactMsgRecv => parseContactMsg raw false
  | .contactMsgRecvV3 => parseContactMsg raw true
  | .channelMsgRecv => parseChannelMsg raw false
  | .channelMsgRecvV3 => parseChannelMsg raw true
  | .currentTime => parseCurrentTime raw
  | .noMoreMsgs => pure .noMoreMsgs
  | .contactUri => parseContactUri raw
  | .battery => parseBattery raw
  | .deviceInfo => parseDeviceInfo raw
  | .privateKey => parsePrivateKey raw
  | .disabled => parseDisabled raw
  | .channelInfo => parseChannelInfo raw
  | .signStart => parseSignStart raw
  | .signature => parseSignature raw
  | .customVars => parseCustomVars raw
  | .advertPath => parseAdvertPath raw
  | .tuningParams => parseTuningParams raw
  | .stats => parseStats raw
  | .autoaddConfig => parseAutoAddConfig raw
  | .allowedRepeatFreq => parseAllowedRepeatFrequencies raw
  | .defaultFloodScope => parseDefaultFloodScope raw
  | .ack => parseAck raw
  | .messagesWaiting => pure .messagesWaiting
  | .loginSuccess => parseLoginSuccess raw
  | .loginFailed => parseLoginFailed raw
  | .statusResponse => parseRemoteStatus raw
  | .telemetryResponse => parseTelemetryResponse raw
  | .binaryResponse => parseBinaryResponse raw
  | .pathDiscoveryResponse => parsePathDiscovery raw
  | .controlData => parseControlData raw
  | .advertisement | .pathUpdate | .rawData | .logData | .traceData | .newAdvert
  | .contactDeleted | .contactsFull | .channelDataRecv =>
      return .unknown (← byteAt raw 0) (← slice raw 1 raw.length)
  | .unknown code => return .unknown code (← slice raw 1 raw.length)

end Meshquill
