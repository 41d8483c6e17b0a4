import Meshquill.Protocol.Packet

/-!
# Companion commands

`CommandCode` and the `Command` builders of `protocol.rs`. A builder that checks its
arguments returns the error the caller sees; the others always build a command.
`Command::checked` is the only place that bounds the encoded size.
-/
namespace Meshquill

inductive CommandCode where
  | appStart
  | sendTxtMsg
  | sendChannelTxtMsg
  | getContacts
  | getDeviceTime
  | setDeviceTime
  | sendSelfAdvert
  | setAdvertName
  | addUpdateContact
  | syncNextMessage
  | setRadioParams
  | setTxPower
  | resetPath
  | setAdvertLatLon
  | removeContact
  | shareContact
  | exportContact
  | importContact
  | reboot
  | getBattAndStorage
  | setTuningParams
  | deviceQuery
  | exportPrivateKey
  | importPrivateKey
  | sendRawData
  | sendLogin
  | sendStatusReq
  | hasConnection
  | logout
  | getContactByKey
  | getChannel
  | setChannel
  | signStart
  | signData
  | signFinish
  | sendTracePath
  | setDevicePin
  | setOtherParams
  | sendTelemetryReq
  | getCustomVars
  | setCustomVar
  | getAdvertPath
  | getTuningParams
  | binaryReq
  | factoryReset
  | pathDiscovery
  | setFloodScope
  | sendControlData
  | getStats
  | sendAnonReq
  | setAutoAddConfig
  | getAutoAddConfig
  | getAllowedRepeatFreq
  | setPathHashMode
  | sendChannelData
  | setDefaultFloodScope
  | getDefaultFloodScope
  | unknown (value : UInt8)
deriving DecidableEq

/-- `CommandCode::to_u8`. -/
def CommandCode.toU8 : CommandCode → UInt8
  | .appStart => 0x01
  | .sendTxtMsg => 0x02
  | .sendChannelTxtMsg => 0x03
  | .getContacts => 0x04
  | .getDeviceTime => 0x05
  | .setDeviceTime => 0x06
  | .sendSelfAdvert => 0x07
  | .setAdvertName => 0x08
  | .addUpdateContact => 0x09
  | .syncNextMessage => 0x0a
  | .setRadioParams => 0x0b
  | .setTxPower => 0x0c
  | .resetPath => 0x0d
  | .setAdvertLatLon => 0x0e
  | .removeContact => 0x0f
  | .shareContact => 0x10
  | .exportContact => 0x11
  | .importContact => 0x12
  | .reboot => 0x13
  | .getBattAndStorage => 0x14
  | .setTuningParams => 0x15
  | .deviceQuery => 0x16
  | .exportPrivateKey => 0x17
  | .importPrivateKey => 0x18
  | .sendRawData => 0x19
  | .sendLogin => 0x1a
  | .sendStatusReq => 0x1b
  | .hasConnection => 0x1c
  | .logout => 0x1d
  | .getContactByKey => 0x1e
  | .getChannel => 0x1f
  | .setChannel => 0x20
  | .signStart => 0x21
  | .signData => 0x22
  | .signFinish => 0x23
  | .sendTracePath => 0x24
  | .setDevicePin => 0x25
  | .setOtherParams => 0x26
  | .sendTelemetryReq => 0x27
  | .getCustomVars => 0x28
  | .setCustomVar => 0x29
  | .getAdvertPath => 0x2a
  | .getTuningParams => 0x2b
  | .binaryReq => 0x32
  | .factoryReset => 0x33
  | .pathDiscovery => 0x34
  | .setFloodScope => 0x36
  | .sendControlData => 0x37
  | .getStats => 0x38
  | .sendAnonReq => 0x39
  | .setAutoAddConfig => 0x3a
  | .getAutoAddConfig => 0x3b
  | .getAllowedRepeatFreq => 0x3c
  | .setPathHashMode => 0x3d
  | .sendChannelData => 0x3e
  | .setDefaultFloodScope => 0x3f
  | .getDefaultFloodScope => 0x40
  | .unknown value => value

structure Command where
  code : CommandCode
  payload : Bytes
deriving DecidableEq

/-- `str::as_bytes`. -/
def utf8 (text : String) : Bytes := text.toByteArray.data.toList

/-- `u32::to_le_bytes`. -/
def u32ToLe (value : UInt32) : Bytes :=
  [UInt8.ofNat value.toNat, UInt8.ofNat (value.toNat / 256),
    UInt8.ofNat (value.toNat / 65536), UInt8.ofNat (value.toNat / 16777216)]

/-- `Vec::resize` with zeros. -/
def resize (bytes : Bytes) (length : Nat) : Bytes :=
  bytes.take length ++ List.replicate (length - bytes.length) 0

def invalidArgument (field message : String) : Except CoreError α :=
  .error (.invalidArgument field message)

def validateTextField (value : String) (maximumBytes : Nat) (field : String) :
    Except CoreError Unit :=
  if value.isEmpty then invalidArgument field "must not be empty"
  else if (utf8 value).length > maximumBytes then
    invalidArgument field
      ("UTF-8 value is " ++ toString (utf8 value).length ++ " bytes; maximum is " ++
        toString maximumBytes)
  else .ok ()

def validateCustomComponent (value field : String) : Except CoreError Unit := do
  validateTextField value (maxInnerPayload - 2) field
  if (utf8 value).any (· ∈ [0, 58, 44]) then
    invalidArgument field "must not contain NUL, ':' or ',' wire separators"

/-- The check that four builders make on a padded name field. -/
def rejectNul (value field : String) : Except CoreError Unit :=
  if 0 ∈ utf8 value then invalidArgument field "must not contain a NUL byte" else .ok ()

def validateRange (value minimum maximum : Nat) (field : String) : Except CoreError Unit :=
  if value < minimum ∨ value > maximum then
    invalidArgument field
      ("must be between " ++ toString minimum ++ " and " ++ toString maximum ++ ", got " ++
        toString value)
  else .ok ()

/-- Degrees to signed millionths. Every caller bounds by whole degrees, so the bounds are
integers here and print as the source prints them. -/
def scaledCoordinate (value : Float) (minimum maximum : Int) (field : String) :
    Except CoreError Int32 :=
  if !value.isFinite || value < Float.ofInt minimum || value > Float.ofInt maximum then
    invalidArgument field
      ("must be finite and between " ++ toString minimum ++ " and " ++ toString maximum)
  else .ok (value * 1000000).toInt32

def contactTypeToU8 : ContactType → UInt8
  | .chat => 0
  | .repeater => 1
  | .room => 2
  | .sensor => 3
  | .unknown value => value

def encodeContactRoute (route : ContactRoute) (path : Path) : Except CoreError UInt8 :=
  match route with
  | .flood =>
      if path.bytes ≠ [] then
        invalidArgument "path" "a flood route must not contain path bytes"
      else .ok 0xff
  | .path hashMode hopCount =>
      let expected := hopCount.toNat * (hashMode.toNat + 1)
      if hashMode > 2 ∨ hopCount > 63 then
        invalidArgument "route" "hash mode must be at most 2 and hop count at most 63"
      else if path.bytes.length ≠ expected then
        invalidArgument "path"
          ("route descriptor requires " ++ toString expected ++ " bytes, got " ++
            toString path.bytes.length)
      else if expected > 64 then
        invalidArgument "path" "contact paths are limited to 64 bytes"
      else .ok ((hashMode <<< 6) ||| hopCount)

namespace Command

/-- `Command::encode` and `Command::into_encoded`. -/
def intoEncoded (command : Command) : Bytes := command.code.toU8 :: command.payload

variable (code : CommandCode)

def withoutPayload : Command := { code, payload := [] }

def checked (payload : Bytes) : Except CoreError Command :=
  let total := payload.length + 1
  if total > maxInnerPayload then
    invalidArgument "payload"
      ("encoded packet is " ++ toString total ++ " bytes; maximum is " ++ toString maxInnerPayload)
  else .ok { code, payload }

variable (publicKey : Bytes)

def requireKey : Except CoreError Unit :=
  if publicKey.length ≠ 32 then
    invalidArgument "public_key" ("expected exactly 32 bytes, got " ++ toString publicKey.length)
  else .ok ()

/-- `command_with_key`: the prefix bytes, then the exact key. -/
def withKey (publicKey lead : Bytes) : Except CoreError Command := do
  requireKey publicKey
  checked code (lead ++ publicKey)

/-- `command_with_key_suffix`: the exact key, then the suffix bytes. -/
def withKeySuffix (publicKey suffix : Bytes) : Except CoreError Command := do
  requireKey publicKey
  checked code (publicKey ++ suffix)

def appStart : Command := { code := .appStart, payload := 3 :: utf8 "      mccli" }

def deviceQuery : Command := { code := .deviceQuery, payload := [3] }

def getContacts (lastmod : Option UInt32) : Command :=
  { code := .getContacts, payload := (lastmod.map u32ToLe).getD [] }

def syncNextMessage : Command := withoutPayload .syncNextMessage

def getTime : Command := withoutPayload .getDeviceTime

def setTime (value : UInt32) : Command := { code := .setDeviceTime, payload := u32ToLe value }

def getBattery : Command := withoutPayload .getBattAndStorage

def sendSelfAdvert (flood : Bool) : Command :=
  { code := .sendSelfAdvert, payload := if flood then [1] else [] }

def setAdvertName (name : String) : Except CoreError Command := do
  validateTextField name 31 "name"
  rejectNul name "name"
  checked .setAdvertName (utf8 name)

def setCoordinates (latitude longitude : Float) : Except CoreError Command := do
  let latitude ← scaledCoordinate latitude (-90) 90 "latitude"
  let longitude ← scaledCoordinate longitude (-180) 180 "longitude"
  checked .setAdvertLatLon (u32ToLe latitude.toUInt32 ++ u32ToLe longitude.toUInt32 ++ u32ToLe 0)

def setTxPower (powerDbm : Int8) : Except CoreError Command :=
  if powerDbm < -9 then invalidArgument "power_dbm" "must be at least -9 dBm"
  else checked .setTxPower [powerDbm.toUInt8]

def setRadioParams (params : RadioParams) : Except CoreError Command := do
  validateRange params.frequencyKhz.toNat 150000 2500000 "frequency_khz"
  validateRange params.bandwidthHz.toNat 7000 500000 "bandwidth_hz"
  validateRange params.spreadingFactor.toNat 5 12 "spreading_factor"
  validateRange params.codingRate.toNat 5 8 "coding_rate"
  checked .setRadioParams
    (u32ToLe params.frequencyKhz ++ u32ToLe params.bandwidthHz ++
      [params.spreadingFactor, params.codingRate] ++
      (params.repeats.map fun repeats => [if repeats then 1 else 0]).getD [])

def setTuning (params : TuningParams) : Command :=
  { code := .setTuningParams
    payload := u32ToLe params.rxDelay ++ u32ToLe params.airtimeFactor ++ [0, 0] }

def getTuning : Command := withoutPayload .getTuningParams

def resetPath (publicKey : Bytes) : Except CoreError Command := withKey .resetPath publicKey []

def updateContact (contact : Contact) : Except CoreError Command := do
  validateTextField contact.advName 31 "name"
  rejectNul contact.advName "name"
  let descriptor ← encodeContactRoute contact.route contact.outPath
  let latitude ← scaledCoordinate contact.advLat (-90) 90 "latitude"
  let longitude ← scaledCoordinate contact.advLon (-180) 180 "longitude"
  let routed := resize
    (contact.publicKey.val ++ [contactTypeToU8 contact.contactType, contact.flags, descriptor] ++
      contact.outPath.bytes) (32 + 1 + 1 + 1 + 64)
  let named := resize (routed ++ utf8 contact.advName) (32 + 1 + 1 + 1 + 64 + 32)
  checked .addUpdateContact
    (named ++ u32ToLe contact.lastAdvert ++ u32ToLe latitude.toUInt32 ++ u32ToLe longitude.toUInt32)

def removeContact (publicKey : Bytes) : Except CoreError Command :=
  withKey .removeContact publicKey []

def shareContact (publicKey : Bytes) : Except CoreError Command :=
  withKey .shareContact publicKey []

def exportContact : Option Bytes → Except CoreError Command
  | some publicKey => withKey .exportContact publicKey []
  | none => .ok (withoutPayload .exportContact)

def importContact (card : Bytes) : Except CoreError Command :=
  if card.length < 98 then invalidArgument "card" "must contain at least 98 bytes"
  else checked .importContact card

def getContact : Except CoreError Command :=
  withKey .getContactByKey publicKey []

def getAdvertPath (publicKey : Bytes) : Except CoreError Command :=
  withKey .getAdvertPath publicKey [0]

def setAutoAddConfig (config : AutoAddConfig) : Except CoreError Command :=
  if config.maxHops.any (· > 64) then invalidArgument "max_hops" "must be at most 64"
  else checked .setAutoAddConfig (config.config :: config.maxHops.toList)

def getAutoAddConfig : Command := withoutPayload .getAutoAddConfig

def getCustomVars : Command := withoutPayload .getCustomVars

def setCustomVar (key value : String) : Except CoreError Command := do
  validateCustomComponent key "key"
  validateCustomComponent value "value"
  checked .setCustomVar (utf8 key ++ [58] ++ utf8 value)

def getStats (statsType : StatsType) : Command :=
  { code := .getStats
    payload := [match statsType with | .core => 0 | .radio => 1 | .packets => 2] }

def getAllowedRepeatFrequencies : Command := withoutPayload .getAllowedRepeatFreq

def setPathHashMode (mode : UInt8) : Except CoreError Command :=
  if mode > 2 then invalidArgument "mode" "must be 0, 1, or 2"
  else checked .setPathHashMode [0, mode]

def setFloodScope (scope : FloodScope) : Command :=
  { code := .setFloodScope
    payload := match scope with
      | .default => [0]
      | .unscoped => [1]
      | .key key => 0 :: key.val }

def setDefaultFloodScope (name : String) (key : Octets 16) : Except CoreError Command := do
  validateTextField name 30 "name"
  rejectNul name "name"
  checked .setDefaultFloodScope (resize (utf8 name) 31 ++ key.val)

def clearDefaultFloodScope : Command := withoutPayload .setDefaultFloodScope

def getDefaultFloodScope : Command := withoutPayload .getDefaultFloodScope

/-- The text and the command form of a direct send differ in their first byte. -/
def directSend (kind : UInt8) (destinationPrefix : Bytes) (timestamp : UInt32) (attempt : UInt8)
    (text : String) : Command :=
  { code := .sendTxtMsg
    payload := [kind, attempt] ++ u32ToLe timestamp ++ destinationPrefix ++ utf8 text }

def sendDirectText (destinationPrefix : Bytes) (timestamp : UInt32) (attempt : UInt8)
    (text : String) : Command :=
  directSend 0 destinationPrefix timestamp attempt text

def sendDirectCommand (destinationPrefix : Bytes) (timestamp : UInt32) (attempt : UInt8)
    (command : String) : Command :=
  directSend 1 destinationPrefix timestamp attempt command

def sendChannel (chan txtType : UInt8) (timestamp : UInt32) (text : String) : Command :=
  { code := .sendChannelTxtMsg, payload := [txtType, chan] ++ u32ToLe timestamp ++ utf8 text }

def getChannel (idx : UInt8) : Command := { code := .getChannel, payload := [idx] }

def setChannel (idx : UInt8) (name : String) (secret : Octets 16) : Except CoreError Command := do
  validateTextField name 31 "name"
  rejectNul name "name"
  checked .setChannel (idx :: resize (utf8 name) 32 ++ secret.val)

def clearChannel (idx : UInt8) : Command :=
  { code := .setChannel, payload := idx :: List.replicate 48 0 }

def sendLogin (publicKey : Bytes) (password : String) : Except CoreError Command := do
  rejectNul password "password"
  withKeySuffix .sendLogin publicKey (utf8 password)

def sendStatusRequest : Except CoreError Command :=
  withKey .sendStatusReq publicKey []

def hasConnection (publicKey : Bytes) : Except CoreError Command :=
  withKey .hasConnection publicKey []

def logout (publicKey : Bytes) : Except CoreError Command := withKey .logout publicKey []

def getSelfTelemetry : Command := { code := .sendTelemetryReq, payload := [0, 0, 0] }

def sendBinaryRequest (requestType : UInt8) (data : Bytes) : Except CoreError Command :=
  withKeySuffix .binaryReq publicKey (requestType :: data)

def sendAnonymousRequest (requestType : UInt8) (replyRoute : ContactRoute)
    (replyPath : Path) : Except CoreError Command :=
  if requestType = 0 then invalidArgument "request_type" "must be non-zero"
  else if replyRoute = .flood then
    invalidArgument "reply_route" "anonymous requests require a direct reply route"
  else do
    let descriptor ← encodeContactRoute replyRoute replyPath
    withKeySuffix .sendAnonReq publicKey ([requestType, descriptor] ++ replyPath.bytes)

def discoverPath : Except CoreError Command :=
  withKey .pathDiscovery publicKey [0]

def sendNodeDiscovery (filter : UInt8) (prefixOnly : Bool) (tag : UInt32)
    (since : Option UInt32) : Except CoreError Command :=
  if tag = 0 then invalidArgument "tag" "must be non-zero"
  else checked .sendControlData
    ([0x80 ||| (if prefixOnly then 1 else 0), filter] ++ u32ToLe tag ++ (since.map u32ToLe).getD [])

def signStart : Command := withoutPayload .signStart

def signData (chunk : Bytes) : Except CoreError Command :=
  if chunk.isEmpty then invalidArgument "chunk" "must not be empty"
  else checked .signData chunk

def signFinish : Command := withoutPayload .signFinish

def exportPrivateKey : Command := withoutPayload .exportPrivateKey

def importPrivateKey (key : PrivateKeyMaterial) : Command :=
  { code := .importPrivateKey, payload := key.val }

def setDevicePin (pin : UInt32) : Except CoreError Command :=
  if pin > 999999 then invalidArgument "pin" "must be between 0 and 999999"
  else checked .setDevicePin (u32ToLe pin)

def reboot : Command := { code := .reboot, payload := utf8 "reboot" }

def factoryReset : Command := { code := .factoryReset, payload := utf8 "reset" }

end Command

end Meshquill
