import Meshquill.Client.Operations

/-!
# The public operations and their runs

Every public async function of `client.rs`, the type of a call of one of them, and runs:
any sequence of calls, each with the turns that the environment grants it. The current
time is an argument of the three sends that stamp their command with it.
-/
namespace Meshquill

/-- `u32::try_from(Utc::now().timestamp()).unwrap_or(0)`. -/
def timestampOf (now : Int) : UInt32 :=
  if 0 ≤ now ∧ now < 2 ^ 32 then UInt32.ofNat now.toNat else 0

/-- `data.chunks(size)`. -/
def chunks (size : Nat) (data : Bytes) : List Bytes :=
  (List.range ((data.length + size - 1) / size)).map fun index =>
    (data.drop (size * index)).take size

/-- `SIGNING_CHUNK_BYTES`. -/
def signingChunkBytes : Nat := 120

/-- `key_prefix`. -/
def keyPrefix (publicKey : Bytes) : Except CoreError KeyPrefix :=
  if exact : publicKey.length = 32 then .ok ⟨publicKey.take 6, by simp [exact]⟩
  else
    invalidArgument "public_key" ("expected exactly 32 bytes, got " ++ toString publicKey.length)

def validateDestinationPrefix (destinationPrefix : Bytes) : Except CoreError Unit :=
  if destinationPrefix.length ≠ 6 then
    invalidArgument "destination_prefix"
      ("expected exactly 6 bytes, got " ++ toString destinationPrefix.length)
  else .ok ()

def validateText (text : String) (maximumBytes : Nat) (field : String) : Except CoreError Unit :=
  if text.isEmpty then invalidArgument field "must not be empty"
  else if (utf8 text).length > maximumBytes then
    invalidArgument field
      ("UTF-8 payload is " ++ toString (utf8 text).length ++ " bytes; maximum is " ++
        toString maximumBytes)
  else .ok ()

namespace Client

open Async

variable {τ ε : Type} [Transport τ ε]

/-! ## Queries -/

structure ContactCollection where
  contacts : List Contact
  lastmod : Option UInt32

def contactsJudge (contacts : List Contact) :
    Packet → PacketWait (List Contact) ContactCollection
  | .contact row => .keep (contacts ++ [row])
  | .contactEnd lastmod => .ready { contacts, lastmod := some lastmod }
  | .noMoreMsgs => .ready { contacts, lastmod := none }
  | .error _ => .fail (.protocolInvariant "contact request returned an error")
  | _ => .proceed

variable (lastmod : Option UInt32)

def collectContacts : ClientM τ ε ContactCollection := do
  ensureConnected
  sendOnly (Command.getContacts lastmod)
  awaitResponse readNextPacketWithTimeout contactsJudge []

def listContacts : ClientM τ ε (List Contact) := do
  return (← collectContacts lastmod).contacts

def listContactsSnapshot : ClientM τ ε ContactSnapshot := do
  let collection ← collectContacts lastmod
  match collection.lastmod with
  | some lastmod => pure { contacts := collection.contacts, lastmod }
  | none => fail (.protocolInvariant "contact snapshot ended without a last-modified marker")

def deviceInfoJudge (_ : Unit) : Packet → PacketWait Unit DeviceInfo
  | .deviceInfo info => .ready info
  | .error _ => .fail (.protocolInvariant "device query returned an error")
  | _ => .proceed

def queryDeviceInfo : ClientM τ ε DeviceInfo := do
  ensureConnected
  sendOnly Command.deviceQuery
  awaitResponse readNextPacketWithTimeout deviceInfoJudge ()

def getTime : ClientM τ ε UInt32 :=
  sendCommandExpect Command.getTime "time query" fun
    | .currentTime value => some value
    | _ => none

def getBattery : ClientM τ ε BatteryInfo :=
  sendCommandExpect Command.getBattery "battery query" fun
    | .battery info => some info
    | _ => none

def getTuning : ClientM τ ε TuningParams :=
  sendCommandExpect Command.getTuning "tuning query" fun
    | .tuningParams params => some params
    | _ => none

def exportContact (publicKey : Option Bytes) : ClientM τ ε ContactUri := do
  sendCommandExpect (← ofExcept (Command.exportContact publicKey)) "contact export" fun
    | .contactUri uri => some uri
    | _ => none

def getContact (publicKey : Bytes) : ClientM τ ε Contact := do
  sendCommandExpect (← ofExcept (Command.getContact publicKey)) "contact query" fun
    | .contact row => some row
    | _ => none

def getAdvertPath (publicKey : Bytes) : ClientM τ ε AdvertPath := do
  sendCommandExpect (← ofExcept (Command.getAdvertPath publicKey)) "advert path query" fun
    | .advertPath path => some path
    | _ => none

def getAutoAddConfig : ClientM τ ε AutoAddConfig :=
  sendCommandExpect Command.getAutoAddConfig "auto-add config query" fun
    | .autoAddConfig config => some config
    | _ => none

def getCustomVars : ClientM τ ε CustomVariables :=
  sendCommandExpect Command.getCustomVars "custom-variable query" fun
    | .customVariables vars => some vars
    | _ => none

def getStats (statsType : StatsType) : ClientM τ ε DeviceStats :=
  sendCommandExpect (Command.getStats statsType) "statistics query" fun
    | .deviceStats stats => some stats
    | _ => none

def getAllowedRepeatFrequencies : ClientM τ ε (List FrequencyRange) :=
  sendCommandExpect Command.getAllowedRepeatFrequencies "allowed repeat-frequency query" fun
    | .allowedRepeatFrequencies ranges => some ranges
    | _ => none

def getPathHashMode : ClientM τ ε UInt8 := do
  match (← queryDeviceInfo).pathHashMode with
  | some mode => pure mode
  | none => fail (.protocolInvariant "device info does not include path hash mode")

def getDefaultFloodScope : ClientM τ ε DefaultFloodScope :=
  sendCommandExpect Command.getDefaultFloodScope "default flood-scope query" fun
    | .defaultFloodScope scope => some scope
    | _ => none

def getChannel (idx : UInt8) : ClientM τ ε ChannelInfo :=
  sendCommandExpect (Command.getChannel idx) "channel query" fun
    | .channelInfo info => some info
    | _ => none

def getSelfTelemetry : ClientM τ ε TelemetryResponse :=
  sendCommandExpect Command.getSelfTelemetry "self telemetry query" fun
    | .telemetryResponse response => some response
    | _ => none

/-! ## Commands that end with `OK` -/

def setTime (value : UInt32) : ClientM τ ε Unit := sendCommandExpectOk (Command.setTime value)

def sendSelfAdvert (flood : Bool) : ClientM τ ε Unit :=
  sendCommandExpectOk (Command.sendSelfAdvert flood)

def setAdvertName (name : String) : ClientM τ ε Unit := do
  sendCommandExpectOk (← ofExcept (Command.setAdvertName name))

def setCoordinates (latitude longitude : Float) : ClientM τ ε Unit := do
  sendCommandExpectOk (← ofExcept (Command.setCoordinates latitude longitude))

def setTxPower (powerDbm : Int8) : ClientM τ ε Unit := do
  sendCommandExpectOk (← ofExcept (Command.setTxPower powerDbm))

def setRadioParams (params : RadioParams) : ClientM τ ε Unit := do
  sendCommandExpectOk (← ofExcept (Command.setRadioParams params))

def setTuning (params : TuningParams) : ClientM τ ε Unit :=
  sendCommandExpectOk (Command.setTuning params)

def resetPath (publicKey : Bytes) : ClientM τ ε Unit := do
  sendCommandExpectOk (← ofExcept (Command.resetPath publicKey))

def updateContact (contact : Contact) : ClientM τ ε Unit := do
  sendCommandExpectOk (← ofExcept (Command.updateContact contact))

def shareContact (publicKey : Bytes) : ClientM τ ε Unit := do
  sendCommandExpectOk (← ofExcept (Command.shareContact publicKey))

def importContact (card : Bytes) : ClientM τ ε Unit := do
  sendCommandExpectOk (← ofExcept (Command.importContact card))

def setAutoAddConfig (config : AutoAddConfig) : ClientM τ ε Unit := do
  sendCommandExpectOk (← ofExcept (Command.setAutoAddConfig config))

def setCustomVar (key value : String) : ClientM τ ε Unit := do
  sendCommandExpectOk (← ofExcept (Command.setCustomVar key value))

def setPathHashMode (mode : UInt8) : ClientM τ ε Unit := do
  sendCommandExpectOk (← ofExcept (Command.setPathHashMode mode))

def setFloodScope (scope : FloodScope) : ClientM τ ε Unit :=
  sendCommandExpectOk (Command.setFloodScope scope)

def setDefaultFloodScope (name : String) (key : Octets 16) : ClientM τ ε Unit := do
  sendCommandExpectOk (← ofExcept (Command.setDefaultFloodScope name key))

def clearDefaultFloodScope : ClientM τ ε Unit :=
  sendCommandExpectOk Command.clearDefaultFloodScope

def setChannel (idx : UInt8) (name : String) (secret : Octets 16) : ClientM τ ε Unit := do
  sendCommandExpectOk (← ofExcept (Command.setChannel idx name secret))

def clearChannel (idx : UInt8) : ClientM τ ε Unit := sendCommandExpectOk (Command.clearChannel idx)

def removeContact (publicKey : Bytes) : ClientM τ ε Unit := do
  sendCommandExpectOk (← ofExcept (Command.removeContact publicKey))

def logout (publicKey : Bytes) : ClientM τ ε Unit := do
  sendCommandExpectOk (← ofExcept (Command.logout publicKey))

def sendNodeDiscovery (filter : UInt8) (prefixOnly : Bool) (tag : UInt32)
    (since : Option UInt32) : ClientM τ ε Unit := do
  sendCommandExpectOk (← ofExcept (Command.sendNodeDiscovery filter prefixOnly tag since))

def setDevicePin (pin : UInt32) : ClientM τ ε Unit := do
  sendCommandExpectOk (← ofExcept (Command.setDevicePin pin))

def sendChannelMessage (now : Int) (channel txtType : UInt8) (text : String) :
    ClientM τ ε Unit := do
  ofExcept (validateText text (maxInnerPayload - 7) "text")
  sendCommandExpectOk (Command.sendChannel channel txtType (timestampOf now) text)

/-! ## Commands with branches of their own -/

def hasConnectionJudge (_ : Unit) : Packet → PacketWait Unit Bool
  | .ok _ => .ready true
  | .error (some 2) => .ready false
  | .error code => .fail (.deviceRejected "remote connection query" code)
  | _ => .proceed

def hasConnection (publicKey : Bytes) : ClientM τ ε Bool := do
  ensureConnected
  sendRaw (← ofExcept (Command.hasConnection publicKey)).intoEncoded
  awaitResponse readNextPacketWithTimeout hasConnectionJudge ()

def exportPrivateKeyJudge (_ : Unit) : Packet → PacketWait Unit PrivateKeyMaterial
  | .privateKey key => .ready key
  | .disabled => .fail (.featureDisabled "private-key export")
  | .error code => .fail (.deviceRejected "private-key export" code)
  | _ => .proceed

def exportPrivateKey : ClientM τ ε PrivateKeyMaterial := do
  sendOnly Command.exportPrivateKey
  awaitResponse readNextPacketWithTimeout exportPrivateKeyJudge ()

def importPrivateKeyJudge (_ : Unit) : Packet → PacketWait Unit Unit
  | .ok _ => .ready ()
  | .disabled => .fail (.featureDisabled "private-key import")
  | .error code => .fail (.deviceRejected "private-key import" code)
  | _ => .proceed

def importPrivateKey (key : PrivateKeyMaterial) : ClientM τ ε Unit := do
  sendOnly (Command.importPrivateKey key)
  awaitResponse readNextPacketWithTimeout importPrivateKeyJudge ()

def reboot : ClientM τ ε Unit := sendDisconnectCommand Command.reboot

def factoryReset : ClientM τ ε Unit := sendDisconnectCommand Command.factoryReset

/-! ## Remote requests -/

variable (expected : KeyPrefix)

def loginExtract : Packet → PacketWait Unit LoginSession
  | .loginSuccess session =>
    if session.pubkeyPrefix = expected then .ready session else .proceed
  | .loginFailed pubkeyPrefix =>
    if pubkeyPrefix = expected then .fail .authenticationFailed else .proceed
  | _ => .proceed

def login (publicKey : Bytes) (password : String) : ClientM τ ε LoginSession := do
  let expected ← ofExcept (keyPrefix publicKey)
  let tracking ← sendCommandExpectMsgSentUntracked
    (← ofExcept (Command.sendLogin publicKey password))
  waitForPacket (← remoteResponseTimeout tracking.timeoutMs) "remote login" (loginExtract expected)

def remoteStatusExtract : Packet → PacketWait Unit RemoteStatus
  | .remoteStatus status =>
    if status.pubkeyPrefix = expected then .ready status else .proceed
  | _ => .proceed

variable (publicKey : Bytes)

def remoteStatus : ClientM τ ε RemoteStatus := do
  let expected ← ofExcept (keyPrefix publicKey)
  let tracking ← sendCommandExpectMsgSentUntracked
    (← ofExcept (Command.sendStatusRequest publicKey))
  waitForPacket (← remoteResponseTimeout tracking.timeoutMs) "remote status"
    (remoteStatusExtract expected)

def pathDiscoveryExtract : Packet → PacketWait Unit PathDiscovery
  | .pathDiscovery path => if path.pubkeyPrefix = expected then .ready path else .proceed
  | _ => .proceed

def discoverPath (publicKey : Bytes) : ClientM τ ε PathDiscovery := do
  let expected ← ofExcept (keyPrefix publicKey)
  let tracking ← sendCommandExpectMsgSentUntracked (← ofExcept (Command.discoverPath publicKey))
  waitForPacket (← remoteResponseTimeout tracking.timeoutMs) "path discovery"
    (pathDiscoveryExtract expected)

def binaryExtract (expected : Octets 4) : Packet → PacketWait Unit BinaryResponse
  | .binaryResponse response => if response.tag = expected then .ready response else .proceed
  | _ => .proceed

def binaryRequest (requestType : UInt8) (data : Bytes) : ClientM τ ε BinaryResponse := do
  let tracking ← sendCommandExpectMsgSentUntracked
    (← ofExcept (Command.sendBinaryRequest publicKey requestType data))
  waitForPacket (← remoteResponseTimeout tracking.timeoutMs) "binary request"
    (binaryExtract tracking.ackCode)

def anonymousRequest (requestType : UInt8) (replyRoute : ContactRoute)
    (replyPath : Path) : ClientM τ ε BinaryResponse := do
  let tracking ← sendCommandExpectMsgSentUntracked
    (← ofExcept (Command.sendAnonymousRequest publicKey requestType replyRoute replyPath))
  waitForPacket (← remoteResponseTimeout tracking.timeoutMs) "anonymous request"
    (binaryExtract tracking.ackCode)

/-! ## Sends and signing -/

def sendDirectText (now : Int) (destinationPrefix : Bytes) (attempt : UInt8) (text : String) :
    ClientM τ ε CommandTracking := do
  ofExcept (validateDestinationPrefix destinationPrefix)
  ofExcept (validateText text (maxInnerPayload - 13) "text")
  sendCommandExpectMsgSent (Command.sendDirectText destinationPrefix (timestampOf now) attempt text)

def sendDirectCommand (now : Int) (destinationPrefix : Bytes) (attempt : UInt8)
    (commandText : String) : ClientM τ ε CommandTracking := do
  ofExcept (validateDestinationPrefix destinationPrefix)
  ofExcept (validateText commandText (maxInnerPayload - 13) "command")
  sendCommandExpectMsgSent
    (Command.sendDirectCommand destinationPrefix (timestampOf now) attempt commandText)

/-- The chunk loop of `sign`. -/
def signChunks : List Bytes → ClientM τ ε Unit
  | [] => pure ()
  | chunk :: rest => do
    sendCommandExpectOk (← ofExcept (Command.signData chunk))
    signChunks rest

def sign (data : Bytes) : ClientM τ ε Signature := do
  let maxDataBytes ← sendCommandExpect Command.signStart "signing start" fun
    | .signStart maxDataBytes => some maxDataBytes
    | _ => none
  if data.length > maxDataBytes.toNat then
    fail (.invalidArgument "data"
      (toString data.length ++ " bytes exceeds device signing limit " ++ toString maxDataBytes))
  else
    signChunks (chunks signingChunkBytes data)
    sendCommandExpect Command.signFinish "signing finish" fun
      | .signature bytes => some bytes
      | _ => none

end Client

/-! ## Calls and runs -/

/-- A call of one public operation. -/
inductive Request where
  | connect
  | init
  | disconnect
  | reconnect
  | nextEvent
  | listContacts (lastmod : Option UInt32)
  | listContactsSnapshot (lastmod : Option UInt32)
  | queryDeviceInfo
  | getTime
  | setTime (value : UInt32)
  | getBattery
  | sendSelfAdvert (flood : Bool)
  | setAdvertName (name : String)
  | setCoordinates (latitude longitude : Float)
  | setTxPower (powerDbm : Int8)
  | setRadioParams (params : RadioParams)
  | setTuning (params : TuningParams)
  | getTuning
  | resetPath (publicKey : Bytes)
  | updateContact (contact : Contact)
  | shareContact (publicKey : Bytes)
  | exportContact (publicKey : Option Bytes)
  | importContact (card : Bytes)
  | getContact (publicKey : Bytes)
  | getAdvertPath (publicKey : Bytes)
  | setAutoAddConfig (config : AutoAddConfig)
  | getAutoAddConfig
  | getCustomVars
  | setCustomVar (key value : String)
  | getStats (statsType : StatsType)
  | getAllowedRepeatFrequencies
  | setPathHashMode (mode : UInt8)
  | getPathHashMode
  | setFloodScope (scope : FloodScope)
  | setDefaultFloodScope (name : String) (key : Octets 16)
  | clearDefaultFloodScope
  | getDefaultFloodScope
  | getChannel (idx : UInt8)
  | setChannel (idx : UInt8) (name : String) (secret : Octets 16)
  | clearChannel (idx : UInt8)
  | removeContact (publicKey : Bytes)
  | login (publicKey : Bytes) (password : String)
  | logout (publicKey : Bytes)
  | hasConnection (publicKey : Bytes)
  | remoteStatus (publicKey : Bytes)
  | getSelfTelemetry
  | binaryRequest (publicKey : Bytes) (requestType : UInt8) (data : Bytes)
  | anonymousRequest (publicKey : Bytes) (requestType : UInt8) (replyRoute : ContactRoute)
      (replyPath : Path)
  | sendNodeDiscovery (filter : UInt8) (prefixOnly : Bool) (tag : UInt32) (since : Option UInt32)
  | discoverPath (publicKey : Bytes)
  | sign (data : Bytes)
  | exportPrivateKey
  | importPrivateKey (key : PrivateKeyMaterial)
  | setDevicePin (pin : UInt32)
  | reboot
  | factoryReset
  | sendDirectText (now : Int) (destinationPrefix : Bytes) (attempt : UInt8) (text : String)
  | sendDirectCommand (now : Int) (destinationPrefix : Bytes) (attempt : UInt8)
      (commandText : String)
  | sendChannelMessage (now : Int) (channel txtType : UInt8) (text : String)
  | syncNextMessage
  | waitForAck (ackCode : AckCode) (requestTimeout : Option Duration)

namespace Request

open Client

variable {τ ε : Type} [Transport τ ε]

/-- The operation that a request calls, without the value it returns. -/
def perform : Request → ClientM τ ε Unit
  | .connect => discard Client.connect
  | .init => discard Client.init
  | .disconnect => discard Client.disconnect
  | .reconnect => discard Client.reconnect
  | .nextEvent => discard Client.nextEvent
  | .listContacts lastmod => discard (Client.listContacts lastmod)
  | .listContactsSnapshot lastmod => discard (Client.listContactsSnapshot lastmod)
  | .queryDeviceInfo => discard Client.queryDeviceInfo
  | .getTime => discard Client.getTime
  | .setTime value => discard (Client.setTime value)
  | .getBattery => discard Client.getBattery
  | .sendSelfAdvert flood => discard (Client.sendSelfAdvert flood)
  | .setAdvertName name => discard (Client.setAdvertName name)
  | .setCoordinates latitude longitude => discard (Client.setCoordinates latitude longitude)
  | .setTxPower powerDbm => discard (Client.setTxPower powerDbm)
  | .setRadioParams params => discard (Client.setRadioParams params)
  | .setTuning params => discard (Client.setTuning params)
  | .getTuning => discard Client.getTuning
  | .resetPath publicKey => discard (Client.resetPath publicKey)
  | .updateContact contact => discard (Client.updateContact contact)
  | .shareContact publicKey => discard (Client.shareContact publicKey)
  | .exportContact publicKey => discard (Client.exportContact publicKey)
  | .importContact card => discard (Client.importContact card)
  | .getContact publicKey => discard (Client.getContact publicKey)
  | .getAdvertPath publicKey => discard (Client.getAdvertPath publicKey)
  | .setAutoAddConfig config => discard (Client.setAutoAddConfig config)
  | .getAutoAddConfig => discard Client.getAutoAddConfig
  | .getCustomVars => discard Client.getCustomVars
  | .setCustomVar key value => discard (Client.setCustomVar key value)
  | .getStats statsType => discard (Client.getStats statsType)
  | .getAllowedRepeatFrequencies => discard Client.getAllowedRepeatFrequencies
  | .setPathHashMode mode => discard (Client.setPathHashMode mode)
  | .getPathHashMode => discard Client.getPathHashMode
  | .setFloodScope scope => discard (Client.setFloodScope scope)
  | .setDefaultFloodScope name key => discard (Client.setDefaultFloodScope name key)
  | .clearDefaultFloodScope => discard Client.clearDefaultFloodScope
  | .getDefaultFloodScope => discard Client.getDefaultFloodScope
  | .getChannel idx => discard (Client.getChannel idx)
  | .setChannel idx name secret => discard (Client.setChannel idx name secret)
  | .clearChannel idx => discard (Client.clearChannel idx)
  | .removeContact publicKey => discard (Client.removeContact publicKey)
  | .login publicKey password => discard (Client.login publicKey password)
  | .logout publicKey => discard (Client.logout publicKey)
  | .hasConnection publicKey => discard (Client.hasConnection publicKey)
  | .remoteStatus publicKey => discard (Client.remoteStatus publicKey)
  | .getSelfTelemetry => discard Client.getSelfTelemetry
  | .binaryRequest publicKey requestType data =>
    discard (Client.binaryRequest publicKey requestType data)
  | .anonymousRequest publicKey requestType replyRoute replyPath =>
    discard (Client.anonymousRequest publicKey requestType replyRoute replyPath)
  | .sendNodeDiscovery filter prefixOnly tag since =>
    discard (Client.sendNodeDiscovery filter prefixOnly tag since)
  | .discoverPath publicKey => discard (Client.discoverPath publicKey)
  | .sign data => discard (Client.sign data)
  | .exportPrivateKey => discard Client.exportPrivateKey
  | .importPrivateKey key => discard (Client.importPrivateKey key)
  | .setDevicePin pin => discard (Client.setDevicePin pin)
  | .reboot => discard Client.reboot
  | .factoryReset => discard Client.factoryReset
  | .sendDirectText now destinationPrefix attempt text =>
    discard (Client.sendDirectText now destinationPrefix attempt text)
  | .sendDirectCommand now destinationPrefix attempt commandText =>
    discard (Client.sendDirectCommand now destinationPrefix attempt commandText)
  | .sendChannelMessage now channel txtType text =>
    discard (Client.sendChannelMessage now channel txtType text)
  | .syncNextMessage => discard Client.syncNextMessage
  | .waitForAck ackCode requestTimeout => discard (Client.waitForAck ackCode requestTimeout)

def isConnect : Request → Bool
  | .connect => true
  | _ => false

def isSync : Request → Bool
  | .syncNextMessage => true
  | _ => false

end Request

/-- A call and the turns it is granted. Too few turns cancel it at an await. -/
structure Invocation (ε : Type) where
  request : Request
  turns : List (Turn ε) := []

namespace World

variable {τ ε : Type}

/-- A new client over a transport. -/
def initial (transport : τ) (requestTimeout : Duration) : World τ ε :=
  { trace := { client := { requestTimeout } }, transport }

/-- The world in which a call starts. -/
def granted (world : World τ ε) (turns : List (Turn ε)) : World τ ε :=
  { world with turns, deadline := false }

variable [Transport τ ε]

/-- The world after one call, however it ends. -/
def invoke (world : World τ ε) (invocation : Invocation ε) : World τ ε :=
  (invocation.request.perform (world.granted invocation.turns)).2

/-- The world after a sequence of calls. -/
def run (world : World τ ε) (invocations : List (Invocation ε)) : World τ ε :=
  invocations.foldl invoke world

/-- The run calls `connect` only on clients with this property. -/
def ConnectsOn (allowed : Client → Prop) (world : World τ ε) : List (Invocation ε) → Prop
  | [] => True
  | invocation :: rest =>
    (invocation.request.isConnect = true → allowed world.client) ∧
      (world.invoke invocation).ConnectsOn allowed rest

instance decidableConnectsOn (allowed : Client → Prop) [DecidablePred allowed] :
    ∀ (world : World τ ε) (invocations : List (Invocation ε)),
      Decidable (world.ConnectsOn allowed invocations)
  | _, [] => isTrue trivial
  | world, invocation :: rest =>
    have := decidableConnectsOn allowed (world.invoke invocation) rest
    inferInstanceAs (Decidable (_ ∧ _))

end World

end Meshquill
