import Meshquill.Client.Trails
import Meshquill.Protocol.Layouts

/-!
# What an operation asks the transport to write

Each public operation has a short list of records that it may send. `Request.layouts` gives
them by their fields, with the caller's arguments as values. Whatever an operation writes is
one of its records in full: every value stands in its field uncut, and the record has between
one byte and the most that a packet may have. So the size check of `write_raw` never fails.
-/
namespace Meshquill

open Field

/-! ## The records of each operation -/

/-- The first byte of a command. -/
def opcode (code : CommandCode) : Field UInt8 := byte code.toU8

/-- A word that is left out when it is not given. -/
def optionalWord (value : Option UInt32) : Field UInt8 := .exact ((value.map u32ToLe).getD [])

def keyed (code : CommandCode) (lead publicKey : Bytes) : Layout UInt8 :=
  [opcode code, .exact lead, padded publicKey 32]

def directFields (kind : UInt8) (now : Int) (destinationPrefix : Bytes) (attempt : UInt8)
    (text : String) : Layout UInt8 :=
  [opcode .sendTxtMsg, byte kind, byte attempt, word (timestampOf now),
    padded destinationPrefix 6, .exact (utf8 text)]

def floodScopeField : FloodScope → Field UInt8
  | .default => .exact [0]
  | .unscoped => .exact [1]
  | .key key => .exact (0 :: key.val)

def statsField : StatsType → Field UInt8
  | .core => byte 0
  | .radio => byte 1
  | .packets => byte 2

def appStartFields : Layout UInt8 := [opcode .appStart, byte 3, .exact (utf8 "      mccli")]

/-- The records that a call may send. -/
def Request.layouts : Request → List (Layout UInt8)
  | .disconnect | .nextEvent | .waitForAck _ _ => []
  | .connect | .init | .reconnect => [appStartFields]
  | .syncNextMessage => [[opcode .syncNextMessage]]
  | .listContacts lastmod | .listContactsSnapshot lastmod =>
    [[opcode .getContacts, optionalWord lastmod]]
  | .queryDeviceInfo | .getPathHashMode => [[opcode .deviceQuery, byte 3]]
  | .getTime => [[opcode .getDeviceTime]]
  | .setTime value => [[opcode .setDeviceTime, word value]]
  | .getBattery => [[opcode .getBattAndStorage]]
  | .sendSelfAdvert flood => [[opcode .sendSelfAdvert, .exact (if flood then [1] else [])]]
  | .setAdvertName name => [[opcode .setAdvertName, .exact (utf8 name)]]
  | .setCoordinates latitude longitude =>
    [[opcode .setAdvertLatLon, word (coordinateWord latitude).toUInt32,
      word (coordinateWord longitude).toUInt32, word 0]]
  | .setTxPower powerDbm => [[opcode .setTxPower, byte powerDbm.toUInt8]]
  | .setRadioParams params =>
    [[opcode .setRadioParams, word params.frequencyKhz, word params.bandwidthHz,
      byte params.spreadingFactor, byte params.codingRate,
      .exact (Command.repeatField params.repeats)]]
  | .setTuning params =>
    [[opcode .setTuningParams, word params.rxDelay, word params.airtimeFactor, .exact [0, 0]]]
  | .getTuning => [[opcode .getTuningParams]]
  | .resetPath publicKey => [keyed .resetPath [] publicKey]
  | .updateContact contact => [opcode .addUpdateContact :: Command.contactFields contact]
  | .shareContact publicKey => [keyed .shareContact [] publicKey]
  | .exportContact publicKey =>
    [opcode .exportContact :: (publicKey.map fun key => padded key 32).toList]
  | .importContact card => [[opcode .importContact, .exact card]]
  | .getContact publicKey => [keyed .getContactByKey [] publicKey]
  | .getAdvertPath publicKey => [keyed .getAdvertPath [0] publicKey]
  | .setAutoAddConfig config => [opcode .setAutoAddConfig :: Command.autoAddFields config]
  | .getAutoAddConfig => [[opcode .getAutoAddConfig]]
  | .getCustomVars => [[opcode .getCustomVars]]
  | .setCustomVar key value =>
    [[opcode .setCustomVar, .exact (utf8 key), byte 58, .exact (utf8 value)]]
  | .getStats statsType => [[opcode .getStats, statsField statsType]]
  | .getAllowedRepeatFrequencies => [[opcode .getAllowedRepeatFreq]]
  | .setPathHashMode mode => [[opcode .setPathHashMode, byte 0, byte mode]]
  | .setFloodScope scope => [[opcode .setFloodScope, floodScopeField scope]]
  | .setDefaultFloodScope name key => [opcode .setDefaultFloodScope :: Command.scopeFields name key]
  | .clearDefaultFloodScope => [[opcode .setDefaultFloodScope]]
  | .getDefaultFloodScope => [[opcode .getDefaultFloodScope]]
  | .getChannel idx => [[opcode .getChannel, byte idx]]
  | .setChannel idx name secret => [opcode .setChannel :: Command.channelFields idx name secret]
  | .clearChannel idx => [[opcode .setChannel, byte idx, .exact (List.replicate 48 0)]]
  | .removeContact publicKey => [keyed .removeContact [] publicKey]
  | .login publicKey password =>
    [[opcode .sendLogin, padded publicKey 32, .exact (utf8 password)]]
  | .logout publicKey => [keyed .logout [] publicKey]
  | .hasConnection publicKey => [keyed .hasConnection [] publicKey]
  | .remoteStatus publicKey => [keyed .sendStatusReq [] publicKey]
  | .getSelfTelemetry => [[opcode .sendTelemetryReq, .exact [0, 0, 0]]]
  | .binaryRequest publicKey requestType data =>
    [[opcode .binaryReq, padded publicKey 32, byte requestType, .exact data]]
  | .anonymousRequest publicKey requestType replyRoute replyPath =>
    [[opcode .sendAnonReq, padded publicKey 32, byte requestType, byte replyRoute.descriptor,
      .exact replyPath.bytes]]
  | .sendNodeDiscovery filter prefixOnly tag since =>
    [[opcode .sendControlData, byte (0x80 ||| (if prefixOnly then 1 else 0)), byte filter,
      word tag, optionalWord since]]
  | .discoverPath publicKey => [keyed .pathDiscovery [0] publicKey]
  | .sign data =>
    [opcode .signStart] :: [opcode .signFinish] ::
      (chunks signingChunkBytes data).map fun chunk => [opcode .signData, .exact chunk]
  | .exportPrivateKey => [[opcode .exportPrivateKey]]
  | .importPrivateKey key => [[opcode .importPrivateKey, octets key]]
  | .setDevicePin pin => [[opcode .setDevicePin, word pin]]
  | .reboot => [[opcode .reboot, .exact (utf8 "reboot")]]
  | .factoryReset => [[opcode .factoryReset, .exact (utf8 "reset")]]
  | .sendDirectText now destinationPrefix attempt text =>
    [directFields 0 now destinationPrefix attempt text]
  | .sendDirectCommand now destinationPrefix attempt commandText =>
    [directFields 1 now destinationPrefix attempt commandText]
  | .sendChannelMessage now channel txtType text =>
    [[opcode .sendChannelTxtMsg, byte txtType, byte channel, word (timestampOf now),
      .exact (utf8 text)]]

/-- The payload is one of these records, with room for every value, and may be sent. -/
def Carries (layouts : List (Layout UInt8)) (payload : Bytes) : Prop :=
  1 ≤ payload.length ∧ payload.length ≤ maxInnerPayload ∧
    ∃ layout ∈ layouts, layout.Fits ∧ payload = layout.encode 0

/-- A payload is one of these records; none is turned away for its size. -/
def Observation.Within (layouts : List (Layout UInt8)) : Observation → Prop
  | .wrote payload | .refused payload => Carries layouts payload
  | .unsendable _ => False
  | _ => True

theorem Observation.within_of_ordinary (layouts : List (Layout UInt8)) (seen : Observation)
    (ordinary : seen.isOrdinary = true) : seen.Within layouts := by
  cases seen with
  | wrote | refused | unsendable => cases ordinary
  | _ => trivial

instance (layouts : List (Layout UInt8)) : Tolerant (Logging (Observation.Within layouts)) :=
  tolerant_logging (Observation.within_of_ordinary layouts)

/-! ## Commands that fit -/

namespace Client

open Async

variable {layouts : List (Layout UInt8)} {layout : Layout UInt8} {command : Command}

theorem sends_of_lays (lays : command.Lays layout) (listed : layout ∈ layouts) :
    Sends (Logging (Observation.Within layouts)) command.intoEncoded := by
  have carries : Carries layouts command.intoEncoded :=
    ⟨Nat.le_add_left 1 _, lays.sized, layout, listed, lays.fits, lays.encoded⟩
  refine ⟨fun _ => .cons carries (.refl _), fun _ => .cons carries (.refl _), fun turned => ?_⟩
  rcases turned with empty | long
  · cases empty
  · exact absurd long (Nat.not_lt.mpr lays.sized)

variable {τ ε α : Type} [Transport τ ε]

theorem writes_exchange {β : Type} (lays : command.Lays layout) (listed : layout ∈ layouts)
    (judge : β → Packet → PacketWait β α) (carried : β) :
    Logs (Observation.Within layouts) (sendOnly command >>= fun _ =>
      awaitResponse readNextPacketWithTimeout judge carried : ClientM τ ε α) :=
  trails_exchange (sends_of_lays lays listed) judge carried

omit [Transport τ ε] in
/-- The only record of an operation. -/
theorem sends_only (lays : command.Lays layout) :
    Sends (Logging (Observation.Within [layout])) command.intoEncoded :=
  sends_of_lays lays (List.mem_singleton_self _)

theorem writes_single {β : Type} (lays : command.Lays layout)
    (judge : β → Packet → PacketWait β α) (carried : β) :
    Logs (Observation.Within [layout]) (sendOnly command >>= fun _ =>
      awaitResponse readNextPacketWithTimeout judge carried : ClientM τ ε α) :=
  trails_exchange (sends_only lays) judge carried

variable {result : Except CoreError Command}

omit [Transport τ ε] in
/-- An operation that first builds its command. -/
theorem writes_built {next : Command → ClientM τ ε α} {along : Trace → Trace → Prop}
    [Tolerant along] (laysOut : LaysOut layout result)
    (use : ∀ command, command.Lays layout → Trails along (next command)) :
    Trails along (ofExcept result >>= next) := by
  cases built : result with
  | error error => exact (trails_fail error : Trails along (fail error : ClientM τ ε α))
  | ok command => exact use command (laysOut command built)

/-- An operation that only sends one record. -/
theorem writes_ok (lays : command.Lays layout) :
    Logs (Observation.Within [layout]) (discard (sendCommandExpectOk command) : ClientM τ ε Unit) :=
  trails_discard (writes_single lays okJudge ())

theorem writes_checked (laysOut : LaysOut layout result) :
    Logs (Observation.Within [layout])
      (discard (ofExcept result >>= sendCommandExpectOk) : ClientM τ ε Unit) :=
  trails_discard (writes_built laysOut fun _ lays => writes_single lays okJudge ())

theorem writes_query (lays : command.Lays layout) (context : String)
    (extract : Packet → Option α) :
    Logs (Observation.Within [layout])
      (discard (sendCommandExpect command context extract) : ClientM τ ε Unit) :=
  trails_discard (writes_single lays (expectJudge context extract) ())

theorem writes_lookup (laysOut : LaysOut layout result) (context : String)
    (extract : Packet → Option α) :
    Logs (Observation.Within [layout])
      (discard (do sendCommandExpect (← ofExcept result) context extract) : ClientM τ ε Unit) :=
  trails_discard (writes_built laysOut fun _ lays =>
    writes_single lays (expectJudge context extract) ())

theorem writes_remote (laysOut : LaysOut layout result) (operation : String)
    (extract : CommandTracking → Packet → PacketWait Unit α) :
    Logs (Observation.Within [layout]) (do
      let tracking ← sendCommandExpectMsgSentUntracked (← ofExcept result)
      waitForPacket (← remoteResponseTimeout tracking.timeoutMs) operation
        (extract tracking) : ClientM τ ε α) :=
  writes_built laysOut fun _ lays => trails_remote (sends_only lays) operation extract

/-! ## Commands without a check of their own -/

section Lays

/-- A record of constant width. -/
theorem lays_of_width (encoded : command.intoEncoded = layout.encode 0) (fits : layout.Fits)
    (sized : layout.width ≤ maxInnerPayload) : command.Lays layout := by
  refine ⟨encoded, fits, ?_⟩
  rw [encoded, Layout.length_encode fits]
  exact sized

theorem lays_withoutPayload (code : CommandCode) :
    (Command.withoutPayload code).Lays [opcode code] :=
  lays_of_width rfl (by simp [opcode]) (by simp [opcode, byte, Layout.width, maxInnerPayload])

theorem lays_getContacts (lastmod : Option UInt32) :
    (Command.getContacts lastmod).Lays [opcode .getContacts, optionalWord lastmod] := by
  cases lastmod with
  | none => exact lays_of_width rfl (by simp [opcode, optionalWord]) (by decide)
  | some since => exact lays_of_width rfl (by simp [opcode, optionalWord]) (Nat.le_of_ble_eq_true rfl)

theorem lays_setFloodScope (scope : FloodScope) :
    (Command.setFloodScope scope).Lays [opcode .setFloodScope, floodScopeField scope] := by
  cases scope with
  | default | unscoped => exact lays_of_width rfl (by simp [opcode, floodScopeField]) (by decide)
  | key key =>
    have long : key.val.length = 16 := key.property
    refine lays_of_width ?_ (by simp [opcode, floodScopeField]) ?_
    · simp [opcode, floodScopeField, Command.intoEncoded, Command.setFloodScope]
    · simp [opcode, floodScopeField, Layout.width, byte, Field.exact, long, maxInnerPayload]

theorem lays_importPrivateKey (key : PrivateKeyMaterial) :
    (Command.importPrivateKey key).Lays [opcode .importPrivateKey, octets key] :=
  lays_of_width (by simp [opcode, Command.intoEncoded, Command.importPrivateKey])
    (by simp [opcode]) (Nat.le_of_ble_eq_true rfl)

variable {text field : String}

theorem length_of_validateText {maximum : Nat} (valid : validateText text maximum field = .ok ()) :
    (utf8 text).length ≤ maximum := by
  unfold validateText at valid
  split at valid
  · cases valid
  · split at valid
    · cases valid
    · exact Nat.le_of_not_gt ‹_›

/-- The text bound leaves room for the thirteen bytes before the text. -/
theorem lays_directSend (kind : UInt8) (now : Int) {destinationPrefix : Bytes} (attempt : UInt8)
    (destination : validateDestinationPrefix destinationPrefix = .ok ())
    (short : validateText text (maxInnerPayload - 13) field = .ok ()) :
    (Command.directSend kind destinationPrefix (timestampOf now) attempt text).Lays
      (directFields kind now destinationPrefix attempt text) := by
  have six : destinationPrefix.length = 6 := by
    unfold validateDestinationPrefix at destination
    split at destination
    · cases destination
    · exact not_not.mp ‹_›
  have bounded : (utf8 text).length ≤ 163 := length_of_validateText short
  refine lays_of_width ?_ ?_ ?_
  · simp [directFields, opcode, Command.intoEncoded, Command.directSend, six]
  · simp [directFields, opcode, fits_padded (Nat.le_of_eq six)]
  · simp [directFields, opcode, Layout.width, byte, word, padded, Field.exact, maxInnerPayload]
    omega

/-- The text bound leaves room for the seven bytes before the text. -/
theorem lays_sendChannel (now : Int) (channel txtType : UInt8)
    (short : validateText text (maxInnerPayload - 7) field = .ok ()) :
    (Command.sendChannel channel txtType (timestampOf now) text).Lays
      [opcode .sendChannelTxtMsg, byte txtType, byte channel, word (timestampOf now),
        .exact (utf8 text)] := by
  have bounded : (utf8 text).length ≤ 169 := length_of_validateText short
  refine lays_of_width ?_ ?_ ?_
  · simp [opcode, Command.intoEncoded, Command.sendChannel]
  · simp [opcode]
  · simp [opcode, Layout.width, byte, word, Field.exact, maxInnerPayload]
    omega

end Lays

/-! ## The operations -/

theorem writes_signChunks (parts : List Bytes)
    (listed : ∀ chunk ∈ parts, [opcode .signData, .exact chunk] ∈ layouts) :
    Logs (Observation.Within layouts) (signChunks parts : ClientM τ ε Unit) := by
  induction parts with
  | nil => exact trails_pure ()
  | cons chunk rest ih =>
    refine writes_built (Command.laysOut_signData chunk) fun _ lays => trails_bind
      (writes_exchange lays (listed chunk List.mem_cons_self) okJudge ()) fun _ => ?_
    exact ih fun other inside => listed other (List.mem_cons_of_mem _ inside)

theorem writes_sign (data : Bytes) :
    Logs (Observation.Within (Request.sign data).layouts) (sign data : ClientM τ ε Signature) := by
  refine trails_bind (writes_exchange (lays_withoutPayload _) List.mem_cons_self _ ()) fun limit => ?_
  split
  · exact trails_fail _
  · refine trails_bind (writes_signChunks _ fun chunk inside => ?_) fun _ =>
      writes_exchange (lays_withoutPayload _) (List.mem_cons_of_mem _ List.mem_cons_self) _ ()
    exact List.mem_cons_of_mem _ (List.mem_cons_of_mem _ (List.mem_map_of_mem inside))

theorem writes_collectContacts (lastmod : Option UInt32) :
    Logs (Observation.Within [[opcode .getContacts, optionalWord lastmod]])
      (collectContacts lastmod : ClientM τ ε ContactCollection) :=
  trails_bind trails_ensureConnected fun _ =>
    writes_single (lays_getContacts lastmod) contactsJudge []

theorem writes_queryDeviceInfo :
    Logs (Observation.Within [[opcode .deviceQuery, byte 3]])
      (queryDeviceInfo : ClientM τ ε DeviceInfo) :=
  trails_bind trails_ensureConnected fun _ =>
    writes_single (lays_of_width rfl (by simp [opcode]) (by decide)) deviceInfoJudge ()

theorem sends_appStart :
    Sends (Logging (Observation.Within [appStartFields])) Command.appStart.intoEncoded :=
  sends_only (lays_of_width rfl (by simp [appStartFields, opcode]) (by decide))

/-- Every operation writes its own records and nothing else. -/
theorem writes_perform (request : Request) :
    Logs (Observation.Within request.layouts) (request.perform : ClientM τ ε Unit) := by
  cases request with
  | connect =>
    exact trails_discard (trails_connect sends_appStart (fun _ => .cons trivial (.refl _))
      fun _ => .cons trivial (.refl _))
  | reconnect =>
    exact trails_discard (trails_reconnect sends_appStart (fun _ => .cons trivial (.refl _))
      fun _ => .cons trivial (.refl _))
  | init => exact trails_discard (trails_init sends_appStart)
  | disconnect => exact trails_discard (trails_disconnect)
  | nextEvent => exact trails_discard (trails_nextEvent)
  | waitForAck ackCode requestTimeout =>
    exact trails_discard (trails_waitForAck ackCode requestTimeout)
  | syncNextMessage =>
    exact trails_discard (trails_syncNextMessage (sends_only (lays_withoutPayload _)))
  | listContacts lastmod =>
    exact trails_discard (trails_bind (writes_collectContacts lastmod) fun _ => trails_pure _)
  | listContactsSnapshot lastmod =>
    refine trails_discard (trails_bind (writes_collectContacts lastmod) fun collection => ?_)
    cases collection.lastmod with
    | none => exact trails_fail _
    | some marker => exact trails_pure _
  | queryDeviceInfo => exact trails_discard writes_queryDeviceInfo
  | getPathHashMode =>
    refine trails_discard (trails_bind writes_queryDeviceInfo fun info => ?_)
    cases info.pathHashMode with
    | none => exact trails_fail _
    | some mode => exact trails_pure _
  | hasConnection publicKey =>
    refine trails_discard ?_
    rw [hasConnection_eq]
    exact trails_bind trails_ensureConnected fun _ =>
      writes_built (laysOut_withKey .hasConnection publicKey []) fun _ lays =>
        writes_single lays _ ()
  | sign data => exact trails_discard (writes_sign data)
  | getTime | getBattery | getTuning | getAutoAddConfig | getCustomVars
  | getAllowedRepeatFrequencies | getDefaultFloodScope =>
    exact writes_query (lays_withoutPayload _) _ _
  | getStats statsType =>
    refine writes_query (lays_of_width ?_ ?_ ?_) _ _
    · cases statsType <;> rfl
    · cases statsType <;> simp [opcode, statsField]
    · cases statsType <;> decide
  | getChannel idx =>
    exact writes_query (lays_of_width rfl (by simp [opcode]) (Nat.le_of_ble_eq_true rfl)) _ _
  | getSelfTelemetry =>
    exact writes_query (lays_of_width rfl (by simp [opcode]) (by decide)) _ _
  | exportContact publicKey => exact writes_lookup (Command.laysOut_exportContact publicKey) _ _
  | getContact publicKey => exact writes_lookup (laysOut_withKey .getContactByKey publicKey []) _ _
  | getAdvertPath publicKey => exact writes_lookup (laysOut_withKey .getAdvertPath publicKey [0]) _ _
  | setTime | setTuning | clearChannel =>
    exact writes_ok (lays_of_width rfl (by simp [opcode]) (Nat.le_of_ble_eq_true rfl))
  | sendSelfAdvert flood =>
    refine writes_ok (lays_of_width ?_ (by simp [opcode]) ?_)
    · cases flood <;> rfl
    · cases flood <;> decide
  | setFloodScope scope => exact writes_ok (lays_setFloodScope scope)
  | clearDefaultFloodScope => exact writes_ok (lays_withoutPayload _)
  | setAdvertName name => exact writes_checked (Command.laysOut_setAdvertName name)
  | setCoordinates latitude longitude =>
    exact writes_checked (Command.laysOut_setCoordinates latitude longitude)
  | setTxPower powerDbm => exact writes_checked (Command.laysOut_setTxPower powerDbm)
  | setRadioParams params => exact writes_checked (Command.laysOut_setRadioParams params)
  | resetPath publicKey => exact writes_checked (laysOut_withKey .resetPath publicKey [])
  | updateContact contact => exact writes_checked (Command.laysOut_updateContact contact)
  | shareContact publicKey => exact writes_checked (laysOut_withKey .shareContact publicKey [])
  | importContact card => exact writes_checked (Command.laysOut_importContact card)
  | setAutoAddConfig config => exact writes_checked (Command.laysOut_setAutoAddConfig config)
  | setCustomVar key value => exact writes_checked (Command.laysOut_setCustomVar key value)
  | setPathHashMode mode => exact writes_checked (Command.laysOut_setPathHashMode mode)
  | setDefaultFloodScope name key =>
    exact writes_checked (Command.laysOut_setDefaultFloodScope name key)
  | setChannel idx name secret => exact writes_checked (Command.laysOut_setChannel idx name secret)
  | removeContact publicKey => exact writes_checked (laysOut_withKey .removeContact publicKey [])
  | logout publicKey => exact writes_checked (laysOut_withKey .logout publicKey [])
  | sendNodeDiscovery filter prefixOnly tag since =>
    exact writes_checked (Command.laysOut_sendNodeDiscovery filter prefixOnly tag since)
  | setDevicePin pin => exact writes_checked (Command.laysOut_setDevicePin pin)
  | sendChannelMessage now channel txtType text =>
    exact trails_discard (trails_validated fun short =>
      writes_single (lays_sendChannel now channel txtType short) okJudge ())
  | sendDirectText now destinationPrefix attempt
  | sendDirectCommand now destinationPrefix attempt =>
    exact trails_discard (trails_validated fun destination => trails_validated fun short =>
      trails_sent (sends_only (lays_directSend _ now attempt destination short)) true)
  | exportPrivateKey =>
    exact trails_discard (writes_single (lays_withoutPayload _) _ ())
  | importPrivateKey key =>
    exact trails_discard (writes_single (lays_importPrivateKey key) _ ())
  | reboot | factoryReset =>
    exact trails_discard (trails_farewell
      (sends_only (lays_of_width rfl (by simp [opcode]) (by decide))))
  | login publicKey password =>
    exact trails_discard (trails_bind (trails_ofExcept _) fun _ =>
      writes_remote (Command.laysOut_sendLogin publicKey password) _ _)
  | remoteStatus publicKey =>
    exact trails_discard (trails_bind (trails_ofExcept _) fun _ =>
      writes_remote (laysOut_withKey .sendStatusReq publicKey []) _ _)
  | discoverPath publicKey =>
    exact trails_discard (trails_bind (trails_ofExcept _) fun _ =>
      writes_remote (laysOut_withKey .pathDiscovery publicKey [0]) _ _)
  | binaryRequest publicKey requestType data =>
    exact trails_discard
      (writes_remote (Command.laysOut_sendBinaryRequest publicKey requestType data) _ _)
  | anonymousRequest publicKey requestType replyRoute replyPath =>
    exact trails_discard (writes_remote
      (Command.laysOut_sendAnonymousRequest publicKey requestType replyRoute replyPath) _ _)

end Client

/-! ## Nothing is cut off -/

theorem flatten_chunks_take (size : Nat) (data : Bytes) (count : Nat) :
    ((List.range count).map fun index => (data.drop (size * index)).take size).flatten =
      data.take (size * count) := by
  induction count with
  | zero => rfl
  | succ count ih =>
    rw [List.range_succ, List.map_append, List.flatten_append, ih, Nat.mul_succ, List.take_add]
    simp

/-- The chunks of a signature request are its data. -/
theorem flatten_chunks {size : Nat} (positive : 0 < size) (data : Bytes) :
    (chunks size data).flatten = data := by
  rw [chunks, flatten_chunks_take]
  refine List.take_of_length_le ?_
  have enough : data.length + size - 1 < size * ((data.length + size - 1) / size + 1) :=
    Nat.lt_mul_div_succ _ positive
  rw [Nat.mul_succ] at enough
  omega

/-- Whatever any operation has written, in any state and with any turns: the payload has between
one byte and the most a packet may have, and it is one of the operation's records with every
argument read back whole at its field. No payload is turned away for its size. -/
theorem World.invoke_writes_records {τ ε : Type} [Transport τ ε] (world : World τ ε)
    (invocation : Invocation ε) :
    ∃ added, (world.invoke invocation).history = added ++ world.history ∧
      (∀ entry ∈ added, ∀ payload, entry.seen ≠ .unsendable payload) ∧
      (∀ entry ∈ added, ∀ payload, entry.seen = .wrote payload ∨ entry.seen = .refused payload →
        1 ≤ payload.length ∧ payload.length ≤ maxInnerPayload ∧
        ∃ layout ∈ invocation.request.layouts, layout.Fits ∧ payload = layout.encode 0 ∧
          ∀ index field, layout[index]? = some field →
            (payload.drop (layout.offset index)).take field.value.length = field.value) ∧
      ∀ data, invocation.request = .sign data → (chunks signingChunkBytes data).flatten = data := by
  obtain ⟨added, grown, within⟩ :=
    Client.writes_perform invocation.request (world.granted invocation.turns)
  refine ⟨added, grown, ?_, ?_, fun data _ => flatten_chunks (by decide) data⟩
  · intro entry inside payload turned
    have kind : entry.seen.Within invocation.request.layouts := within entry inside
    rw [turned] at kind
    exact kind
  · intro entry inside payload sent
    have carries : Carries invocation.request.layouts payload := by
      have kind : entry.seen.Within invocation.request.layouts := within entry inside
      rcases sent with wrote | refused
      · rwa [wrote] at kind
      · rwa [refused] at kind
    obtain ⟨filled, bounded, layout, listed, fits, encoded⟩ := carries
    refine ⟨filled, bounded, layout, listed, fits, encoded, fun index field found => ?_⟩
    rw [encoded]
    exact Layout.read_value fits found

/-- A channel message over a link that accepts it. -/
theorem World.channel_message_record :
    let invocation : Invocation Unit :=
      { request := .sendChannelMessage 7 2 0 "hi", turns := [{ io := () }] }
    let world : World ScriptedTransport Unit :=
      { trace := { client := { connected := true } }, transport := { connected := true } }
    let payload : Bytes := [3, 0, 2, 7, 0, 0, 0, 104, 105]
    .wrote payload ∈ (world.invoke invocation).history.map Entry.seen ∧
      ∃ layout ∈ invocation.request.layouts, layout.Fits ∧ payload = layout.encode 0 := by
  intro invocation world payload
  have written : ∃ entry ∈ (world.invoke invocation).history, entry.seen = .wrote payload :=
    ⟨_, List.mem_cons_self, rfl⟩
  obtain ⟨added, grown, -, records, -⟩ := World.invoke_writes_records world invocation
  obtain ⟨entry, inside, wrote⟩ := written
  have new : entry ∈ added := by
    rw [grown] at inside
    exact (List.mem_append.mp inside).resolve_right List.not_mem_nil
  obtain ⟨-, -, layout, listed, fits, encoded, -⟩ := records entry new payload (.inl wrote)
  exact ⟨List.mem_map.mpr ⟨entry, inside, wrote⟩, layout, listed, fits, encoded⟩

end Meshquill
