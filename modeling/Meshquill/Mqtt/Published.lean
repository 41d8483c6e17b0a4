import Meshquill.Mqtt.Schema
import Meshquill.Protocol.Accepted
import Mathlib.Logic.Function.Basic

/-!
# Published events pass their own schema

Whatever packet a device sends: if the parser accepts it and its event is published, then the
data of the event is read back from its JSON value as it was written, the texts in it are the
lowercase hexadecimal ones that the schema asks for, and so the envelope is accepted by the
gateway that made it.

Two facts about packets are behind that. A number in an event is a number of millionths or of
quarters, so there is no infinity that JSON could not have. And every text that the schema looks
into was made by the parser or by the conversion.
-/
namespace Meshquill.Mqtt

open Checks Serde Store

variable {ν : Type} (wire : Wire ν)

/-! ## Numbers -/

/-- JSON has this number. -/
def KeepsF64 (value : Float) : Prop := (wire.ofF64 value).map wire.toF64 = some value

def KeepsF32 (value : Float32) : Prop := (wire.ofF32 value).map wire.toF32 = some value

variable {wire}

theorem KeepsF64.reads {value : Float} (kept : KeepsF64 wire value) :
    readF64 wire (writeF64 wire value) = some value := by
  obtain ⟨number, converted, same⟩ := Option.map_eq_some_iff.mp kept
  simp [writeF64, converted, readF64, same]

theorem KeepsF32.reads {value : Float32} (kept : KeepsF32 wire value) :
    readF32 wire (writeF32 wire value) = some value := by
  obtain ⟨number, converted, same⟩ := Option.map_eq_some_iff.mp kept
  simp [writeF32, converted, readF32, same]

/-! ## Sums -/

theorem readRouteMembers_of_found {content : Value ν} {found : Members ν}
    {hashMode hopCount : UInt8} (read : readRecord ["hash_mode", "hop_count"] content = some found)
    (looked : ∀ name, findKey name found = findKey name (routeMembers hashMode hopCount)) :
    readRouteMembers content = some (hashMode, hopCount) := by
  simp [readRouteMembers, read, looked, routeMembers]

@[simp] theorem readContactType_write (kind : ContactType) :
    readContactType (writeContactType kind : Value ν) = some kind := by
  rw [readContactType]
  cases kind with
  | unknown code =>
    refine readTagged_tagged ["code"] fun content found read looked => ?_
    simp [read, looked]
  | _ => simp [writeContactType]

@[simp] theorem readContactRoute_write (route : ContactRoute) :
    readContactRoute (writeContactRoute route : Value ν) = some route := by
  rw [readContactRoute]
  cases route with
  | flood => simp [writeContactRoute]
  | path hashMode hopCount =>
    refine readTagged_tagged ["hash_mode", "hop_count"] (fun content found read looked => ?_)
      (by simp [routeMembers])
    simp [readRouteMembers_of_found read looked]

@[simp] theorem readMessageRoute_write (route : MessageRoute) :
    readMessageRoute (writeMessageRoute route : Value ν) = some route := by
  rw [readMessageRoute]
  cases route with
  | direct => simp [writeMessageRoute]
  | path hashMode hopCount =>
    refine readTagged_tagged ["hash_mode", "hop_count"] (fun content found read looked => ?_)
      (by simp [routeMembers])
    simp [readRouteMembers_of_found read looked]

@[simp] theorem readMessageSource_write (source : MessageSource) :
    readMessageSource (writeMessageSource source : Value ν) = some source := by
  rw [readMessageSource]
  cases source with
  | direct pubkeyPrefix =>
    refine readTagged_tagged ["pubkey_prefix"] fun content found read looked => ?_
    simp [read, looked]
  | channel channelIdx =>
    refine readTagged_tagged ["channel_idx"] fun content found read looked => ?_
    simp [read, looked]

@[simp] theorem readMessageStatus_write (status : MessageStatus) :
    readMessageStatus (writeMessageStatus status : Value ν) = some status := by
  rw [readMessageStatus]
  cases status with
  | sent suggestedTimeoutMs =>
    refine readTagged_tagged ["suggested_timeout_ms"] fun content found read looked => ?_
    simp [read, looked]
  | failed reason =>
    refine readTagged_tagged ["reason"] fun content found read looked => ?_
    simp [read, looked]
  | _ => simp [writeMessageStatus]

@[simp] theorem EventKind.read_name (kind : EventKind) :
    EventKind.read (.string kind.name : Value ν) = some kind := by
  cases kind <;> rfl

/-! ## Data -/

theorem AckData.read_write (data : AckData) : AckData.read (data.write : Value ν) = some data := by
  rw [AckData.read, AckData.write]
  refine readRecord_record (by simp) fun found looked => ?_
  simp [looked]

/-- The numbers of a contact are ones that JSON has. -/
structure ContactData.Keeps (wire : Wire ν) (data : ContactData) : Prop where
  latitude : KeepsF64 wire data.advLat
  longitude : KeepsF64 wire data.advLon

theorem ContactData.read_write {data : ContactData} (kept : data.Keeps wire) :
    ContactData.read wire (data.write wire) = some data := by
  rw [ContactData.read, ContactData.write]
  refine readRecord_record (by simp) fun found looked => ?_
  simp [looked, kept.latitude.reads, kept.longitude.reads]

theorem ContactsData.read_write {data : ContactsData}
    (kept : ∀ contact ∈ data.contacts, contact.Keeps wire) :
    ContactsData.read wire (data.write wire) = some data := by
  rw [ContactsData.read, ContactsData.write]
  refine readRecord_record (by simp) fun found looked => ?_
  have each : ∀ contact ∈ data.contacts, ContactData.read wire (contact.write wire) = some contact :=
    fun contact inside => ContactData.read_write (kept contact inside)
  simp [looked, asArray_map each]

theorem IncomingMessageData.read_write {data : IncomingMessageData}
    (kept : ∀ snr, data.snr = some snr → KeepsF32 wire snr) :
    IncomingMessageData.read wire (data.write wire) = some data := by
  rw [IncomingMessageData.read, IncomingMessageData.write]
  refine readRecord_record (by simp) fun found looked => ?_
  have ratio : readOptional (readF32 wire) (data.snr.map (writeF32 wire)) = some data.snr :=
    readOptional_map (fun snr present => (kept snr present).reads) rfl
  simp [looked, ratio]

/-- The number of a telemetry reading, if it has one, is one that JSON has. -/
def TelemetryData.Keeps (wire : Wire ν) : TelemetryData → Prop
  | .statsRadio _ _ lastSnr _ _ => KeepsF32 wire lastSnr
  | _ => True

variable {data : TelemetryData} {bytes raw : Bytes} {message : Message}

theorem TelemetryData.read_write (kept : data.Keeps wire) :
    TelemetryData.read wire (data.write wire) = some data := by
  rw [TelemetryData.read]
  cases data with
  | battery level usedKb totalKb =>
    refine readTagged_tagged ["level", "used_kb", "total_kb"] fun content found read looked => ?_
    simp [read, looked]
  | statsCore batteryMv uptimeSeconds errors queueLength =>
    refine readTagged_tagged ["battery_mv", "uptime_seconds", "errors", "queue_length"]
      fun content found read looked => ?_
    simp [read, looked]
  | statsRadio noiseFloor lastRssi lastSnr txAirtimeSeconds rxAirtimeSeconds =>
    refine readTagged_tagged ["noise_floor", "last_rssi", "last_snr", "tx_airtime_seconds",
      "rx_airtime_seconds"] fun content found read looked => ?_
    simp [read, looked, KeepsF32.reads kept]
  | statsPackets recv sent floodRecv floodSent directRecv directSent recvErrors =>
    refine readTagged_tagged ["recv", "sent", "flood_recv", "flood_sent", "direct_recv",
      "direct_sent", "recv_errors"] fun content found read looked => ?_
    simp [read, looked]
  | rawCayenneLpp sourcePubkeyPrefix payload =>
    refine readTagged_tagged ["source_pubkey_prefix", "payload"] fun content found read looked => ?_
    simp [read, looked]

/-! ## Texts -/

theorem lowerHex_hexEncode (bytes : Bytes) : (utf8 (hexEncode bytes)).all isLowerHexDigit = true := by
  have digits : ∀ value < 16,
      (String.utf8EncodeChar (hexDigit value)).all isLowerHexDigit = true := by decide
  rw [hexEncode, utf8_ofList, List.all_flatMap]
  exact List.all_eq_true.mpr (hexDigits_forall digits bytes)

theorem isLowerHexExact_hexEncode {size : Nat} (sized : bytes.length = size) :
    isLowerHexExact (hexEncode bytes) size = true := by
  simp [isLowerHexExact, lowerHex_hexEncode, utf8ByteSize_hexEncode, sized, Nat.mul_comm]

theorem isLowerHexBounded_hexEncode {maximum : Nat} (short : bytes.length ≤ maximum) :
    isLowerHexBounded (hexEncode bytes) maximum = true := by
  simp [isLowerHexBounded, lowerHex_hexEncode, utf8ByteSize_hexEncode, short]

/-! ## Checks -/

theorem ensureWire_ok {condition : Bool} {error : SchemaError} (holds : condition = true) :
    ensureWire condition error = .ok () := if_pos holds

/-- Data that is read back as it was is checked as it was. -/
theorem deserializeData_bind {α β : Type} {read : Value ν → Option α} {data : Value ν} {value : α}
    (reads : read data = some value) (next : α → Except SchemaError β) :
    (deserializeData read data >>= next) = next value := by
  simp [deserializeData, reads, bind, Except.bind]

theorem isWireSource_lowercase (accepted : message.Accepted) :
    isWireSource (lowercaseSource message.source) = true := by
  cases source : message.source with
  | direct pubkeyPrefix =>
    obtain ⟨key, rfl⟩ := accepted.keyed pubkeyPrefix source
    rw [lowercaseSource, toLower_hexEncode]
    exact isLowerHexExact_hexEncode key.property
  | channel channelIdx => rfl

theorem validateEventData_message (accepted : message.Accepted) (measured : message.Measured) :
    validateEventData wire .incomingMessage
      ((IncomingMessageData.ofMessage message).write wire) = .ok () := by
  have kept : ∀ snr, message.snr = some snr → KeepsF32 wire snr := by
    intro snr present
    obtain ⟨quarters, rfl⟩ := measured snr present
    exact wire.quarters quarters
  refine (deserializeData_bind (IncomingMessageData.read_write kept) _).trans ?_
  refine check_ok.mpr ⟨ensureWire_ok (isWireSource_lowercase accepted), ensureWire_ok ?_⟩
  rw [IncomingMessageData.ofMessage, Option.all_map]
  refine Option.all_eq_true_iff_get _ _ |>.mpr fun signed => ?_
  exact isLowerHexExact_hexEncode (message.signature.get signed).property

theorem validateEventData_ack (receipt : Ack) :
    validateEventData wire .ack (AckData.ofAck receipt).write = .ok () := by
  refine (deserializeData_bind (AckData.read_write _) _).trans ?_
  exact ensureWire_ok (isLowerHexExact_hexEncode receipt.code.property)

theorem validateContacts_ofContact (rows : List Contact) :
    validateContacts (rows.map ContactData.ofContact) = .ok () := by
  induction rows with
  | nil => rfl
  | cons row later ih =>
    have keyed := isLowerHexExact_hexEncode row.publicKey.property
    have short : row.outPath.bytes.length ≤ 128 := Nat.le_trans row.outPath.bounded (by decide)
    have routed := isLowerHexBounded_hexEncode short
    exact check_ok.mpr ⟨ensureWire_ok keyed, check_ok.mpr ⟨ensureWire_ok routed, ih⟩⟩

theorem ContactData.keeps_ofContact {contact : Contact} (measured : contact.Measured) :
    (ContactData.ofContact contact).Keeps wire := by
  obtain ⟨⟨latitude, north⟩, ⟨longitude, east⟩⟩ := measured
  constructor
  · rw [KeepsF64, ContactData.ofContact, north]
    exact wire.coordinates latitude
  · rw [KeepsF64, ContactData.ofContact, east]
    exact wire.coordinates longitude

theorem validateEventData_contacts {rows : List Contact} (lastmod : UInt32)
    (measured : ∀ row ∈ rows, row.Measured) :
    validateEventData wire .contacts
      ((ContactsData.ofSnapshot { contacts := rows, lastmod }).write wire) = .ok () := by
  have kept : ∀ contact ∈ rows.map ContactData.ofContact, contact.Keeps wire := by
    intro contact listed
    obtain ⟨row, inside, rfl⟩ := List.mem_map.mp listed
    exact ContactData.keeps_ofContact (measured row inside)
  refine (deserializeData_bind (ContactsData.read_write kept) _).trans ?_
  exact validateContacts_ofContact rows

theorem validateEventData_telemetry (kept : data.Keeps wire)
    (checked : validateTelemetry data = .ok ()) :
    validateEventData wire .telemetry (data.write wire) = .ok () :=
  (deserializeData_bind (TelemetryData.read_write kept) _).trans checked

theorem TelemetryData.keeps_ofStats {stats : DeviceStats}
    (parsed : Packet.parse raw = .ok (.deviceStats stats)) :
    (TelemetryData.ofStats stats).Keeps wire := by
  cases stats with
  | radio noiseFloor lastRssi lastSnr txAirtimeSeconds rxAirtimeSeconds =>
    obtain ⟨quarters, rfl⟩ := Packet.parsed_stats parsed
    exact wire.quarters quarters
  | _ => exact trivial

theorem validateTelemetry_ofStats (stats : DeviceStats) :
    validateTelemetry (.ofStats stats) = .ok () := by
  cases stats <;> rfl

theorem validateTelemetry_ofResponse {response : TelemetryResponse}
    (short : response.payload.length ≤ usizeMax) :
    validateTelemetry (.ofResponse response) = .ok () :=
  check_ok.mpr ⟨ensureWire_ok (isLowerHexExact_hexEncode response.pubkeyPrefix.property),
    ensureWire_ok (isLowerHexBounded_hexEncode short)⟩

/-- What is published of an accepted packet passes the check for its kind. -/
theorem validateEventData_publication {packet : Packet} {event : Event}
    {publication : Publication} (parsed : Packet.parse raw = .ok packet)
    (arises : packet.intoEvent = some event)
    (published : Publication.fromCoreEvent event = some publication) :
    validateEventData wire publication.kind (publication.dataValue wire) = .ok () := by
  cases packet with
  | contact row =>
    cases arises
    cases published
    refine validateEventData_contacts 0 (List.forall_mem_singleton.mpr ?_)
    exact (Packet.parsed_contact parsed).2
  | contactEnd lastmod =>
    cases arises
    cases published
    exact validateEventData_contacts lastmod (List.forall_mem_nil _)
  | contactMsg message | channelMsg message =>
    cases arises
    cases published
    obtain ⟨accepted, measured⟩ := Packet.parsed_message parsed rfl
    exact validateEventData_message accepted measured
  | battery info =>
    cases arises
    cases published
    exact @validateEventData_telemetry _ _ (.battery ..) trivial rfl
  | deviceStats stats =>
    cases arises
    cases published
    exact validateEventData_telemetry (TelemetryData.keeps_ofStats parsed)
      (validateTelemetry_ofStats stats)
  | telemetryResponse response =>
    cases arises
    cases published
    have short : response.payload.length ≤ usizeMax :=
      Nat.le_trans (Packet.parsed_telemetry parsed) (by decide)
    exact @validateEventData_telemetry _ _ (.ofResponse response) trivial
      (validateTelemetry_ofResponse short)
  | ack receipt =>
    cases arises
    cases published
    exact validateEventData_ack receipt
  | _ =>
    -- No event, or one that is not published.
    cases arises <;> cases published

theorem isObject_dataValue (publication : Publication) :
    isObject (publication.dataValue wire) = true := by
  cases publication with
  | telemetry data => cases data <;> rfl
  | _ => rfl

/-! ## Envelopes -/

/-- The configuration asks no less of an origin than the schema does. -/
theorem validateOrigin_of_validate {config : MqttConfig} {read : ReadFile}
    (configured : config.validate read = .ok ()) : validateOrigin config.origin = true := by
  obtain ⟨-, configured⟩ := check_ok.mp configured
  obtain ⟨-, configured⟩ := check_ok.mp configured
  obtain ⟨origin, -⟩ := check_ok.mp configured
  obtain ⟨present, origin⟩ := check_ok.mp origin
  obtain ⟨short, printable⟩ := check_ok.mp origin
  obtain ⟨nonempty, trimmed⟩ := require_ok.mp present
  have bounded : config.origin.utf8ByteSize ≤ 128 := require_ok.mp short
  have shown := require_ok.mp printable
  simp only [Bool.not_eq_true] at shown
  simp [validateOrigin, nonempty, trimmed, bounded, shown]

theorem readCanonicalUuid_render (id : Uuid) :
    readCanonicalUuid wire (.string (renderUuid id)) = some id := by
  simp [readCanonicalUuid, wire.parses]

/-- An envelope is read back from what is written of it. -/
theorem EventEnvelope.read_document (envelope : EventEnvelope ν) :
    EventEnvelope.read wire envelope.document = some envelope := by
  have known : readRecord ["schema", "event_id", "origin", "timestamp", "type", "data"]
      envelope.document = some (field "schema" (.string envelope.schema) ++
        field "event_id" (.string (renderUuid envelope.eventId)) ++
        field "origin" (.string envelope.origin) ++
        field "timestamp" (writeU64 envelope.timestamp) ++
        field "type" (.string envelope.kind.name) ++ field "data" envelope.data) := by
    rw [EventEnvelope.document, readRecord]
    refine if_pos ⟨?_, ?_⟩
    · simp [field]
    · change Named _ _
      simp
  simp [EventEnvelope.read, known, readCanonicalUuid_render]

theorem EventEnvelope.decode_of_document {envelope : EventEnvelope ν} {payload : Bytes}
    (valid : envelope.validate wire = .ok ())
    (read : wire.fromSlice payload = some envelope.document) :
    EventEnvelope.decode wire payload = .ok envelope := by
  simp only [EventEnvelope.decode, read, Option.bind_some, EventEnvelope.read_document, valid]
  rfl

/-! ## Identifiers -/

theorem hexDigit_inj : ∀ one < 16, ∀ other < 16, hexDigit one = hexDigit other → one = other := by
  decide

theorem hexDigit_ne_hyphen : ∀ value < 16, (hexDigit value != '-') = true := by decide

/-- The digits of a rendered identifier are its characters without the hyphens. -/
theorem filter_renderUuid (id : Uuid) : (renderUuid id).toList.filter (· != '-') = uuidDigits id := by
  have plain : ∀ digit ∈ uuidDigits id, (digit != '-') = true := by
    intro digit inside
    obtain ⟨index, _, rfl⟩ := List.mem_map.mp inside
    exact hexDigit_ne_hyphen _ (Nat.mod_lt _ (by decide))
  rw [renderUuid, String.toList_ofList]
  generalize uuidDigits id = digits at plain
  have first : (digits.take 8).filter (· != '-') = digits.take 8 :=
    List.filter_eq_self.mpr fun digit inside => plain digit (List.mem_of_mem_take inside)
  have last : (digits.drop 20).filter (· != '-') = digits.drop 20 :=
    List.filter_eq_self.mpr fun digit inside => plain digit (List.mem_of_mem_drop inside)
  have group : ∀ start, ((digits.drop start).take 4).filter (· != '-') =
      (digits.drop start).take 4 := fun start => List.filter_eq_self.mpr fun digit inside =>
    plain digit (List.mem_of_mem_drop (List.mem_of_mem_take inside))
  have hyphen : ['-'].filter (· != '-') = [] := rfl
  simp only [List.filter_append, first, last, group, hyphen, List.append_nil]
  rw [← List.take_add, ← List.take_add, ← List.take_add, List.take_append_drop]

/-- An identifier is known by how it is displayed. -/
theorem renderUuid_injective : Function.Injective renderUuid := by
  intro one other same
  have digits : uuidDigits one = uuidDigits other := by
    rw [← filter_renderUuid one, ← filter_renderUuid other, same]
  have nibbles : ∀ index < 32, one.toNat >>> (4 * (31 - index)) % 16 =
      other.toNat >>> (4 * (31 - index)) % 16 := by
    intro index inside
    have here := List.map_inj_left.mp digits index (List.mem_range.mpr inside)
    exact hexDigit_inj _ (Nat.mod_lt _ (by decide)) _ (Nat.mod_lt _ (by decide)) here
  -- A bit of an identifier is a bit of one of its digits.
  have bits : ∀ (id : Uuid) (bit : Nat), bit < 128 →
      (id.toNat >>> (4 * (bit / 4)) % 16).testBit (bit % 4) = id.getLsbD bit := by
    intro id bit _
    have small : bit % 4 < 4 := Nat.mod_lt _ (by decide)
    rw [show 16 = 2 ^ 4 from rfl, Nat.testBit_mod_two_pow, Nat.testBit_shiftRight, Nat.div_add_mod]
    simp [small, BitVec.getLsbD]
  apply BitVec.eq_of_getLsbD_eq
  intro bit inside
  have nibble := nibbles (31 - bit / 4) (by omega)
  rw [show 31 - (31 - bit / 4) = bit / 4 by omega] at nibble
  rw [← bits one bit inside, ← bits other bit inside, nibble]

/-! ## The gateway and its own schema -/

/-- Whatever a device sends: if the packet is accepted and its event is published, then the
gateway accepts the envelope that it makes of it, and takes it back from its bytes, provided that
those are read as they were written. -/
theorem published_envelope_accepted (wire : Wire ν) {raw : Bytes} {packet : Packet}
    {event : Event} {publication : Publication} (parsed : Packet.parse raw = .ok packet)
    (arises : packet.intoEvent = some event)
    (published : Publication.fromCoreEvent event = some publication) {config : MqttConfig}
    {read : ReadFile} (configured : config.validate read = .ok ()) {eventId : Uuid}
    (named : eventId ≠ 0) (timestamp : UInt64) :
    ∃ envelope,
      EventEnvelope.fromPublication wire eventId config.origin timestamp publication =
        .ok envelope ∧
      envelope.validate wire = .ok () ∧
      envelope.encode wire = .ok (wire.toVec envelope.document) ∧
      (wire.fromSlice (wire.toVec envelope.document) = some envelope.document →
        EventEnvelope.decode wire (wire.toVec envelope.document) = .ok envelope) := by
  let envelope : EventEnvelope ν :=
    { schema := schemaVersion, eventId, origin := config.origin, timestamp,
      kind := publication.kind, data := publication.dataValue wire }
  have valid : envelope.validate wire = .ok () := by
    refine check_ok.mpr ⟨ensureWire_ok (decide_eq_true rfl), ?_⟩
    refine check_ok.mpr ⟨ensureWire_ok (decide_eq_true named), ?_⟩
    refine check_ok.mpr ⟨ensureWire_ok (validateOrigin_of_validate configured), ?_⟩
    refine check_ok.mpr ⟨ensureWire_ok (isObject_dataValue publication), ?_⟩
    exact validateEventData_publication parsed arises published
  refine ⟨envelope, ?_, valid, ?_, ?_⟩
  · exact check_ok.mpr ⟨valid, rfl⟩
  · exact check_ok.mpr ⟨valid, rfl⟩
  · exact EventEnvelope.decode_of_document valid

mutual

/-- The JSON text of a value, as `to_vec` writes it. -/
def jsonText : Value (Float ⊕ Float32) → String
  | .null => "null"
  | .bool value => toString value
  | .integer value => toString value
  | .float value => value.elim toString toString
  | .string value => "\"" ++ escapeText value ++ "\""
  | .array items => jsonArray (itemTexts items)
  | .object members => jsonObject (memberTexts members)

def itemTexts : List (Value (Float ⊕ Float32)) → List String
  | [] => []
  | item :: items => jsonText item :: itemTexts items

def memberTexts : Members (Float ⊕ Float32) → List (String × String)
  | [] => []
  | (name, value) :: members => (name, jsonText value) :: memberTexts members

end

/-- Libraries that keep every number as it is, and read one document back from its text. -/
noncomputable def plainWire (written : Value (Float ⊕ Float32)) : Wire (Float ⊕ Float32) where
  ofF64 value := some (.inl value)
  toF64 := Sum.elim id Float32.toFloat
  ofF32 value := some (.inr value)
  toF32 := Sum.elim Float.toFloat32 id
  toVec value := utf8 (jsonText value)
  fromSlice payload := if payload = utf8 (jsonText written) then some written else none
  parseStr := Function.partialInv renderUuid
  coordinates _ := rfl
  quarters _ := rfl
  parses := Function.partialInv_left renderUuid_injective

/-- What is written is read back. -/
theorem fromSlice_toVec (written : Value (Float ⊕ Float32)) :
    (plainWire written).fromSlice ((plainWire written).toVec written) = some written := if_pos rfl

/-- What is published of an acknowledgement. -/
def ackEnvelope : EventEnvelope (Float ⊕ Float32) where
  schema := schemaVersion
  eventId := 1
  origin := "meshquill-mqtt"
  timestamp := 1700000000
  kind := .ack
  data := AckData.write { code := "01020304", tripTimeMs := none }

/-- An ACK as it is published. -/
def ackText : String :=
  "\x7b\"schema\":\"meshquill.mqtt/v1\",\"event_id\":\"00000000-0000-0000-0000-000000000001\"," ++
    "\"origin\":\"meshquill-mqtt\",\"timestamp\":1700000000,\"type\":\"ack\"," ++
    "\"data\":\x7b\"code\":\"01020304\"\x7d\x7d"

/-- An acknowledgement is encoded as this text, and decoded from it. -/
theorem ack_envelope_accepted :
    ackEnvelope.encode (plainWire ackEnvelope.document) = .ok (utf8 ackText) ∧
      EventEnvelope.decode (plainWire ackEnvelope.document) (utf8 ackText) = .ok ackEnvelope := by
  have text : jsonText ackEnvelope.document = ackText := by decide +kernel
  have parsed : Packet.parse [0x82, 1, 2, 3, 4] =
      .ok (.ack { code := ⟨[1, 2, 3, 4], rfl⟩, tripTimeMs := none }) := by rfl
  obtain ⟨envelope, made, -, encoded, decoded⟩ :=
    published_envelope_accepted (plainWire ackEnvelope.document) parsed rfl rfl
      (validate_default fun _ _ => .error "") (by decide : (1 : Uuid) ≠ 0) 1700000000
  obtain ⟨-, same⟩ := check_ok.mp made
  obtain rfl : ackEnvelope = envelope := Except.ok.inj same
  rw [← text]
  exact ⟨encoded, decoded (fromSlice_toVec _)⟩

end Meshquill.Mqtt
