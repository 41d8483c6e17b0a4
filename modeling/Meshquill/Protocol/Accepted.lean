import Meshquill.Checks
import Meshquill.Protocol.Total
import Meshquill.Protocol.Utf8

/-!
# What an accepted packet says

A packet is reported under the code of its first byte, except that both message layouts share
one variant, and a packet that no parser knows keeps every byte. Both follow from the last
statement of each parser: whatever a parser reads and checks before, it can only return there.

The texts that a packet brings in: the key prefix of a direct message is written by the parser,
its text is any UTF-8 within the size of a packet, and the name of a contact is at most 32 bytes
without NUL. Neither text needs to have a byte, and the text of a message may contain NUL.
-/
namespace Meshquill

/-- The codes of the V3 message layouts, as the codes of the legacy ones. -/
def PacketCode.legacy : PacketCode → PacketCode
  | .contactMsgRecvV3 => .contactMsgRecv
  | .channelMsgRecvV3 => .channelMsgRecv
  | code => code

theorem PacketCode.toU8_fromU8 (byte : UInt8) : (PacketCode.fromU8 byte).toU8 = byte := by
  unfold PacketCode.fromU8
  split <;> rfl

namespace Parse

variable {α β : Type} {post : β → Prop}

/-- Whatever the parser returns has the property. -/
def Yields (post : β → Prop) (parse : Parse β) : Prop := ∀ value, parse = .ok value → post value

theorem yields_pure {value : β} (holds : post value) : Yields post (pure value) := by
  intro other same
  cases same
  exact holds

theorem yields_reject (error : ParseError) : Yields post (reject error) := by
  intro value rejected
  cases rejected

theorem yields_bind {first : Parse α} {next : α → Parse β}
    (tail : ∀ value, first = .ok value → Yields post (next value)) :
    Yields post (first >>= next) := by
  cases first with
  | error fault =>
    intro value failed
    cases failed
  | ok value => exact tail value rfl

variable {condition : Prop} {left right : Parse β}

theorem yields_ite {decided : Decidable condition} (holds : Yields post left)
    (fails : Yields post right) :
    Yields post (if condition then left else right) := by
  split
  · exact holds
  · exact fails

/-- A branch may use its condition. -/
theorem yields_dite {decided : Decidable condition} (holds : condition → Yields post left)
    (fails : ¬ condition → Yields post right) :
    Yields post (if condition then left else right) := by
  split
  · exact holds ‹_›
  · exact fails ‹_›

end Parse

open Parse

/-- The packet has the code, and every byte if it is unknown. -/
def Packet.Reads (raw : Bytes) (code : PacketCode) (packet : Packet) : Prop :=
  packet.code = code ∧
    match packet with
    | .unknown code payload => code :: payload = raw
    | _ => True

variable {raw bytes : Bytes} {first : UInt8} {context text : String} {start : Nat} {packet : Packet}
  {message : Message} {contact : Contact}

theorem byteAt_zero (read : byteAt raw 0 = .ok first) : raw = first :: raw.drop 1 := by
  cases raw with
  | nil => cases read
  | cons head rest =>
    cases read
    rfl

theorem reads_unknown (read : byteAt raw 0 = .ok first) :
    Yields (Packet.Reads raw (PacketCode.fromU8 first)) (do
      return Packet.unknown first (← slice raw 1 raw.length)) := by
  refine yields_bind fun payload cut => yields_pure ⟨rfl, ?_⟩
  have filled := byteAt_zero read
  unfold slice at cut
  split at cut
  · obtain rfl := Except.ok.inj cut
    rw [List.take_length]
    exact filled.symm
  · cases cut

theorem Packet.reads_parse (raw : Bytes) :
    Yields (fun packet => ∃ first rest, raw = first :: rest ∧
      packet.Reads raw (PacketCode.fromU8 first).legacy) (Packet.parse raw) := by
  refine yields_ite (yields_bind fun _ rejected => by cases rejected) ?_
  refine yields_ite (yields_bind fun _ rejected => by cases rejected) ?_
  refine yields_bind fun first read => ?_
  suffices reads : Yields (Packet.Reads raw (PacketCode.fromU8 first).legacy) _ from
    fun packet parsed => ⟨first, _, byteAt_zero read, reads packet parsed⟩
  have kept := reads_unknown read
  have named := PacketCode.toU8_fromU8 first
  generalize PacketCode.fromU8 first = code at kept named ⊢
  cases code with
  | unknown code =>
    obtain rfl : code = first := named
    exact kept
  | advertisement | pathUpdate | rawData | logData | traceData | newAdvert | contactDeleted
  | contactsFull | channelDataRecv =>
    refine yields_bind fun other again => ?_
    obtain rfl : first = other := Except.ok.inj (read.symm.trans again)
    exact kept
  | ok =>
    show Yields _ (parseOk raw)
    unfold parseOk
    split
    · exact yields_pure ⟨rfl, trivial⟩
    · exact yields_pure ⟨rfl, trivial⟩
    · exact yields_reject _
  | _ =>
    -- Each parser has reads and checks, and then one variant to return.
    clear kept
    dsimp only [PacketCode.legacy]
    repeat' first
      | exact yields_pure ⟨rfl, trivial⟩
      | exact yields_reject _
      | refine yields_ite ?_ ?_
      | refine yields_bind fun _ _ => ?_
      | split

/-- A packet outside the size bounds is rejected. -/
theorem Packet.parse_of_size (outside : raw = [] ∨ maxInnerPayload < raw.length) :
    ∃ error, Packet.parse raw = .error (.rejected error) := by
  unfold Packet.parse
  by_cases empty : raw = []
  · subst empty
    exact ⟨_, rfl⟩
  · have long : maxInnerPayload < raw.length := outside.resolve_left empty
    rw [if_neg (by simpa using empty), if_pos long]
    exact ⟨_, rfl⟩

/-- The parser on every byte string: it does not panic, it rejects what is empty or too long,
and what it accepts has the code of its first byte and loses nothing if it is unknown. -/
theorem Packet.parse_sound (raw : Bytes) :
    Total (Packet.parse raw) ∧
      (raw = [] ∨ maxInnerPayload < raw.length →
        ∃ error, Packet.parse raw = .error (.rejected error)) ∧
      ∀ packet, Packet.parse raw = .ok packet →
        (∃ first rest, raw = first :: rest ∧ packet.code = (PacketCode.fromU8 first).legacy) ∧
        ∀ code payload, packet = .unknown code payload → code :: payload = raw := by
  refine ⟨Packet.total_parse raw, Packet.parse_of_size, fun packet parsed => ?_⟩
  obtain ⟨first, rest, filled, coded, kept⟩ := Packet.reads_parse raw packet parsed
  refine ⟨⟨first, rest, filled, coded⟩, ?_⟩
  intro code payload unknown
  subst unknown
  exact kept

/-- A V3 channel message, and a packet that no parser knows. -/
theorem Packet.parse_sound_samples :
    (∃ packet, Packet.parse [0x11, 8, 0, 0, 2, 0xff, 0, 1, 0, 0, 0, 104] = .ok packet ∧
      packet.code = .channelMsgRecv) ∧
    ∃ code payload, Packet.parse [0x41, 7] = .ok (.unknown code payload) ∧
      code :: payload = [0x41, 7] := by
  constructor
  · refine ⟨_, rfl, ?_⟩
    obtain ⟨-, -, accepted⟩ := Packet.parse_sound [0x11, 8, 0, 0, 2, 0xff, 0, 1, 0, 0, 0, 104]
    obtain ⟨⟨first, rest, filled, coded⟩, -⟩ := accepted _ rfl
    cases filled
    exact coded
  · refine ⟨_, _, rfl, ?_⟩
    obtain ⟨-, -, accepted⟩ := Packet.parse_sound [0x41, 7]
    exact (accepted _ rfl).2 _ _ rfl

/-! ## Messages and contacts -/

open Parse

/-- What the parser puts into a message. -/
structure Message.Accepted (message : Message) : Prop where
  unobserved : message.observationId = none
  keyed : ∀ pubkeyPrefix, message.source = .direct pubkeyPrefix →
    ∃ key : Octets 6, pubkeyPrefix = hexEncode key.val
  short : message.text.utf8ByteSize ≤ maxInnerPayload
  received : message.status = .received

/-- What the parser puts into the name of a contact. -/
structure Contact.Accepted (contact : Contact) : Prop where
  short : contact.advName.utf8ByteSize ≤ 32
  noNul : (0 : UInt8) ∉ utf8 contact.advName

/-- A ratio in quarters. -/
def Message.Measured (message : Message) : Prop :=
  ∀ snr, message.snr = some snr → ∃ quarters, snr = snrOfByte quarters

/-- Coordinates in millionths. -/
structure Contact.Measured (contact : Contact) : Prop where
  latitude : ∃ word : Int32, contact.advLat = word.toFloat / 1000000
  longitude : ∃ word : Int32, contact.advLon = word.toFloat / 1000000

theorem utf8_of_decodeText (decoded : decodeText bytes context = .ok text) : utf8 text = bytes := by
  unfold decodeText at decoded
  split at decoded
  · rename_i read
    cases decoded
    exact utf8_of_fromUtf8 read
  · cases decoded

theorem utf8_of_decodePaddedString (decoded : decodePaddedString bytes context = .ok text) :
    utf8 text = bytes.takeWhile (· ≠ 0) := by
  unfold decodePaddedString at decoded
  split at decoded
  · rename_i read
    cases decoded
    exact utf8_of_fromUtf8 read
  · cases decoded

/-- A text up to the end of a packet is no longer than the packet. -/
theorem yields_text {post : Packet → Prop} {next : String → Parse Packet}
    (tail : ∀ text, text.utf8ByteSize ≤ raw.length → Yields post (next text)) :
    Yields post (slice raw start raw.length >>= fun bytes => decodeText bytes context >>= next) := by
  refine yields_bind fun bytes cut => yields_bind fun text decoded => tail text ?_
  rw [← length_utf8, utf8_of_decodeText decoded, length_of_slice cut]
  omega

theorem quarters_of_parseSnr {isV3 : Bool} {snr : Option Float32}
    (read : parseSnr raw isV3 = .ok (snr, start)) :
    ∀ value, snr = some value → ∃ quarters, value = snrOfByte quarters := by
  cases isV3 with
  | false =>
    cases read
    exact nofun
  | true =>
    obtain ⟨quarters, _, made⟩ := Checks.bind_ok.mp read
    cases made
    rintro _ ⟨⟩
    exact ⟨quarters, rfl⟩

theorem millionths_of_parseScaledI32 {offset : Nat} {value : Float}
    (read : parseScaledI32 raw offset = .ok value) :
    ∃ word : Int32, value = word.toFloat / 1000000 := by
  obtain ⟨word, _, made⟩ := Checks.bind_ok.mp read
  cases made
  exact ⟨word.toInt32, rfl⟩

/-- The message of a packet, if there is one, is as the parser makes it. -/
def Packet.MessageAccepted (packet : Packet) : Prop :=
  ∀ message, packet.message? = some message → message.Accepted ∧ message.Measured

theorem yields_parseContactMsg (small : raw.length ≤ maxInnerPayload) (isV3 : Bool) :
    Yields Packet.MessageAccepted (parseContactMsg raw isV3) := by
  refine yields_bind fun _ _ => yields_bind fun (_, start) ratio => yields_bind fun _ _ => ?_
  refine yields_bind fun key keyCut => yields_bind fun _ _ => yields_bind fun _ _ => ?_
  have six : key.length = 6 := (length_of_slice keyCut).trans (by omega)
  have keyed : ∀ pubkeyPrefix, MessageSource.direct (hexEncode key) = .direct pubkeyPrefix →
      ∃ key : Octets 6, pubkeyPrefix = hexEncode key.val := by
    rintro _ ⟨⟩
    exact ⟨⟨key, six⟩, rfl⟩
  -- With a signature or without one, the rest of the packet is the text.
  refine yields_ite ?_ ?_
  · refine yields_bind fun _ _ => yields_bind fun _ _ => yields_bind fun _ _ => ?_
    refine yields_bind fun (_, cursor) _ => yields_text fun text short => yields_pure ?_
    rintro _ ⟨⟩
    exact ⟨⟨rfl, keyed, Nat.le_trans short small, rfl⟩, quarters_of_parseSnr ratio⟩
  · refine yields_bind fun (_, cursor) _ => yields_text fun text short => yields_pure ?_
    rintro _ ⟨⟩
    exact ⟨⟨rfl, keyed, Nat.le_trans short small, rfl⟩, quarters_of_parseSnr ratio⟩

theorem yields_parseChannelMsg (small : raw.length ≤ maxInnerPayload) (isV3 : Bool) :
    Yields Packet.MessageAccepted (parseChannelMsg raw isV3) := by
  refine yields_bind fun _ _ => yields_bind fun (_, cursor) ratio => yields_bind fun _ _ => ?_
  refine yields_bind fun _ _ => yields_bind fun _ _ => yields_bind fun _ _ => ?_
  refine yields_text fun text short => yields_pure ?_
  rintro _ ⟨⟩
  exact ⟨⟨rfl, nofun, Nat.le_trans short small, rfl⟩, quarters_of_parseSnr ratio⟩

theorem yields_parseContact (raw : Bytes) :
    Yields (fun packet => ∀ contact, packet = .contact contact →
      contact.Accepted ∧ contact.Measured) (parseContact raw) := by
  refine yields_bind fun _ _ => yields_bind fun _ _ => yields_bind fun _ _ => ?_
  refine yields_bind fun _ _ => yields_bind fun _ _ => yields_bind fun _ _ => ?_
  refine yields_bind fun _ _ => yields_ite (yields_bind fun _ rejected => by cases rejected) ?_
  refine yields_bind fun _ _ => yields_bind fun _ _ => ?_
  dsimp only
  split
  · refine yields_bind fun _ _ => yields_bind fun bytes cut => yields_bind fun name decoded => ?_
    refine yields_bind fun _ _ => yields_bind fun _ latitude => yields_bind fun _ longitude => ?_
    refine yields_bind fun _ _ => yields_pure ?_
    rintro _ ⟨⟩
    have encoded := utf8_of_decodePaddedString decoded
    refine ⟨?_, millionths_of_parseScaledI32 latitude, millionths_of_parseScaledI32 longitude⟩
    constructor
    · have shorter := (List.takeWhile_sublist (· ≠ (0 : UInt8)) (l := bytes)).length_le
      rw [length_of_slice cut] at shorter
      rw [← length_utf8, encoded]
      exact shorter
    · rw [encoded]
      exact fun inside => by simpa using List.all_eq_true.mp List.all_takeWhile _ inside
  · exact yields_bind fun _ rejected => by cases rejected

/-- Statistics, whose ratio is in quarters if they are those of the radio. -/
def DeviceStats.Measured (stats : DeviceStats) : Prop :=
  ∀ noiseFloor lastRssi lastSnr txAirtimeSeconds rxAirtimeSeconds,
    stats = .radio noiseFloor lastRssi lastSnr txAirtimeSeconds rxAirtimeSeconds →
    ∃ quarters, lastSnr = snrOfByte quarters

theorem yields_parseCoreStats (raw : Bytes) : Yields DeviceStats.Measured (parseCoreStats raw) := by
  refine yields_bind fun _ _ => yields_bind fun _ _ => yields_bind fun _ _ => ?_
  refine yields_bind fun _ _ => yields_bind fun _ _ => yields_pure ?_
  rintro _ _ _ _ _ ⟨⟩

theorem yields_parseRadioStats (raw : Bytes) :
    Yields DeviceStats.Measured (parseRadioStats raw) := by
  refine yields_bind fun _ _ => yields_bind fun _ _ => yields_bind fun _ _ => ?_
  refine yields_bind fun quarters _ => yields_bind fun _ _ => yields_bind fun _ _ => ?_
  refine yields_pure ?_
  rintro _ _ _ _ _ ⟨⟩
  exact ⟨quarters, rfl⟩

theorem yields_parsePacketStats (raw : Bytes) :
    Yields DeviceStats.Measured (parsePacketStats raw) := by
  have counters : ∀ recv sent floodRecv floodSent directRecv directSent recvErrors,
      (DeviceStats.packets recv sent floodRecv floodSent directRecv directSent
        recvErrors).Measured := by
    rintro _ _ _ _ _ _ _ _ _ _ _ _ ⟨⟩
  refine yields_ite (yields_bind fun _ _ => yields_bind fun _ rejected => by cases rejected) ?_
  refine yields_bind fun _ _ => yields_bind fun _ _ => yields_bind fun _ _ => ?_
  refine yields_bind fun _ _ => yields_bind fun _ _ => yields_bind fun _ _ => ?_
  refine yields_ite ?_ ?_
  · exact yields_bind fun _ _ => yields_pure (counters _ _ _ _ _ _ _)
  · exact yields_pure (counters _ _ _ _ _ _ _)

/-- Statistics are reported as their own parser reads them. -/
theorem yields_deviceStats {parse : Parse DeviceStats}
    (measured : Yields DeviceStats.Measured parse) :
    Yields (fun packet => ∀ stats, packet = Packet.deviceStats stats → stats.Measured)
      (parse >>= fun stats => pure (.deviceStats stats)) := by
  refine yields_bind fun stats read => yields_pure ?_
  rintro _ ⟨⟩
  exact measured stats read

theorem yields_parseStats (raw : Bytes) :
    Yields (fun packet => ∀ stats, packet = .deviceStats stats → stats.Measured)
      (parseStats raw) := by
  refine yields_bind fun _ _ => yields_bind fun _ _ => ?_
  refine yields_ite (yields_deviceStats (yields_parseCoreStats raw)) ?_
  refine yields_ite (yields_deviceStats (yields_parseRadioStats raw)) ?_
  refine yields_ite (yields_deviceStats (yields_parsePacketStats raw)) ?_
  intro _ failed
  cases failed

/-- A packet that is accepted is within the bound. -/
theorem Packet.length_of_parse (parsed : Packet.parse raw = .ok packet) :
    raw.length ≤ maxInnerPayload := by
  by_contra long
  obtain ⟨error, rejected⟩ := Packet.parse_of_size (.inr (Nat.not_le.mp long))
  rw [parsed] at rejected
  cases rejected

/-- Which parser a packet comes from, by its code. -/
structure Packet.ParsedAs (raw : Bytes) (packet : Packet) : Prop where
  contactMsg : packet.code = .contactMsgRecv → ∃ isV3, parseContactMsg raw isV3 = .ok packet
  channelMsg : packet.code = .channelMsgRecv → ∃ isV3, parseChannelMsg raw isV3 = .ok packet
  contact : packet.code = .contact → parseContact raw = .ok packet
  advertPath : packet.code = .advertPath → parseAdvertPath raw = .ok packet
  pathDiscovery : packet.code = .pathDiscoveryResponse → parsePathDiscovery raw = .ok packet
  stats : packet.code = .stats → parseStats raw = .ok packet
  telemetry : packet.code = .telemetryResponse → parseTelemetryResponse raw = .ok packet

/-- An accepted packet is what the parser for its code returns. -/
theorem Packet.parsed_as (parsed : Packet.parse raw = .ok packet) : packet.ParsedAs raw := by
  have small := Packet.length_of_parse parsed
  obtain ⟨first, rest, rfl, coded, -⟩ := Packet.reads_parse raw packet parsed
  have short : ¬ (rest.length + 1 > maxInnerPayload) := Nat.not_lt.mpr small
  simp only [Packet.parse, List.isEmpty_cons, Bool.false_eq_true, if_false, List.length_cons,
    short] at parsed
  obtain ⟨_, ⟨⟩, parsed⟩ := Checks.bind_ok.mp parsed
  -- The code of the packet is the one of its first byte, up to the layout of a message.
  generalize PacketCode.fromU8 first = code at coded parsed
  constructor
  all_goals
    intro same
    rw [coded] at same
  case contactMsg =>
    cases code with
    | contactMsgRecv => exact ⟨false, parsed⟩
    | contactMsgRecvV3 => exact ⟨true, parsed⟩
    | _ => cases same
  case channelMsg =>
    cases code with
    | channelMsgRecv => exact ⟨false, parsed⟩
    | channelMsgRecvV3 => exact ⟨true, parsed⟩
    | _ => cases same
  case contact =>
    cases code with
    | contact => exact parsed
    | _ => cases same
  case advertPath =>
    cases code with
    | advertPath => exact parsed
    | _ => cases same
  case pathDiscovery =>
    cases code with
    | pathDiscoveryResponse => exact parsed
    | _ => cases same
  case stats =>
    cases code with
    | stats => exact parsed
    | _ => cases same
  case telemetry =>
    cases code with
    | telemetryResponse => exact parsed
    | _ => cases same

/-- The message of an accepted packet. -/
theorem Packet.parsed_message (parsed : Packet.parse raw = .ok packet)
    (carries : packet.message? = some message) :
    message.Accepted ∧ message.Measured := by
  have small := Packet.length_of_parse parsed
  cases packet with
  | contactMsg message =>
    obtain ⟨isV3, accepted⟩ := (Packet.parsed_as parsed).contactMsg rfl
    exact yields_parseContactMsg small isV3 _ accepted _ carries
  | channelMsg message =>
    obtain ⟨isV3, accepted⟩ := (Packet.parsed_as parsed).channelMsg rfl
    exact yields_parseChannelMsg small isV3 _ accepted _ carries
  | _ => cases carries

theorem Packet.accepted_message (parsed : Packet.parse raw = .ok packet)
    (carries : packet.message? = some message) :
    message.Accepted := (Packet.parsed_message parsed carries).1

/-- The contact of an accepted packet. -/
theorem Packet.parsed_contact (parsed : Packet.parse raw = .ok (.contact contact)) :
    contact.Accepted ∧ contact.Measured :=
  yields_parseContact raw _ ((Packet.parsed_as parsed).contact rfl) contact rfl

theorem Packet.accepted_contact (parsed : Packet.parse raw = .ok (.contact contact)) :
    contact.Accepted :=
  (Packet.parsed_contact parsed).1

/-- The ratio of accepted radio statistics is in quarters. -/
theorem Packet.parsed_stats {noiseFloor : Int16} {lastRssi : Int8} {lastSnr : Float32}
    {txAirtimeSeconds rxAirtimeSeconds : UInt32} (parsed : Packet.parse raw = .ok
      (.deviceStats (.radio noiseFloor lastRssi lastSnr txAirtimeSeconds rxAirtimeSeconds))) :
    ∃ quarters, lastSnr = snrOfByte quarters :=
  yields_parseStats raw _ ((Packet.parsed_as parsed).stats rfl) _ rfl _ _ _ _ _ rfl

theorem yields_parseTelemetryResponse (raw : Bytes) :
    Yields (fun packet => ∀ response, packet = .telemetryResponse response →
      response.payload.length ≤ raw.length) (parseTelemetryResponse raw) := by
  refine yields_bind fun _ _ => yields_bind fun _ _ => ?_
  refine yields_ite (yields_bind fun _ rejected => by cases rejected) ?_
  refine yields_bind fun _ _ => yields_bind fun _ _ => yields_bind fun payload cut => ?_
  refine yields_pure ?_
  rintro _ ⟨⟩
  rw [length_of_slice cut]
  omega

/-- The readings of an accepted response are part of the packet. -/
theorem Packet.parsed_telemetry {response : TelemetryResponse}
    (parsed : Packet.parse raw = .ok (.telemetryResponse response)) :
    response.payload.length ≤ maxInnerPayload :=
  Nat.le_trans
    (yields_parseTelemetryResponse raw _ ((Packet.parsed_as parsed).telemetry rfl) response rfl)
    (Packet.length_of_parse parsed)

end Meshquill
