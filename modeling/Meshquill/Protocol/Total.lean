import Meshquill.Protocol.Parse

/-!
# The parser does not panic

Every index and every slice of the parser is inside the packet, whatever its bytes. The rules
follow the statements that the parsers are made of: one for each read, with its bound, and one
for each check, with what it establishes for the rest. Each parser is then read off its text.
-/
namespace Meshquill

/-- The parser returns or rejects. -/
def Parse.Total {α : Type} (parse : Parse α) : Prop := parse ≠ .error .panicked

namespace Parse

variable {α β : Type} {raw : Bytes}

theorem total_pure (value : α) : Total (pure value) := nofun

theorem total_reject (error : ParseError) : Total (reject error : Parse α) := nofun

variable {first : Parse α} {condition : Prop} {error : ParseError} {next : Unit → Parse β}
  {start stop n : Nat} {bytes : Bytes}

theorem total_bind {next : α → Parse β} (head : Total first)
    (tail : ∀ value, first = .ok value → Total (next value)) : Total (first >>= next) := by
  cases first with
  | error fault => exact fun panicked => head (congrArg Except.error (Except.error.inj panicked))
  | ok value => exact tail value rfl

theorem total_map (change : α → β) (head : Total first) : Total (change <$> first) := by
  cases first with
  | error fault => exact fun panicked => head (congrArg Except.error (Except.error.inj panicked))
  | ok value => exact nofun

theorem total_ite {decided : Decidable condition} {left right : Parse β} (holds : Total left)
    (fails : Total right) : Total (if condition then left else right) := by
  split
  · exact holds
  · exact fails

/-- A check that rejects. -/
theorem total_unless {decided : Decidable condition} (tail : ¬ condition → Total (next ())) :
    Total (if condition then reject error >>= next else next ()) := by
  split
  · exact nofun
  · exact tail ‹_›

/-- A length check that rejects one way or another. -/
theorem total_unless_length {decided : Decidable condition} {minimum : Nat} {code : PacketCode}
    (tail : ¬ condition → Total (next ())) :
    Total (if condition then requireLen raw minimum code >>= fun _ => reject error >>= next
      else next ()) := by
  split
  · unfold requireLen
    split <;> exact nofun
  · exact tail ‹_›

theorem total_byteAt {index : Nat} (inside : index < raw.length) : Total (byteAt raw index) := by
  simp [Total, byteAt, inside]

theorem total_slice (inside : start ≤ stop ∧ stop ≤ raw.length) : Total (slice raw start stop) := by
  simp [Total, slice, inside]

theorem length_of_slice (cut : slice raw start stop = .ok bytes) : bytes.length = stop - start := by
  unfold slice at cut
  split at cut
  · obtain rfl := Except.ok.inj cut
    rw [List.length_drop, List.length_take]
    omega
  · cases cut

theorem total_octets (exact : bytes.length = n) : Total (octets n bytes) := by
  simp [Total, octets, exact]

/-! The rules for a read and what follows it. -/

theorem total_byte {index : Nat} {next : UInt8 → Parse β} (inside : index < raw.length)
    (tail : ∀ byte, Total (next byte)) : Total (byteAt raw index >>= next) :=
  total_bind (total_byteAt inside) fun byte _ => tail byte

theorem total_cut {next : Bytes → Parse β} (inside : start ≤ stop ∧ stop ≤ raw.length)
    (tail : ∀ bytes : Bytes, bytes.length = stop - start → Total (next bytes)) :
    Total (slice raw start stop >>= next) :=
  total_bind (total_slice inside) fun bytes cut => tail bytes (length_of_slice cut)

/-- A slice into an array of its size. -/
theorem total_array {next : Octets n → Parse β}
    (inside : start ≤ stop ∧ stop ≤ raw.length ∧ stop - start = n)
    (tail : ∀ value, Total (next value)) :
    Total (slice raw start stop >>= fun bytes => octets n bytes >>= next) :=
  total_cut ⟨inside.1, inside.2.1⟩ fun _ cut =>
    total_bind (total_octets (cut.trans inside.2.2)) fun value _ => tail value

/-- A slice of text into a string. -/
theorem total_text {decode : Bytes → Parse String} {next : String → Parse β}
    (inside : start ≤ stop ∧ stop ≤ raw.length) (decodes : ∀ bytes, Total (decode bytes))
    (tail : ∀ text, Total (next text)) :
    Total (slice raw start stop >>= fun bytes => decode bytes >>= next) :=
  total_cut inside fun bytes _ => total_bind (decodes bytes) fun text _ => tail text

/-- A result that its type holds. -/
theorem total_fits {bits value : Nat} {next : Nat → Parse β} (small : value < 1 <<< bits)
    (tail : Total (next value)) : Total (fits bits value >>= next) := by
  rw [show fits bits value = .ok value from if_pos small]
  exact tail

end Parse

open Parse

variable {β : Type} {raw : Bytes}

variable {offset : Nat} {code : PacketCode} {next : Unit → Parse β}

theorem total_readU32 (inside : offset + 4 ≤ raw.length) : Total (readU32 raw offset) :=
  total_byte (by omega) fun _ => total_byte (by omega) fun _ => total_byte (by omega) fun _ =>
    total_byte (by omega) fun _ => total_pure _

theorem total_u32 {next : UInt32 → Parse β} (inside : offset + 4 ≤ raw.length)
    (tail : ∀ value, Total (next value)) : Total (readU32 raw offset >>= next) :=
  total_bind (total_readU32 inside) fun value _ => tail value

theorem total_u16 {next : UInt16 → Parse β} (inside : offset + 2 ≤ raw.length)
    (tail : ∀ value, Total (next value)) : Total (readU16 raw offset >>= next) := by
  have read : Total (readU16 raw offset) :=
    total_byte (by omega) fun _ => total_byte (by omega) fun _ => total_pure _
  exact total_bind read fun value _ => tail value

theorem total_i16 {next : Int16 → Parse β} (inside : offset + 2 ≤ raw.length)
    (tail : ∀ value, Total (next value)) : Total (readI16 raw offset >>= next) := by
  have read : Total (readI16 raw offset) := total_u16 inside fun _ => total_pure _
  exact total_bind read fun value _ => tail value

theorem total_i8 {next : Int8 → Parse β} (inside : offset < raw.length)
    (tail : ∀ value, Total (next value)) : Total (readI8 raw offset >>= next) := by
  have read : Total (readI8 raw offset) := total_byte inside fun _ => total_pure _
  exact total_bind read fun value _ => tail value

theorem total_scaled {next : Float → Parse β} (inside : offset + 4 ≤ raw.length)
    (tail : ∀ value, Total (next value)) : Total (parseScaledI32 raw offset >>= next) := by
  have read : Total (parseScaledI32 raw offset) := total_u32 inside fun _ => total_pure _
  exact total_bind read fun value _ => tail value

theorem total_requireLen {minimum : Nat} (tail : minimum ≤ raw.length → Total (next ())) :
    Total (requireLen raw minimum code >>= next) := by
  unfold requireLen
  split
  · exact nofun
  · exact tail (by omega)

theorem total_requireExactLen {expected : Nat} (tail : raw.length = expected → Total (next ())) :
    Total (requireExactLen raw expected code >>= next) := by
  by_cases exact : raw.length = expected
  · have passes : requireExactLen raw expected code = .ok () := by
      simp [requireExactLen, requireLen, exact]
    rw [passes]
    exact tail exact
  · unfold requireExactLen requireLen
    split
    · exact nofun
    · exact nofun

theorem total_decodePaddedString (bytes : Bytes) (context : String) :
    Total (decodePaddedString bytes context) := by
  unfold decodePaddedString
  split <;> exact nofun

theorem total_decodeText (bytes : Bytes) (context : String) : Total (decodeText bytes context) := by
  unfold decodeText
  split <;> exact nofun

/-- A descriptor announces at most 63 hops of four bytes. -/
theorem descriptorRoute_le (descriptor : UInt8) : (descriptorRoute descriptor).2 ≤ 252 := by
  unfold descriptorRoute
  split
  · exact Nat.zero_le _
  · have hops : (descriptor &&& 0x3f).toNat ≤ 63 := by
      rw [UInt8.toNat_and]
      exact Nat.and_le_right
    have mode : (descriptor >>> 6).toNat ≤ 3 := by
      have small : descriptor.toNat < 256 := descriptor.toNat_lt
      rw [UInt8.toNat_shiftRight, Nat.shiftRight_eq_div_pow]
      change descriptor.toNat / 2 ^ 6 ≤ 3
      omega
    exact Nat.mul_le_mul hops (Nat.succ_le_succ mode)

/-! ## The parsers -/

variable (raw)

theorem total_parseOk : Total (parseOk raw) := by
  unfold parseOk
  split <;> exact nofun

theorem total_parsePrivateKey : Total (parsePrivateKey raw) :=
  total_requireExactLen fun _ => total_array (by omega) fun _ => total_pure _

theorem total_parseDisabled : Total (parseDisabled raw) :=
  total_requireExactLen fun _ => total_pure _

theorem total_parseSignStart : Total (parseSignStart raw) :=
  total_requireExactLen fun _ => total_byte (by omega) fun _ => total_unless fun _ =>
    total_u32 (by omega) fun _ => total_pure _

theorem total_parseSignature : Total (parseSignature raw) :=
  total_requireExactLen fun _ => total_array (by omega) fun _ => total_pure _

theorem total_parseLoginFailed : Total (parseLoginFailed raw) :=
  total_requireExactLen fun _ => total_byte (by omega) fun _ => total_unless fun _ =>
    total_array (by omega) fun _ => total_pure _

theorem total_parseTelemetryResponse : Total (parseTelemetryResponse raw) :=
  total_requireLen fun _ => total_byte (by omega) fun _ => total_unless fun _ =>
    total_array (by omega) fun _ => total_cut (by omega) fun _ _ => total_pure _

theorem total_parseBinaryResponse : Total (parseBinaryResponse raw) :=
  total_requireLen fun _ => total_byte (by omega) fun _ => total_unless fun _ =>
    total_array (by omega) fun _ => total_cut (by omega) fun _ _ => total_pure _

theorem total_parseControlData : Total (parseControlData raw) :=
  total_requireLen fun _ => total_i8 (by omega) fun _ => total_i8 (by omega) fun _ =>
    total_byte (by omega) fun _ => total_cut (by omega) fun _ _ => total_pure _

theorem total_parseDiscoveredPath (cursor : Nat) : Total (parseDiscoveredPath raw cursor) := by
  unfold parseDiscoveredPath
  cases raw[cursor]? with
  | none => exact nofun
  | some descriptor =>
    simp only [pure_bind]
    refine total_unless fun inside => total_bind (total_slice ⟨Nat.le_add_right _ _, ?_⟩) ?_
    · exact Nat.le_of_not_gt inside
    · intro bytes _
      split <;> exact nofun

theorem total_parsePathDiscovery : Total (parsePathDiscovery raw) :=
  total_requireLen fun _ => total_byte (by omega) fun _ => total_unless fun _ =>
    total_array (by omega) fun _ => total_bind (total_parseDiscoveredPath raw 8) fun _ _ =>
    total_bind (total_parseDiscoveredPath raw _) fun _ _ => total_unless fun _ => total_pure _

theorem total_parseContactStart : Total (parseContactStart raw) :=
  total_requireLen fun _ => total_u32 (by omega) fun _ => total_pure _

theorem total_parseContactEnd : Total (parseContactEnd raw) :=
  total_requireLen fun _ => total_u32 (by omega) fun _ => total_pure _

theorem total_parseMsgSent : Total (parseMsgSent raw) :=
  total_requireLen fun _ => total_array (by omega) fun _ => total_byte (by omega) fun _ =>
    total_u32 (by omega) fun _ => total_pure _

theorem total_parseCurrentTime : Total (parseCurrentTime raw) :=
  total_requireExactLen fun _ => total_u32 (by omega) fun _ => total_pure _

theorem total_parseContactUri : Total (parseContactUri raw) :=
  total_requireLen fun _ => total_cut (by omega) fun _ _ => total_pure _

theorem total_parseTuningParams : Total (parseTuningParams raw) :=
  total_requireExactLen fun _ => total_u32 (by omega) fun _ => total_u32 (by omega) fun _ =>
    total_pure _

theorem total_parseLoginSuccess : Total (parseLoginSuccess raw) := by
  unfold parseLoginSuccess
  refine total_unless_length fun layout => ?_
  have long : 8 ≤ raw.length := by
    simp only [not_not, List.mem_cons, List.not_mem_nil, or_false] at layout
    omega
  refine total_array (by omega) fun _ => total_byte (by omega) fun _ => ?_
  split
  · exact total_bind (total_map _ (total_readU32 (by omega))) fun _ _ => total_pure _
  · exact total_pure _

theorem total_parseRemoteStatus : Total (parseRemoteStatus raw) := by
  unfold parseRemoteStatus
  refine total_unless_length fun layout => ?_
  have long : 60 ≤ raw.length := by
    simp only [not_not, List.mem_cons, List.not_mem_nil, or_false] at layout
    omega
  refine total_byte (by omega) fun _ => total_unless fun _ => total_array (by omega) fun _ => ?_
  refine total_u16 (by omega) fun _ => total_u16 (by omega) fun _ => total_i16 (by omega) fun _ =>
    total_i16 (by omega) fun _ => ?_
  refine total_u32 (by omega) fun _ => total_u32 (by omega) fun _ => total_u32 (by omega) fun _ =>
    total_u32 (by omega) fun _ => total_u32 (by omega) fun _ => total_u32 (by omega) fun _ =>
    total_u32 (by omega) fun _ => total_u32 (by omega) fun _ => ?_
  refine total_u16 (by omega) fun _ => total_i16 (by omega) fun _ => total_u16 (by omega) fun _ =>
    total_u16 (by omega) fun _ => total_u32 (by omega) fun _ => ?_
  split
  · exact total_bind (total_map _ (total_readU32 (by omega))) fun _ _ => total_pure _
  · exact total_pure _

theorem total_parseContact : Total (parseContact raw) := by
  refine total_requireLen fun _ => total_array (by omega) fun _ => total_byte (by omega) fun _ =>
    total_byte (by omega) fun _ => total_byte (by omega) fun descriptor => ?_
  have bounded := descriptorRoute_le descriptor
  generalize descriptorRoute descriptor = announced at bounded ⊢
  obtain ⟨route, used⟩ := announced
  refine total_fits (by omega) (total_unless fun inside => total_fits (by omega) ?_)
  refine total_cut (by omega) fun _ _ => ?_
  split
  · exact total_text (by omega) (total_decodePaddedString · _) fun _ =>
      total_u32 (by omega) fun _ => total_scaled (by omega) fun _ =>
      total_scaled (by omega) fun _ => total_u32 (by omega) fun _ => total_pure _
  · exact nofun

theorem total_parseSelfInfo : Total (parseSelfInfo raw) :=
  total_requireLen fun _ => total_array (by omega) fun _ => total_byte (by omega) fun _ =>
    total_byte (by omega) fun _ => total_byte (by omega) fun _ => total_byte (by omega) fun _ =>
    total_scaled (by omega) fun _ => total_scaled (by omega) fun _ => total_byte (by omega) fun _ =>
    total_byte (by omega) fun _ => total_byte (by omega) fun _ => total_u32 (by omega) fun _ =>
    total_u32 (by omega) fun _ => total_byte (by omega) fun _ => total_byte (by omega) fun _ =>
    total_text (by omega) (total_decodePaddedString · _) fun _ => total_pure _

theorem total_parseDeviceLimits (info : DeviceInfo) : Total (parseDeviceLimits raw info) :=
  total_requireLen fun _ => total_byte (by omega) fun contacts =>
    total_fits (by have := contacts.toNat_lt; omega) <| total_byte (by omega) fun _ =>
    total_u32 (by omega) fun _ => total_text (by omega) (total_decodePaddedString · _) fun _ =>
    total_text (by omega) (total_decodePaddedString · _) fun _ =>
    total_text (by omega) (total_decodePaddedString · _) fun _ => total_pure _

theorem total_parseDeviceInfo : Total (parseDeviceInfo raw) := by
  refine total_requireLen fun _ => total_byte (by omega) fun version => ?_
  -- Each of the three version checks doubles the ways to the end; all of them look alike.
  repeat' first
    | exact total_pure _
    | refine total_ite ?_ ?_
    | refine total_requireLen fun _ => total_byte (by omega) fun _ => ?_
    | refine total_bind (total_parseDeviceLimits raw _) fun _ _ => ?_

theorem total_parseSnr {isV3 : Bool} {next : Option Float32 × Nat → Parse β}
    (inside : 1 < raw.length)
    (tail : ∀ snr, Total (next (snr, if isV3 then 4 else 1))) :
    Total (parseSnr raw isV3 >>= next) := by
  cases isV3 with
  | false => exact tail none
  | true =>
    refine total_bind (total_i8 inside fun _ => total_pure _) ?_
    intro value read
    cases byte : readI8 raw 1 with
    | error fault => simp [parseSnr, byte] at read
    | ok quarters =>
      obtain rfl : (some (snrOfByte quarters), 4) = value := by simpa [parseSnr, byte] using read
      exact tail _

theorem total_parseContactMsg (isV3 : Bool) : Total (parseContactMsg raw isV3) := by
  refine total_requireLen fun long => ?_
  generalize start : (if isV3 then 4 else 1) = first
  have inside : first + 12 ≤ raw.length := by
    cases isV3 <;> simp at long start <;> omega
  refine total_parseSnr raw (by omega) fun _ => ?_
  rw [start]
  refine total_byte (by omega) fun _ => total_cut (by omega) fun _ _ =>
    total_byte (by omega) fun txtType => total_u32 (by omega) fun _ => ?_
  simp only [pure_bind]
  split
  · exact total_requireLen fun _ => total_array (by omega) fun _ =>
      total_text (by omega) (total_decodeText · _) fun _ => total_pure _
  · exact total_text (by omega) (total_decodeText · _) fun _ => total_pure _

theorem total_parseChannelMsg (isV3 : Bool) : Total (parseChannelMsg raw isV3) := by
  refine total_requireLen fun long => ?_
  generalize start : (if isV3 then 4 else 1) = first
  have inside : first + 7 ≤ raw.length := by
    cases isV3 <;> simp at long start <;> omega
  refine total_parseSnr raw (by omega) fun _ => ?_
  rw [start]
  exact total_byte (by omega) fun _ => total_byte (by omega) fun _ => total_byte (by omega) fun _ =>
    total_u32 (by omega) fun _ => total_text (by omega) (total_decodeText · _) fun _ => total_pure _

theorem total_parseBattery : Total (parseBattery raw) := by
  refine total_requireLen fun _ => total_u16 (by omega) fun _ => ?_
  split
  · exact total_pure _
  split
  · exact total_u32 (by omega) fun _ => total_u32 (by omega) fun _ => total_pure _
  split <;> exact nofun

theorem total_parseCustomEntries (pairs : List (List Char)) (entries : List CustomVariable) :
    Total (parseCustomEntries entries pairs) := by
  induction pairs generalizing entries with
  | nil => exact nofun
  | cons pair rest ih =>
    unfold parseCustomEntries
    split
    · exact nofun
    split
    · exact nofun
    split
    · exact nofun
    · exact ih _

theorem total_parseCustomVars (filled : 0 < raw.length) : Total (parseCustomVars raw) := by
  unfold parseCustomVars
  refine total_unless fun _ => total_cut (by omega) fun payload _ => ?_
  split
  · exact nofun
  split
  · exact total_pure _
  · exact total_bind (total_parseCustomEntries _ _) fun _ _ => total_pure _

theorem total_parseAdvertPath : Total (parseAdvertPath raw) := by
  refine total_requireLen fun _ => total_byte (by omega) fun descriptor => ?_
  have bounded := descriptorRoute_le descriptor
  generalize descriptorRoute descriptor = announced at bounded ⊢
  obtain ⟨route, used⟩ := announced
  refine total_fits (by omega) (total_fits (by omega) ?_)
  refine total_requireExactLen fun _ => total_cut (by omega) fun _ _ => ?_
  split
  · exact nofun
  · exact total_u32 (by omega) fun _ => total_pure _

theorem total_parseCoreStats : Total (parseCoreStats raw) :=
  total_requireExactLen fun _ => total_u16 (by omega) fun _ => total_u32 (by omega) fun _ =>
    total_u16 (by omega) fun _ => total_byte (by omega) fun _ => total_pure _

theorem total_parseRadioStats : Total (parseRadioStats raw) :=
  total_requireExactLen fun _ => total_i16 (by omega) fun _ => total_i8 (by omega) fun _ =>
    total_i8 (by omega) fun _ => total_u32 (by omega) fun _ => total_u32 (by omega) fun _ =>
    total_pure _

theorem total_parsePacketStats : Total (parsePacketStats raw) := by
  unfold parsePacketStats
  refine total_unless_length fun layout => ?_
  have long : 26 ≤ raw.length := by
    simp only [not_not, List.mem_cons, List.not_mem_nil, or_false] at layout
    omega
  refine total_u32 (by omega) fun _ => total_u32 (by omega) fun _ => total_u32 (by omega) fun _ =>
    total_u32 (by omega) fun _ => total_u32 (by omega) fun _ => total_u32 (by omega) fun _ => ?_
  split
  · exact total_bind (total_map _ (total_readU32 (by omega))) fun _ _ => total_pure _
  · exact total_pure _

theorem total_parseStats : Total (parseStats raw) := by
  refine total_requireLen fun _ => total_byte (by omega) fun subtype => ?_
  refine total_ite (total_bind (total_parseCoreStats raw) fun _ _ => total_pure _) ?_
  refine total_ite (total_bind (total_parseRadioStats raw) fun _ _ => total_pure _) ?_
  refine total_ite (total_bind (total_parsePacketStats raw) fun _ _ => total_pure _) ?_
  exact total_reject _

theorem total_parseAutoAddConfig : Total (parseAutoAddConfig raw) := by
  unfold parseAutoAddConfig
  refine total_unless_length fun layout => total_unless fun _ => ?_
  have long : 2 ≤ raw.length := by
    simp only [not_not, List.mem_cons, List.not_mem_nil, or_false] at layout
    omega
  exact total_byte (by omega) fun _ => total_pure _

theorem total_parseFrequencyRanges (bytes : Bytes) : Total (parseFrequencyRanges bytes) := by
  fun_induction parseFrequencyRanges bytes with
  | case1 => exact nofun
  | case2 b0 b1 b2 b3 b4 b5 b6 b7 rest lower upper next valid ih =>
    exact total_bind ih fun _ _ => total_pure _
  | case3 => exact nofun

theorem total_parseAllowedRepeatFrequencies (filled : 0 < raw.length) :
    Total (parseAllowedRepeatFrequencies raw) := by
  have subtracts : Total (subtract raw.length 1) := by
    rw [show subtract raw.length 1 = .ok (raw.length - 1) from if_pos filled]
    exact nofun
  exact total_bind subtracts fun _ _ => total_unless fun _ => total_cut (by omega) fun _ _ =>
    total_bind (total_parseFrequencyRanges _) fun _ _ => total_pure _

theorem total_parseDefaultFloodScope : Total (parseDefaultFloodScope raw) := by
  unfold parseDefaultFloodScope
  refine total_ite (total_pure _) ?_
  refine total_requireExactLen fun long => total_cut (by omega) fun field cut => ?_
  split
  · exact nofun
  · rename_i nameEnd found
    have inside : nameEnd < field.length := (List.findIdx?_eq_some_iff_findIdx_eq.mp found).1
    rw [cut] at inside
    refine total_unless fun _ => total_cut (by omega) fun _ _ => ?_
    split
    · exact nofun
    · exact total_array (by omega) fun _ => total_pure _

theorem total_parseChannelInfo : Total (parseChannelInfo raw) :=
  total_requireLen fun _ => total_byte (by omega) fun _ =>
    total_text (by omega) (total_decodePaddedString · _) fun _ => total_array (by omega) fun _ =>
    total_pure _

theorem total_parseAck : Total (parseAck raw) := by
  refine total_requireLen fun _ => total_unless fun _ => total_array (by omega) fun _ => ?_
  split
  · exact total_bind (total_map _ (total_readU32 (by omega))) fun _ _ => total_pure _
  · exact total_pure _

/-- No packet makes the parser panic. -/
theorem Packet.total_parse : Total (Packet.parse raw) := by
  unfold Packet.parse
  refine total_unless fun filled => total_unless fun _ => ?_
  have filled : 0 < raw.length := by simpa [List.length_pos_iff] using filled
  have unknown (code : UInt8) : Total (do
      return Packet.unknown code (← slice raw 1 raw.length)) :=
    total_cut (by omega) fun _ _ => total_pure _
  refine total_bind (total_byteAt filled) fun first _ => ?_
  cases PacketCode.fromU8 first with
  | ok => exact total_parseOk raw
  | error | noMoreMsgs | messagesWaiting => exact total_pure _
  | contactStart => exact total_parseContactStart raw
  | contact => exact total_parseContact raw
  | contactEnd => exact total_parseContactEnd raw
  | selfInfo => exact total_parseSelfInfo raw
  | msgSent => exact total_parseMsgSent raw
  | contactMsgRecv | contactMsgRecvV3 => exact total_parseContactMsg raw _
  | channelMsgRecv | channelMsgRecvV3 => exact total_parseChannelMsg raw _
  | currentTime => exact total_parseCurrentTime raw
  | contactUri => exact total_parseContactUri raw
  | battery => exact total_parseBattery raw
  | deviceInfo => exact total_parseDeviceInfo raw
  | privateKey => exact total_parsePrivateKey raw
  | disabled => exact total_parseDisabled raw
  | channelInfo => exact total_parseChannelInfo raw
  | signStart => exact total_parseSignStart raw
  | signature => exact total_parseSignature raw
  | customVars => exact total_parseCustomVars raw filled
  | advertPath => exact total_parseAdvertPath raw
  | tuningParams => exact total_parseTuningParams raw
  | stats => exact total_parseStats raw
  | autoaddConfig => exact total_parseAutoAddConfig raw
  | allowedRepeatFreq => exact total_parseAllowedRepeatFrequencies raw filled
  | defaultFloodScope => exact total_parseDefaultFloodScope raw
  | ack => exact total_parseAck raw
  | loginSuccess => exact total_parseLoginSuccess raw
  | loginFailed => exact total_parseLoginFailed raw
  | statusResponse => exact total_parseRemoteStatus raw
  | telemetryResponse => exact total_parseTelemetryResponse raw
  | binaryResponse => exact total_parseBinaryResponse raw
  | pathDiscoveryResponse => exact total_parsePathDiscovery raw
  | controlData => exact total_parseControlData raw
  | advertisement | pathUpdate | rawData | logData | traceData | newAdvert | contactDeleted
  | contactsFull | channelDataRecv =>
    exact total_bind (total_byteAt filled) fun code _ => unknown code
  | unknown code => exact unknown code

end Meshquill
