import Meshquill.Protocol.Layouts
import Meshquill.Protocol.Utf8

/-!
# Reading commands back

Several commands carry the same record as a response. The builders and the parsers of
`protocol.rs` compute their offsets separately; here each parser reads back what the builder
wrote, field by field.
-/
namespace Meshquill

open Field Parse

theorem Parse.bind_ok {α β : Type} (value : α) (next : α → Parse β) :
    ((.ok value : Parse α) >>= next) = next value := rfl

/-! ## Fields -/

section Fields

variable {layout : Layout UInt8} {field : Field UInt8}

variable {start stop : Nat}

theorem slice_of_le {raw : Bytes} (ordered : start ≤ stop) (inside : stop ≤ raw.length) :
    slice raw start stop = .ok ((raw.drop start).take (stop - start)) := by
  rw [slice, if_pos ⟨ordered, inside⟩, List.drop_take]

variable (index : Nat)

/-- A slice over a whole field. -/
theorem slice_field (fits : layout.Fits) (found : layout[index]? = some field)
    (starts : layout.offset index = start) (stops : start + field.width = stop) :
    slice (layout.encode 0) start stop = .ok (field.encode 0) := by
  have ends := Layout.offset_add_width_le found
  have long : (layout.encode 0).length = layout.width := Layout.length_encode fits
  subst starts stops
  rw [slice_of_le (Nat.le_add_right _ _) (by omega), Nat.add_sub_cancel_left,
    Layout.read_field fits found]

/-- A slice over the value of a field. -/
theorem slice_value (fits : layout.Fits) (found : layout[index]? = some field)
    (starts : layout.offset index = start) (stops : start + field.value.length = stop) :
    slice (layout.encode 0) start stop = .ok field.value := by
  have ends := Layout.offset_add_width_le found
  have short : field.value.length ≤ field.width := fits field (List.mem_of_getElem? found)
  have long : (layout.encode 0).length = layout.width := Layout.length_encode fits
  subst starts stops
  rw [slice_of_le (Nat.le_add_right _ _) (by omega), Nat.add_sub_cancel_left,
    Layout.read_value fits found]

/-- A byte of the value of a field. -/
theorem byteAt_value (fits : layout.Fits) (found : layout[index]? = some field)
    (starts : layout.offset index = start) {position : Nat} {byte : UInt8}
    (stored : field.value[position]? = some byte) :
    byteAt (layout.encode 0) (start + position) = .ok byte := by
  have value : ((layout.encode 0).drop (layout.offset index)).take field.value.length =
      field.value := Layout.read_value fits found
  subst starts
  have inside : position < field.value.length := (List.getElem?_eq_some_iff.mp stored).1
  have read : (layout.encode 0)[layout.offset index + position]? = some byte := by
    rw [← List.getElem?_drop, ← List.getElem?_take_of_lt inside, value, stored]
  rw [byteAt, read]

theorem byteAt_field {value : UInt8} (fits : layout.Fits)
    (found : layout[index]? = some (.byte value)) (starts : layout.offset index = start) :
    byteAt (layout.encode 0) start = .ok value := by
  have stored : (Field.byte value).value[0]? = some value := rfl
  exact byteAt_value index fits found starts stored

/-- Four bytes are read as one word. -/
theorem readU32_field {b0 b1 b2 b3 : UInt8} (fits : layout.Fits)
    (found : layout[index]? = some field) (stored : field.value = [b0, b1, b2, b3])
    (starts : layout.offset index = start) :
    readU32 (layout.encode 0) start = .ok (u32FromLe b0 b1 b2 b3) := by
  have zeroth : byteAt (layout.encode 0) (start + 0) = .ok b0 :=
    byteAt_value index fits found starts (by rw [stored]; rfl)
  have first : byteAt (layout.encode 0) (start + 1) = .ok b1 :=
    byteAt_value index fits found starts (by rw [stored]; rfl)
  have second : byteAt (layout.encode 0) (start + 2) = .ok b2 :=
    byteAt_value index fits found starts (by rw [stored]; rfl)
  have third : byteAt (layout.encode 0) (start + 3) = .ok b3 :=
    byteAt_value index fits found starts (by rw [stored]; rfl)
  rw [readU32, show byteAt (layout.encode 0) start = .ok b0 from zeroth, first, second, third]
  rfl

theorem u32FromLe_u32ToLe (value : UInt32) :
    u32FromLe (UInt8.ofNat value.toNat) (UInt8.ofNat (value.toNat / 256))
      (UInt8.ofNat (value.toNat / 65536)) (UInt8.ofNat (value.toNat / 16777216)) = value := by
  have small : value.toNat < 4294967296 := value.toNat_lt
  apply UInt32.toNat_inj.mp
  simp only [u32FromLe, UInt8.toNat_ofNat', UInt32.toNat_ofNat']
  omega

theorem readU32_word {value : UInt32} (fits : layout.Fits)
    (found : layout[index]? = some (.word value)) (starts : layout.offset index = start) :
    readU32 (layout.encode 0) start = .ok value := by
  rw [readU32_field index fits found rfl starts, u32FromLe_u32ToLe]

/-- A slice into an array of the size of the field. -/
theorem octets_field {n : Nat} (bytes : Octets n) :
    Parse.octets n ((Field.octets bytes).encode 0) = .ok bytes := by
  rw [encode_octets, Parse.octets, dif_pos bytes.property]

end Fields

/-! ## Text -/

variable {bytes fields : Bytes} {command : Command} {code : UInt8} {name : String}
  {contact : Contact}

/-- A string without a NUL is what stands before the first zero of its field. -/
theorem takeWhile_padded (noNul : (0 : UInt8) ∉ bytes) (width : Nat) :
    ((padded bytes width).encode 0).takeWhile (· ≠ 0) = bytes := by
  have kept : ∀ byte ∈ bytes, decide (byte ≠ 0) = true := by
    intro byte inside
    exact decide_eq_true fun zero => noNul (zero ▸ inside)
  rw [encode_padded, List.takeWhile_append_of_pos kept, List.takeWhile_replicate]
  simp

theorem decodePaddedString_field {text : String} (noNul : (0 : UInt8) ∉ utf8 text) (width : Nat)
    (context : String) :
    decodePaddedString ((padded (utf8 text) width).encode 0) context = .ok text := by
  rw [decodePaddedString, takeWhile_padded noNul, fromUtf8_utf8]

/-! ## Records -/

/-- The payload of a command, without its code. -/
theorem Command.Lays.payload {fields : Layout UInt8} (lays : command.Lays (.byte code :: fields)) :
    command.payload = fields.encode 0 ∧ fields.Fits ∧ command.payload.length < maxInnerPayload :=
  ⟨(List.cons.inj lays.encoded).2, (Layout.fits_cons.mp lays.fits).2, lays.sized⟩

/-- A record behind another code. -/
theorem fits_recoded {fields : Layout UInt8} (fits : fields.Fits) :
    Layout.Fits (.byte code :: fields) := by
  simp [fits]

/-- The packets in which the device returns what was set. -/
theorem parse_coded (sized : fields.length < maxInnerPayload) :
    Packet.parse (0x12 :: fields) = parseChannelInfo (0x12 :: fields) ∧
    Packet.parse (0x1c :: fields) = parseDefaultFloodScope (0x1c :: fields) ∧
    Packet.parse (0x19 :: fields) = parseAutoAddConfig (0x19 :: fields) ∧
    Packet.parse (0x03 :: fields) = parseContact (0x03 :: fields) := by
  have short : ¬ (fields.length + 1 > maxInnerPayload) := Nat.not_lt.mpr sized
  simp only [Packet.parse, List.isEmpty_cons, Bool.false_eq_true, if_false, List.length_cons, short]
  exact ⟨rfl, rfl, rfl, rfl⟩

theorem parseChannelInfo_fields (code idx : UInt8) (secret : Octets 16)
    (fits : Layout.Fits (.byte code :: Command.channelFields idx name secret))
    (noNul : (0 : UInt8) ∉ utf8 name) :
    parseChannelInfo (Layout.encode 0 (.byte code :: Command.channelFields idx name secret)) =
      .ok (.channelInfo { idx, name, secret := some secret }) := by
  have long : (Layout.encode (0 : UInt8) _).length = 50 := Layout.length_encode fits
  have indexed : byteAt (Layout.encode (0 : UInt8) _) 1 = .ok idx := byteAt_field 1 fits rfl rfl
  have named : slice (Layout.encode (0 : UInt8) _) 2 34 = .ok _ := slice_field 2 fits rfl rfl rfl
  have keyed : slice (Layout.encode (0 : UInt8) _) 34 50 = .ok _ := slice_field 3 fits rfl rfl rfl
  simp only [parseChannelInfo, requireLen, long, indexed, named, keyed, Nat.lt_irrefl, if_false,
    bind_ok, decodePaddedString_field noNul, octets_field]
  rfl

theorem setChannel_reads_back {idx : UInt8} {secret : Octets 16}
    (built : Command.setChannel idx name secret = .ok command) :
    Packet.parse (0x12 :: command.payload) =
      .ok (.channelInfo { idx, name, secret := some secret }) := by
  obtain ⟨payload, fits, sized⟩ :=
    (Command.laysOut_setChannel idx name secret command built).payload
  obtain ⟨_, _, rest⟩ := Checks.bind_ok.mp built
  obtain ⟨_, unterminated, _⟩ := Checks.bind_ok.mp rest
  rw [(parse_coded sized).1, payload]
  exact parseChannelInfo_fields 0x12 idx secret (fits_recoded fits)
    (zero_notMem_of_rejectNul unterminated)

/-- The name ends at the first zero of its field, which is there because the field is longer
than any name. -/
theorem findIdx?_padded (noNul : (0 : UInt8) ∉ bytes) {width : Nat} (short : bytes.length < width) :
    ((padded bytes width).encode 0).findIdx? (· = 0) = some bytes.length := by
  have kept : bytes.findIdx? (· = 0) = none := by
    refine List.findIdx?_eq_none_iff.mpr fun byte inside => ?_
    exact decide_eq_false fun zero => noNul (zero ▸ inside)
  rw [encode_padded, List.findIdx?_append, kept]
  obtain ⟨rest, same⟩ : ∃ rest, width - bytes.length = rest + 1 := ⟨width - bytes.length - 1, by omega⟩
  rw [same, List.replicate_succ, List.findIdx?_cons]
  simp

theorem parseDefaultFloodScope_fields (code : UInt8) (key : Octets 16)
    (fits : Layout.Fits (.byte code :: Command.scopeFields name key)) (filled : utf8 name ≠ [])
    (short : (utf8 name).length ≤ 30) (noNul : (0 : UInt8) ∉ utf8 name) :
    parseDefaultFloodScope (Layout.encode 0 (.byte code :: Command.scopeFields name key)) =
      .ok (.defaultFloodScope (.configured { name := some name, key })) := by
  have long : (Layout.encode (0 : UInt8) _).length = 48 := Layout.length_encode fits
  have named : slice (Layout.encode (0 : UInt8) _) 1 32 = .ok _ := slice_field 1 fits rfl rfl rfl
  have text : slice (Layout.encode (0 : UInt8) _) 1 ((utf8 name).length + 1) =
      .ok (utf8 name) :=
    slice_value 1 fits rfl rfl (Nat.add_comm _ _)
  have keyed : slice (Layout.encode (0 : UInt8) _) 32 48 = .ok _ := slice_field 2 fits rfl rfl rfl
  have nonzero : (utf8 name).length ≠ 0 := fun zero => filled (List.length_eq_zero_iff.mp zero)
  simp only [parseDefaultFloodScope, requireExactLen, requireLen, long, named, text, keyed,
    findIdx?_padded noNul (Nat.lt_succ_of_le short), fromUtf8_utf8, octets_field, bind_ok, nonzero,
    Nat.lt_irrefl, Nat.reduceEqDiff, ne_eq, not_true_eq_false, if_false]
  rfl

theorem setDefaultFloodScope_reads_back {key : Octets 16}
    (built : Command.setDefaultFloodScope name key = .ok command) :
    Packet.parse (0x1c :: command.payload) =
      .ok (.defaultFloodScope (.configured { name := some name, key })) := by
  obtain ⟨payload, fits, sized⟩ :=
    (Command.laysOut_setDefaultFloodScope name key command built).payload
  obtain ⟨_, named, rest⟩ := Checks.bind_ok.mp built
  obtain ⟨_, unterminated, _⟩ := Checks.bind_ok.mp rest
  obtain ⟨filled, short⟩ := length_of_validateTextField named
  rw [(parse_coded sized).2.1, payload]
  exact parseDefaultFloodScope_fields 0x1c key (fits_recoded fits) filled short
    (zero_notMem_of_rejectNul unterminated)

theorem setAutoAddConfig_reads_back {config : AutoAddConfig}
    (built : Command.setAutoAddConfig config = .ok command) :
    Packet.parse (0x19 :: command.payload) = .ok (.autoAddConfig config) := by
  obtain ⟨payload, -, sized⟩ := (Command.laysOut_setAutoAddConfig config command built).payload
  have bounded : ¬ config.maxHops.any (· > 64) = true := by
    intro above
    rw [Command.setAutoAddConfig, if_pos above] at built
    cases built
  rw [(parse_coded sized).2.2.1, payload]
  obtain ⟨flags, maxHops⟩ := config
  cases maxHops with
  | none => rfl
  | some hops =>
    change parseAutoAddConfig [0x19, flags, hops] = _
    have complete : ¬ [0x19, flags, hops].length ∉ [2, 3] := by simp
    simp only [parseAutoAddConfig, complete, if_false]
    exact if_neg bounded

/-! ## Contacts -/

/-- A route that fits its path is read back from its descriptor. -/
theorem descriptorRoute_descriptor {route : ContactRoute} {path : Path}
    (describes : route.Describes path) :
    descriptorRoute route.descriptor = (route, path.bytes.length) := by
  cases route with
  | flood =>
    have empty : path.bytes = [] := describes
    rw [empty]
    rfl
  | path hashMode hopCount =>
    obtain ⟨mode, hops, long⟩ := describes
    have all : ∀ mode < 3, ∀ hops < 64,
        descriptorRoute (UInt8.ofNat mode <<< 6 ||| UInt8.ofNat hops) =
          (.path (UInt8.ofNat mode) (UInt8.ofNat hops), hops * (mode + 1)) := by
      decide +kernel
    have read := all hashMode.toNat (Nat.lt_succ_of_le (UInt8.le_iff_toNat_le.mp mode))
      hopCount.toNat (Nat.lt_succ_of_le (UInt8.le_iff_toNat_le.mp hops))
    rw [UInt8.ofNat_toNat, UInt8.ofNat_toNat] at read
    rw [long]
    exact read

theorem fromU8_contactTypeToU8 {contactType : ContactType}
    (named : ∀ raw, contactType = .unknown raw → 3 < raw) :
    ContactType.fromU8 (contactTypeToU8 contactType) = contactType := by
  cases contactType with
  | unknown raw =>
    have other : 3 < raw := named raw rfl
    change ContactType.fromU8 raw = .unknown raw
    unfold ContactType.fromU8
    split
    · exact absurd other (by decide)
    · exact absurd other (by decide)
    · exact absurd other (by decide)
    · exact absurd other (by decide)
    · rfl
  | _ => rfl

/-- A contact record, and the word in which a device says when it last changed. -/
theorem parseContact_fields (code : UInt8) (b0 b1 b2 b3 : UInt8) (fits : Layout.Fits
      (.byte code :: (Command.contactFields contact ++ [.exact [b0, b1, b2, b3]])))
    (named : ∀ raw, contact.contactType = .unknown raw → 3 < raw)
    (noNul : (0 : UInt8) ∉ utf8 contact.advName)
    (describes : contact.route.Describes contact.outPath)
    (short : contact.outPath.bytes.length ≤ 64) :
    let raw := Layout.encode 0
      (.byte code :: (Command.contactFields contact ++ [.exact [b0, b1, b2, b3]]))
    readU32 raw 136 = .ok (coordinateWord contact.advLat).toUInt32 ∧
    readU32 raw 140 = .ok (coordinateWord contact.advLon).toUInt32 ∧
    parseContact raw = .ok (.contact { contact with
      advLat := (coordinateWord contact.advLat).toFloat / 1000000
      advLon := (coordinateWord contact.advLon).toFloat / 1000000
      lastmod := u32FromLe b0 b1 b2 b3 }) := by
  intro raw
  have latitude : readU32 raw 136 = .ok (coordinateWord contact.advLat).toUInt32 :=
    readU32_word 8 fits rfl rfl
  have longitude : readU32 raw 140 = .ok (coordinateWord contact.advLon).toUInt32 :=
    readU32_word 9 fits rfl rfl
  refine ⟨latitude, longitude, ?_⟩
  have long : raw.length = 148 := Layout.length_encode fits
  have key : slice raw 1 33 = .ok _ := slice_field 1 fits rfl rfl rfl
  have kind : byteAt raw 33 = .ok _ := byteAt_field 2 fits rfl rfl
  have flags : byteAt raw 34 = .ok _ := byteAt_field 3 fits rfl rfl
  have descriptor : byteAt raw 35 = .ok _ := byteAt_field 4 fits rfl rfl
  have path : slice raw 36 (36 + contact.outPath.bytes.length) = .ok contact.outPath.bytes :=
    slice_value 5 fits rfl rfl rfl
  have name : slice raw 100 132 = .ok _ := slice_field 6 fits rfl rfl rfl
  have advert : readU32 raw 132 = .ok _ := readU32_word 7 fits rfl rfl
  have changed : readU32 raw 144 = .ok (u32FromLe b0 b1 b2 b3) := readU32_field 10 fits rfl rfl rfl
  have whole : Path.tryFromBytes contact.outPath.bytes = some contact.outPath :=
    dif_pos contact.outPath.bounded
  have used : Parse.fits 16 contact.outPath.bytes.length = .ok contact.outPath.bytes.length :=
    if_pos (by omega)
  have ended : Parse.fits 16 (36 + contact.outPath.bytes.length) =
      .ok (36 + contact.outPath.bytes.length) := if_pos (by omega)
  have inside : ¬ contact.outPath.bytes.length > 64 := Nat.not_lt.mpr short
  simp only [parseContact, requireLen, long, Nat.lt_irrefl, if_false, bind_ok, key, octets_field,
    kind, flags, descriptor, descriptorRoute_descriptor describes, used, inside, ended, path, whole,
    pure, Except.pure, name, decodePaddedString_field noNul, advert, parseScaledI32, latitude,
    longitude, changed, fromU8_contactTypeToU8 named]
  rfl

theorem updateContact_reads_back (built : Command.updateContact contact = .ok command)
    (named : ∀ raw, contact.contactType = .unknown raw → 3 < raw) (b0 b1 b2 b3 : UInt8) :
    let raw := 0x03 :: (command.payload ++ [b0, b1, b2, b3])
    ∃ latitude longitude,
      scaledCoordinate contact.advLat (-90) 90 "latitude" = .ok latitude ∧
      scaledCoordinate contact.advLon (-180) 180 "longitude" = .ok longitude ∧
      readU32 raw 136 = .ok latitude.toUInt32 ∧ readU32 raw 140 = .ok longitude.toUInt32 ∧
      Packet.parse raw = .ok (.contact { contact with
        advLat := latitude.toFloat / 1000000
        advLon := longitude.toFloat / 1000000
        lastmod := u32FromLe b0 b1 b2 b3 }) := by
  intro raw
  obtain ⟨payload, fits, _⟩ := (Command.laysOut_updateContact contact command built).payload
  obtain ⟨_, _, rest⟩ := Checks.bind_ok.mp built
  obtain ⟨_, unterminated, rest⟩ := Checks.bind_ok.mp rest
  obtain ⟨_, routed, rest⟩ := Checks.bind_ok.mp rest
  obtain ⟨latitude, validLatitude, rest⟩ := Checks.bind_ok.mp rest
  obtain ⟨longitude, validLongitude, rest⟩ := Checks.bind_ok.mp rest
  obtain ⟨-, describes, short⟩ := descriptor_of_encodeContactRoute routed
  obtain rfl := coordinateWord_of_scaledCoordinate validLatitude
  obtain rfl := coordinateWord_of_scaledCoordinate validLongitude
  refine ⟨_, _, validLatitude, validLongitude, ?_⟩
  have record : raw = Layout.encode 0
      (.byte 0x03 :: (Command.contactFields contact ++ [.exact [b0, b1, b2, b3]])) := by
    simp [raw, payload, Layout.encode]
  have fits : Layout.Fits
      (.byte 0x03 :: (Command.contactFields contact ++ [.exact [b0, b1, b2, b3]])) := by
    refine fits_recoded (List.forall_mem_append.mpr ⟨fits, ?_⟩)
    simp
  have sized : (command.payload ++ [b0, b1, b2, b3]).length < maxInnerPayload := by
    have long : raw.length = 148 := by
      rw [record]
      exact Layout.length_encode fits
    have long : (command.payload ++ [b0, b1, b2, b3]).length + 1 = 148 := long
    rw [maxInnerPayload]
    omega
  obtain ⟨first, second, read⟩ := parseContact_fields 0x03 b0 b1 b2 b3 fits named
    (zero_notMem_of_rejectNul unterminated) describes short
  rw [← record] at first second read
  exact ⟨first, second, (parse_coded sized).2.2.2.trans read⟩

end Meshquill
