import Meshquill.Checks
import Meshquill.Layout
import Meshquill.Protocol.Command

/-!
# Layouts of the commands

What a builder produces when it accepts its arguments, as fields: a padded name, path or key
stands whole in its field, and the encoded command is no longer than a packet may be. The
builders with fixed arguments and those that check the size themselves come out alike here;
for the direct and channel sends the bound is left to their caller.
-/
namespace Meshquill

namespace Field

def byte (value : UInt8) : Field UInt8 := { value := [value], width := 1 }

/-- A little-endian word. -/
def word (value : UInt32) : Field UInt8 := { value := u32ToLe value, width := 4 }

def octets {n : Nat} (bytes : Octets n) : Field UInt8 := { value := bytes.val, width := n }

/-- Bytes in a field of fixed width, zeros after them. -/
def padded (bytes : Bytes) (width : Nat) : Field UInt8 := { value := bytes, width }

@[simp] theorem fits_byte (value : UInt8) : (byte value).Fits := Nat.le_refl 1

@[simp] theorem fits_word (value : UInt32) : (word value).Fits := Nat.le_refl 4

@[simp] theorem fits_octets {n : Nat} (bytes : Octets n) : (octets bytes).Fits :=
  Nat.le_of_eq bytes.property

theorem fits_padded {bytes : Bytes} {width : Nat} (short : bytes.length ≤ width) :
    (padded bytes width).Fits := short

@[simp] theorem encode_byte (value : UInt8) : (byte value).encode 0 = [value] := rfl

@[simp] theorem encode_word (value : UInt32) : (word value).encode 0 = u32ToLe value := rfl

@[simp] theorem encode_octets {n : Nat} (bytes : Octets n) :
    (octets bytes).encode 0 = bytes.val := encode_of_length bytes.property

@[simp] theorem encode_padded (bytes : Bytes) (width : Nat) :
    (padded bytes width).encode 0 = bytes ++ List.replicate (width - bytes.length) 0 := rfl

end Field

open Field

/-! ## Checked arguments -/

variable {value field : String}

theorem length_of_validateTextField {maximumBytes : Nat}
    (valid : validateTextField value maximumBytes field = .ok ()) :
    utf8 value ≠ [] ∧ (utf8 value).length ≤ maximumBytes := by
  unfold validateTextField at valid
  split at valid
  · cases valid
  · split at valid
    · cases valid
    · rename_i filled short
      refine ⟨fun empty => filled ?_, Nat.le_of_not_gt short⟩
      have bytes : value.toByteArray = ⟨#[]⟩ := by
        have data : value.toByteArray.data = #[] := Array.toList_eq_nil_iff.mp empty
        cases same : value.toByteArray with
        | mk array =>
          rw [same] at data
          exact congrArg ByteArray.mk data
      have same : value = "" := String.toByteArray_inj.mp bytes
      subst same
      rfl

theorem zero_notMem_of_rejectNul (valid : rejectNul value field = .ok ()) :
    (0 : UInt8) ∉ utf8 value := by
  unfold rejectNul at valid
  split at valid
  · cases valid
  · assumption

/-- The byte that a route is sent as. -/
def ContactRoute.descriptor : ContactRoute → UInt8
  | .flood => 0xff
  | .path hashMode hopCount => (hashMode <<< 6) ||| hopCount

/-- The route that a path has to have the length of. -/
def ContactRoute.Describes (path : Path) : ContactRoute → Prop
  | .flood => path.bytes = []
  | .path hashMode hopCount =>
    hashMode ≤ 2 ∧ hopCount ≤ 63 ∧ path.bytes.length = hopCount.toNat * (hashMode.toNat + 1)

theorem descriptor_of_encodeContactRoute {route : ContactRoute} {path : Path} {descriptor : UInt8}
    (encoded : encodeContactRoute route path = .ok descriptor) :
    descriptor = route.descriptor ∧ route.Describes path ∧ path.bytes.length ≤ 64 := by
  unfold encodeContactRoute at encoded
  cases route with
  | flood =>
    simp only at encoded
    split at encoded
    · cases encoded
    · rename_i empty
      cases encoded
      have empty : path.bytes = [] := not_not.mp empty
      exact ⟨rfl, empty, by simp [empty]⟩
  | path hashMode hopCount =>
    simp only at encoded
    split at encoded
    · cases encoded
    rename_i bounded
    split at encoded
    · cases encoded
    rename_i exact
    split at encoded
    · cases encoded
    rename_i short
    cases encoded
    have exact : path.bytes.length = hopCount.toNat * (hashMode.toNat + 1) := not_not.mp exact
    rw [not_or, UInt8.not_lt, UInt8.not_lt] at bounded
    exact ⟨rfl, ⟨bounded.1, bounded.2, exact⟩, by omega⟩

/-- The word that a coordinate is sent as. -/
def coordinateWord (value : Float) : Int32 := (value * 1000000).toInt32

theorem coordinateWord_of_scaledCoordinate {value : Float} {minimum maximum : Int}
    {scaled : Int32} (valid : scaledCoordinate value minimum maximum field = .ok scaled) :
    scaled = coordinateWord value := by
  unfold scaledCoordinate at valid
  split at valid
  · cases valid
  · cases valid
    rfl

theorem length_resize (bytes : Bytes) (length : Nat) : (resize bytes length).length = length := by
  rw [resize, List.length_append, List.length_take, List.length_replicate]
  omega

theorem resize_of_le {bytes : Bytes} {length : Nat} (fits : bytes.length ≤ length) :
    resize bytes length = bytes ++ List.replicate (length - bytes.length) 0 := by
  rw [resize, List.take_of_length_le fits]

/-! ## Built commands -/

/-- The command is encoded as these fields, each with its whole value, and is not too long. -/
structure Command.Lays (layout : Layout UInt8) (command : Command) : Prop where
  encoded : command.intoEncoded = layout.encode 0
  fits : layout.Fits
  sized : command.intoEncoded.length ≤ maxInnerPayload

/-- Whatever the builder accepts, the command has these fields. -/
def LaysOut (layout : Layout UInt8) (result : Except CoreError Command) : Prop :=
  ∀ command, result = .ok command → command.Lays layout

section Rules

variable {layout : Layout UInt8} {code : CommandCode}

theorem laysOut_refused (field message : String) :
    LaysOut layout (invalidArgument field message) := by
  intro command built
  cases built

theorem laysOut_bind {α : Type} {first : Except CoreError α} {next : α → Except CoreError Command}
    (tail : ∀ value, first = .ok value → LaysOut layout (next value)) :
    LaysOut layout (first >>= next) := by
  intro command built
  obtain ⟨value, ran, rest⟩ := Checks.bind_ok.mp built
  exact tail value ran command rest

theorem laysOut_ite {condition : Prop} [Decidable condition]
    {first second : Except CoreError Command} (yes : LaysOut layout first)
    (no : LaysOut layout second) : LaysOut layout (if condition then first else second) := by
  split
  · exact yes
  · exact no

theorem laysOut_checked {payload : Bytes} (fits : layout.Fits)
    (encoded : code.toU8 :: payload = layout.encode 0) :
    LaysOut layout (Command.checked code payload) := by
  intro command built
  unfold Command.checked at built
  simp only at built
  split at built
  · cases built
  · rename_i short
    cases built
    exact ⟨encoded, fits, Nat.le_of_not_gt short⟩

theorem length_of_requireKey {publicKey : Bytes} (valid : Command.requireKey publicKey = .ok ()) :
    publicKey.length = 32 := by
  unfold Command.requireKey at valid
  split at valid
  · cases valid
  · exact not_not.mp ‹_›

theorem laysOut_withKey (code : CommandCode) (publicKey lead : Bytes) :
    LaysOut [byte code.toU8, .exact lead, padded publicKey 32]
      (Command.withKey code publicKey lead) := by
  refine laysOut_bind fun _ valid => ?_
  have exact := length_of_requireKey valid
  have fits : (padded publicKey 32).Fits := fits_padded (Nat.le_of_eq exact)
  exact laysOut_checked (by simp [fits]) (by simp [exact])

theorem laysOut_withKeySuffix (code : CommandCode) {publicKey suffix : Bytes} {rest : Layout UInt8}
    (fits : rest.Fits) (encoded : suffix = rest.encode 0) :
    LaysOut (byte code.toU8 :: padded publicKey 32 :: rest)
      (Command.withKeySuffix code publicKey suffix) := by
  refine laysOut_bind fun _ valid => ?_
  have exact := length_of_requireKey valid
  have whole : (padded publicKey 32).Fits := fits_padded (Nat.le_of_eq exact)
  exact laysOut_checked (by simp [whole, fits]) (by simp [exact, encoded])

end Rules

/-! ## The builders -/

namespace Command

theorem laysOut_setAdvertName (name : String) :
    LaysOut [byte 0x08, .exact (utf8 name)] (setAdvertName name) :=
  laysOut_bind fun _ _ => laysOut_bind fun _ _ =>
    laysOut_checked (by simp) (by simp [CommandCode.toU8])

theorem laysOut_setCoordinates (latitude longitude : Float) :
    LaysOut [byte 0x0e, word (coordinateWord latitude).toUInt32,
      word (coordinateWord longitude).toUInt32, word 0] (setCoordinates latitude longitude) := by
  refine laysOut_bind fun scaledLatitude validLatitude =>
    laysOut_bind fun scaledLongitude validLongitude => ?_
  rw [coordinateWord_of_scaledCoordinate validLatitude,
    coordinateWord_of_scaledCoordinate validLongitude]
  exact laysOut_checked (by simp) (by simp [CommandCode.toU8])

theorem laysOut_setTxPower (powerDbm : Int8) :
    LaysOut [byte 0x0c, byte powerDbm.toUInt8] (setTxPower powerDbm) :=
  laysOut_ite (laysOut_refused _ _) (laysOut_checked (by simp) (by simp [CommandCode.toU8]))

/-- The repeat flag is only sent when it is given. -/
def repeatField (repeats : Option Bool) : Bytes :=
  (repeats.map fun repeats => [if repeats then 1 else 0]).getD []

theorem laysOut_setRadioParams (params : RadioParams) :
    LaysOut [byte 0x0b, word params.frequencyKhz, word params.bandwidthHz,
      byte params.spreadingFactor, byte params.codingRate, .exact (repeatField params.repeats)]
      (setRadioParams params) :=
  laysOut_bind fun _ _ => laysOut_bind fun _ _ => laysOut_bind fun _ _ => laysOut_bind fun _ _ =>
    laysOut_checked (by simp) (by simp [CommandCode.toU8, repeatField])

/-- A contact record without its last-modified word. -/
def contactFields (contact : Contact) : Layout UInt8 :=
  [octets contact.publicKey, byte (contactTypeToU8 contact.contactType), byte contact.flags,
    byte contact.route.descriptor, padded contact.outPath.bytes 64,
    padded (utf8 contact.advName) 32, word contact.lastAdvert,
    word (coordinateWord contact.advLat).toUInt32, word (coordinateWord contact.advLon).toUInt32]

/-- Two paddings in a row: the path field is filled before the name follows. -/
theorem encode_contactFields {contact : Contact} (path : contact.outPath.bytes.length ≤ 64)
    (name : (utf8 contact.advName).length ≤ 32) :
    (contactFields contact).encode 0 =
      resize (resize (contact.publicKey.val ++
        [contactTypeToU8 contact.contactType, contact.flags, contact.route.descriptor] ++
        contact.outPath.bytes) (32 + 1 + 1 + 1 + 64) ++ utf8 contact.advName)
        (32 + 1 + 1 + 1 + 64 + 32) ++
      u32ToLe contact.lastAdvert ++ u32ToLe (coordinateWord contact.advLat).toUInt32 ++
        u32ToLe (coordinateWord contact.advLon).toUInt32 := by
  have key : contact.publicKey.val.length = 32 := contact.publicKey.property
  have routed : (contact.publicKey.val ++ [contactTypeToU8 contact.contactType, contact.flags,
      contact.route.descriptor] ++ contact.outPath.bytes).length ≤ 32 + 1 + 1 + 1 + 64 := by
    simp only [List.length_append, List.length_cons, List.length_nil, key]
    omega
  rw [resize_of_le routed, resize_of_le (by simp [key]; omega)]
  have pathFill : 99 - (32 + (contact.outPath.bytes.length + 1 + 1 + 1)) =
      64 - contact.outPath.bytes.length := by omega
  have nameFill : 131 - (32 + (contact.outPath.bytes.length +
      (64 - contact.outPath.bytes.length + (utf8 contact.advName).length) + 1 + 1 + 1)) =
      32 - (utf8 contact.advName).length := by omega
  simp [contactFields, key, pathFill, nameFill]

theorem laysOut_updateContact (contact : Contact) :
    LaysOut (byte 0x09 :: contactFields contact) (updateContact contact) := by
  refine laysOut_bind fun _ named => laysOut_bind fun _ _ =>
    laysOut_bind fun descriptor routed => laysOut_bind fun latitude validLatitude =>
    laysOut_bind fun longitude validLongitude => ?_
  obtain ⟨-, name⟩ := length_of_validateTextField named
  obtain ⟨rfl, -, path⟩ := descriptor_of_encodeContactRoute routed
  rw [coordinateWord_of_scaledCoordinate validLatitude,
    coordinateWord_of_scaledCoordinate validLongitude]
  have name : (utf8 contact.advName).length ≤ 32 := Nat.le_succ_of_le name
  refine laysOut_checked ?_ ?_
  · simp [contactFields, fits_padded path, fits_padded name]
  · rw [Layout.encode_cons, encode_contactFields path name]
    rfl

theorem laysOut_exportContact (publicKey : Option Bytes) :
    LaysOut (byte 0x11 :: (publicKey.map fun key => padded key 32).toList)
      (exportContact publicKey) := by
  cases publicKey with
  | some key =>
    intro command built
    obtain ⟨encoded, fits, sized⟩ := laysOut_withKey .exportContact key [] command built
    refine ⟨encoded.trans (by simp [CommandCode.toU8]), ?_, sized⟩
    simpa using fits
  | none =>
    intro command built
    cases built
    exact ⟨rfl, by simp, by decide⟩

theorem laysOut_importContact (card : Bytes) :
    LaysOut [byte 0x12, .exact card] (importContact card) :=
  laysOut_ite (laysOut_refused _ _) (laysOut_checked (by simp) (by simp [CommandCode.toU8]))

def autoAddFields (config : AutoAddConfig) : Layout UInt8 :=
  [byte config.config, .exact config.maxHops.toList]

theorem laysOut_setAutoAddConfig (config : AutoAddConfig) :
    LaysOut (byte 0x3a :: autoAddFields config) (setAutoAddConfig config) :=
  laysOut_ite (laysOut_refused _ _)
    (laysOut_checked (by simp [autoAddFields]) (by simp [autoAddFields, CommandCode.toU8]))

theorem laysOut_setCustomVar (key value : String) :
    LaysOut [byte 0x29, .exact (utf8 key), byte 58, .exact (utf8 value)] (setCustomVar key value) :=
  laysOut_bind fun _ _ => laysOut_bind fun _ _ =>
    laysOut_checked (by simp) (by simp [CommandCode.toU8])

theorem laysOut_setPathHashMode (mode : UInt8) :
    LaysOut [byte 0x3d, byte 0, byte mode] (setPathHashMode mode) :=
  laysOut_ite (laysOut_refused _ _) (laysOut_checked (by simp) (by simp [CommandCode.toU8]))

def scopeFields (name : String) (key : Octets 16) : Layout UInt8 :=
  [padded (utf8 name) 31, octets key]

theorem laysOut_setDefaultFloodScope (name : String) (key : Octets 16) :
    LaysOut (byte 0x3f :: scopeFields name key) (setDefaultFloodScope name key) := by
  refine laysOut_bind fun _ named => laysOut_bind fun _ _ => ?_
  have name : (utf8 name).length ≤ 31 := Nat.le_succ_of_le (length_of_validateTextField named).2
  refine laysOut_checked ?_ ?_
  · simp [scopeFields, fits_padded name]
  · simp [scopeFields, resize_of_le name, CommandCode.toU8]

def channelFields (idx : UInt8) (name : String) (secret : Octets 16) : Layout UInt8 :=
  [byte idx, padded (utf8 name) 32, octets secret]

theorem laysOut_setChannel (idx : UInt8) (name : String) (secret : Octets 16) :
    LaysOut (byte 0x20 :: channelFields idx name secret) (setChannel idx name secret) := by
  refine laysOut_bind fun _ named => laysOut_bind fun _ _ => ?_
  have name : (utf8 name).length ≤ 32 := Nat.le_succ_of_le (length_of_validateTextField named).2
  refine laysOut_checked ?_ ?_
  · simp [channelFields, fits_padded name]
  · simp [channelFields, resize_of_le name, CommandCode.toU8]

variable (publicKey : Bytes)

theorem laysOut_sendLogin (password : String) :
    LaysOut [byte 0x1a, padded publicKey 32, .exact (utf8 password)]
      (sendLogin publicKey password) :=
  laysOut_bind fun _ _ => laysOut_withKeySuffix .sendLogin (by simp) (by simp)

theorem laysOut_sendBinaryRequest (requestType : UInt8) (data : Bytes) :
    LaysOut [byte 0x32, padded publicKey 32, byte requestType, .exact data]
      (sendBinaryRequest publicKey requestType data) :=
  laysOut_withKeySuffix .binaryReq (by simp) (by simp)

theorem laysOut_sendAnonymousRequest (requestType : UInt8)
    (replyRoute : ContactRoute) (replyPath : Path) :
    LaysOut [byte 0x39, padded publicKey 32, byte requestType, byte replyRoute.descriptor,
      .exact replyPath.bytes]
      (sendAnonymousRequest publicKey requestType replyRoute replyPath) := by
  refine laysOut_ite (laysOut_refused _ _) (laysOut_ite (laysOut_refused _ _)
    (laysOut_bind fun descriptor routed => ?_))
  obtain ⟨rfl, -, -⟩ := descriptor_of_encodeContactRoute routed
  exact laysOut_withKeySuffix .sendAnonReq (by simp) (by simp)

theorem laysOut_sendNodeDiscovery (filter : UInt8) (prefixOnly : Bool) (tag : UInt32)
    (since : Option UInt32) :
    LaysOut [byte 0x37, byte (0x80 ||| (if prefixOnly then 1 else 0)), byte filter, word tag,
      .exact ((since.map u32ToLe).getD [])] (sendNodeDiscovery filter prefixOnly tag since) :=
  laysOut_ite (laysOut_refused _ _) (laysOut_checked (by simp) (by simp [CommandCode.toU8]))

theorem laysOut_signData (chunk : Bytes) : LaysOut [byte 0x22, .exact chunk] (signData chunk) :=
  laysOut_ite (laysOut_refused _ _) (laysOut_checked (by simp) (by simp [CommandCode.toU8]))

theorem laysOut_setDevicePin (pin : UInt32) : LaysOut [byte 0x25, word pin] (setDevicePin pin) :=
  laysOut_ite (laysOut_refused _ _) (laysOut_checked (by simp) (by simp [CommandCode.toU8]))

end Command

end Meshquill
