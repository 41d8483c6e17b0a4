import Meshquill.Cli.Contacts
import Meshquill.Protocol.RoundTrip

/-!
# Contact cards as links

`parse_meshcore_uri` of `runtime.rs`, which turns a contact link back into a card. The device
exports a card, the packet parser prints it as a link, and the import command takes the card
that is read from the link.
-/
namespace Meshquill

open Parse

/-- The value of a hexadecimal digit in either case. -/
def hexValue (digit : Char) : Option Nat :=
  if '0' ≤ digit && digit ≤ '9' then some (digit.toNat - 48)
  else if 'a' ≤ digit && digit ≤ 'f' then some (digit.toNat - 87)
  else if 'A' ≤ digit && digit ≤ 'F' then some (digit.toNat - 55)
  else none

/-- `hex::decode`, as its crate describes it. -/
def hexDecode : List Char → Option Bytes
  | [] => some []
  | [_] => none
  | high :: low :: rest => do
    let upper ← hexValue high
    let lower ← hexValue low
    return UInt8.ofNat (16 * upper + lower) :: (← hexDecode rest)

/-- `MESHCORE_PREFIX`. -/
def meshcorePrefix : List Char := "meshcore://".toList

def invalidUri (message : String) : Except CliError α := .error { status := .usage, message }

/-- `parse_meshcore_uri`. The text of the hexadecimal library is left out: the digits are
checked before they are decoded. -/
def parseMeshcoreUri (uri : String) : Except CliError Bytes :=
  let chars := uri.toList
  let maxCardBytes := maxInnerPayload - 1
  if ¬ meshcorePrefix.isPrefixOf chars then
    invalidUri "contact URI must begin with 'meshcore://'"
  else if ¬ (chars.take meshcorePrefix.length).all (fun value => !value.isUpper) then
    invalidUri "contact URI prefix must be lowercase"
  else
    let digits := chars.drop meshcorePrefix.length
    let hexBytes := utf8 (String.ofList digits)
    if hexBytes = [] then
      invalidUri "contact URI must include at least 98 bytes of hex card data"
    else if hexBytes.length % 2 ≠ 0 ∨
        ¬ digits.all (fun value => isAsciiHexdigit value && !value.isUpper) then
      invalidUri "contact URI must contain lowercase hexadecimal payload bytes"
    else if hexBytes.length > maxCardBytes * 2 then
      invalidUri ("contact URI card data must not exceed " ++ toString maxCardBytes ++ " bytes")
    else
      match hexDecode digits with
      | none => invalidUri "contact URI is not valid hex"
      | some card =>
        if card.length < 98 then
          invalidUri
            ("contact URI must include at least 98 bytes (was " ++ toString card.length ++ ")")
        else .ok card

/-! ## Digits -/

theorem hexValue_hexDigit : ∀ value < 16, hexValue (hexDigit value) = some value := by decide

theorem hexDigit_lowercase :
    ∀ value < 16, (isAsciiHexdigit (hexDigit value) && !(hexDigit value).isUpper) = true := by
  decide

theorem hexDecode_hexDigits (bytes : Bytes) : hexDecode (bytes.flatMap hexDigits) = some bytes := by
  induction bytes with
  | nil => rfl
  | cons byte rest ih =>
    have small : byte.toNat < 256 := byte.toNat_lt
    have upper := hexValue_hexDigit (byte.toNat / 16) (by omega)
    have lower := hexValue_hexDigit (byte.toNat % 16) (by omega)
    have joined : 16 * (byte.toNat / 16) + byte.toNat % 16 = byte.toNat := by omega
    change hexDecode (hexDigit (byte.toNat / 16) :: hexDigit (byte.toNat % 16) ::
      rest.flatMap hexDigits) = _
    rw [hexDecode, upper, lower, ih]
    simp only [Option.bind_eq_bind, Option.bind_some, joined, UInt8.ofNat_toNat]
    rfl

/-! ## The link of a card -/

/-- The characters of a link. -/
theorem toList_link (card : Bytes) :
    ("meshcore://" ++ hexEncode card).toList = meshcorePrefix ++ card.flatMap hexDigits := by
  rw [String.toList_append, toList_hexEncode]
  rfl

theorem parseMeshcoreUri_link {card : Bytes} (complete : 98 ≤ card.length)
    (bounded : card.length ≤ 175) :
    parseMeshcoreUri ("meshcore://" ++ hexEncode card) = .ok card := by
  have measured := length_utf8_hexDigits card
  have filled : utf8 (String.ofList (card.flatMap hexDigits)) ≠ [] := by
    intro empty
    rw [empty, List.length_nil] at measured
    omega
  have lowercase : (card.flatMap hexDigits).all
      (fun value => isAsciiHexdigit value && !value.isUpper) = true :=
    List.all_eq_true.mpr (hexDigits_forall hexDigit_lowercase card)
  have begins : meshcorePrefix.isPrefixOf (meshcorePrefix ++ card.flatMap hexDigits) = true :=
    List.isPrefixOf_iff_prefix.mpr (List.prefix_append _ _)
  have plain : meshcorePrefix.all (fun value => !value.isUpper) = true := by decide
  have even : ¬ (2 * card.length % 2 ≠ 0) := by omega
  have short : ¬ 2 * card.length > (maxInnerPayload - 1) * 2 := by
    change ¬ 2 * card.length > 175 * 2
    omega
  have enough : ¬ card.length < 98 := by omega
  simp only [parseMeshcoreUri, toList_link, List.take_left, List.drop_left, begins, plain, filled,
    measured, even, lowercase, short, hexDecode_hexDigits, enough, not_true_eq_false, or_self,
    if_false]

/-- An exported card is printed as a link. -/
theorem parse_contactUri {card : Bytes} (filled : 1 ≤ card.length) (bounded : card.length ≤ 175) :
    Packet.parse (0x0b :: card) =
      .ok (.contactUri { uri := "meshcore://" ++ hexEncode card, card }) := by
  have short : ¬ (card.length + 1 > maxInnerPayload) := by
    change ¬ (card.length + 1 > 176)
    omega
  have dispatched : Packet.parse (0x0b :: card) = parseContactUri (0x0b :: card) := by
    simp only [Packet.parse, List.isEmpty_cons, Bool.false_eq_true, if_false, List.length_cons,
      short]
    rfl
  have long : ¬ (0x0b :: card).length < 2 := by
    rw [List.length_cons]
    omega
  have carried : slice (0x0b :: card) 1 (0x0b :: card).length = .ok card := by
    simp [slice]
  rw [dispatched]
  simp only [parseContactUri, requireLen, long, carried, if_false, bind_ok]
  rfl

theorem checked_of_sized {payload : Bytes} (code : CommandCode)
    (sized : payload.length < maxInnerPayload) :
    Command.checked code payload = .ok { code, payload } :=
  if_neg (Nat.not_lt.mpr sized)

theorem importContact_card {card : Bytes} (complete : 98 ≤ card.length)
    (bounded : card.length ≤ 175) :
    Command.importContact card = .ok { code := .importContact, payload := card } := by
  have enough : ¬ card.length < 98 := by omega
  have sized : card.length < maxInnerPayload := by
    change card.length < 176
    omega
  rw [Command.importContact, if_neg enough, checked_of_sized _ sized]

/-! ## What a builder writes, the parser reads -/

/-- Every argument a builder accepts is read back from its payload by the parser of the matching
response. A contact comes back with any last-modified stamp the device appends and with its
coordinates as the words it was written with; a card comes back through its link. -/
theorem Command.reads_back :
    (∀ idx name secret command, Command.setChannel idx name secret = .ok command →
      Packet.parse (0x12 :: command.payload) =
        .ok (.channelInfo { idx, name, secret := some secret })) ∧
    (∀ name key command, Command.setDefaultFloodScope name key = .ok command →
      Packet.parse (0x1c :: command.payload) =
        .ok (.defaultFloodScope (.configured { name := some name, key }))) ∧
    (∀ config command, Command.setAutoAddConfig config = .ok command →
      Packet.parse (0x19 :: command.payload) = .ok (.autoAddConfig config)) ∧
    (∀ contact command, Command.updateContact contact = .ok command →
      (∀ raw, contact.contactType = .unknown raw → 3 < raw) →
      ∀ b0 b1 b2 b3 : UInt8,
        let raw := 0x03 :: (command.payload ++ [b0, b1, b2, b3])
        ∃ latitude longitude,
          scaledCoordinate contact.advLat (-90) 90 "latitude" = .ok latitude ∧
          scaledCoordinate contact.advLon (-180) 180 "longitude" = .ok longitude ∧
          readU32 raw 136 = .ok latitude.toUInt32 ∧ readU32 raw 140 = .ok longitude.toUInt32 ∧
          Packet.parse raw = .ok (.contact { contact with
            advLat := latitude.toFloat / 1000000
            advLon := longitude.toFloat / 1000000
            lastmod := u32FromLe b0 b1 b2 b3 })) ∧
    ∀ card : Bytes, 98 ≤ card.length → card.length ≤ 175 →
      ∃ uri, Packet.parse (0x0b :: card) = .ok (.contactUri { uri, card }) ∧
        parseMeshcoreUri uri = .ok card ∧
        Command.importContact card = .ok { code := .importContact, payload := card } := by
  refine ⟨?_, ?_, ?_, ?_, ?_⟩
  · intro idx name secret command built
    exact setChannel_reads_back built
  · intro name key command built
    exact setDefaultFloodScope_reads_back built
  · intro config command built
    exact setAutoAddConfig_reads_back built
  · intro contact command built named b0 b1 b2 b3
    exact updateContact_reads_back built named b0 b1 b2 b3
  · intro card complete bounded
    exact ⟨_, parse_contactUri (by omega) bounded, parseMeshcoreUri_link complete bounded,
      importContact_card complete bounded⟩

/-- A repeater behind one hop. -/
def sampleContact : Contact :=
  { publicKey := ⟨List.replicate 32 7, by decide⟩, contactType := .repeater, flags := 1
    route := .path 1 1, outPath := ⟨[0xa1, 0xb2], by decide⟩, advName := "relay", lastAdvert := 5
    advLat := 45, advLon := -12, lastmod := 0 }

theorem sampleContact_accepted : ∃ command, Command.updateContact sampleContact = .ok command := by
  have latitude : scaledCoordinate sampleContact.advLat (-90) 90 "latitude" = .ok _ :=
    if_neg (by decide +kernel)
  have longitude : scaledCoordinate sampleContact.advLon (-180) 180 "longitude" = .ok _ :=
    if_neg (by decide +kernel)
  have text : validateTextField sampleContact.advName 31 "name" = .ok () := by decide
  have noNul : rejectNul sampleContact.advName "name" = .ok () := by decide
  have descriptor : encodeContactRoute sampleContact.route sampleContact.outPath = .ok 0x41 := by
    decide
  unfold Command.updateContact
  rw [text, noNul, descriptor, latitude, longitude]
  simp only [bind, Except.bind]
  exact ⟨_, checked_of_sized _ (by simp [length_resize, u32ToLe, maxInnerPayload])⟩

/-- A channel, a scope and a hop limit at the edge of their fields, a contact, and a card of the
smallest size. -/
theorem Command.reads_back_samples :
    Packet.parse (0x12 :: (3 :: (resize (utf8 "ops") 32 ++ List.replicate 16 9))) =
      .ok (.channelInfo
        { idx := 3, name := "ops", secret := some ⟨List.replicate 16 9, by decide⟩ }) ∧
    Packet.parse (0x1c :: (resize (utf8 "north") 31 ++ List.replicate 16 4)) =
      .ok (.defaultFloodScope
        (.configured { name := some "north", key := ⟨List.replicate 16 4, by decide⟩ })) ∧
    Packet.parse [0x19, 5, 64] = .ok (.autoAddConfig { config := 5, maxHops := some 64 }) ∧
    (∃ command parsed, Command.updateContact sampleContact = .ok command ∧
      Packet.parse (0x03 :: (command.payload ++ [1, 2, 3, 4])) = .ok (.contact parsed) ∧
      parsed.advName = "relay" ∧ parsed.lastmod = 0x04030201) ∧
    ∃ uri, parseMeshcoreUri uri = .ok (List.replicate 98 0xc5) := by
  obtain ⟨channel, scope, autoAdd, contact, link⟩ := Command.reads_back
  obtain ⟨command, built⟩ := sampleContact_accepted
  have known : ∀ raw, sampleContact.contactType = .unknown raw → 3 < raw := by
    intro raw unknown
    cases unknown
  obtain ⟨_, _, _, _, _, _, read⟩ := contact sampleContact command built known 1 2 3 4
  obtain ⟨uri, _, accepted, _⟩ := link (List.replicate 98 0xc5) (by decide) (by decide)
  exact ⟨channel 3 "ops" ⟨List.replicate 16 9, by decide⟩ _ rfl,
    scope "north" ⟨List.replicate 16 4, by decide⟩ _ rfl,
    autoAdd { config := 5, maxHops := some 64 } _ rfl,
    ⟨command, _, built, read, rfl, rfl⟩, uri, accepted⟩

end Meshquill
