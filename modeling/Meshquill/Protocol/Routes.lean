import Meshquill.Protocol.Accepted
import Meshquill.Protocol.Layouts

/-!
# Route descriptors and paths

One byte describes a path: 255 stands for a flood, and any other byte for the number of hops and
the width of a hop. Three parsers read such a byte and take the path from the bytes after it, and
a contact is sent back with the byte that its route is encoded as. A device may use hops of four
bytes, which a contact that is sent back may not.
-/
namespace Meshquill

open Checks Parse

/-- The path is as long as its route says. -/
def ContactRoute.Spans (path : Path) : ContactRoute → Prop
  | .flood => path.bytes = []
  | .path hashMode hopCount => path.bytes.length = hopCount.toNat * (hashMode.toNat + 1)

/-! ## Descriptors -/

/-- A route has the descriptor that it was read from. -/
theorem descriptor_descriptorRoute (byte : UInt8) : (descriptorRoute byte).1.descriptor = byte := by
  have all : ∀ number < 256, (descriptorRoute (UInt8.ofNat number)).1.descriptor =
      UInt8.ofNat number := by
    decide +kernel
  simpa using all byte.toNat byte.toNat_lt

/-- A route that was read has at most 63 hops. -/
theorem hops_descriptorRoute (byte hashMode hopCount : UInt8)
    (read : (descriptorRoute byte).1 = .path hashMode hopCount) : hopCount ≤ 63 := by
  unfold descriptorRoute at read
  split at read
  · cases read
  · cases read
    rw [UInt8.le_iff_toNat_le, UInt8.toNat_and]
    exact Nat.and_le_right

variable {byte : UInt8} {bytes raw : Bytes} {path : Path}

/-- The path of the length that a descriptor announces. -/
theorem spans_of_length {route : ContactRoute}
    (announces : descriptorRoute byte = (route, bytes.length))
    (taken : Path.tryFromBytes bytes = some path) :
    path.bytes = bytes ∧ route.Spans path := by
  unfold Path.tryFromBytes at taken
  split at taken
  · cases taken
    refine ⟨rfl, ?_⟩
    unfold descriptorRoute at announces
    split at announces
    · obtain ⟨rfl, none⟩ := Prod.mk.inj announces
      exact List.length_eq_zero_iff.mp none.symm
    · obtain ⟨rfl, long⟩ := Prod.mk.inj announces
      exact long.symm
  · cases taken

/-- A path within the limits that its route spans is encoded. -/
theorem encodeContactRoute_path {hashMode hopCount : UInt8} (mode : hashMode ≤ 2)
    (hops : hopCount ≤ 63) (spans : (ContactRoute.path hashMode hopCount).Spans path)
    (short : path.bytes.length ≤ 64) :
    encodeContactRoute (.path hashMode hopCount) path = .ok ((hashMode <<< 6) ||| hopCount) := by
  have exact : ¬ path.bytes.length ≠ hopCount.toNat * (hashMode.toNat + 1) := not_not.mpr spans
  have within : ¬ hopCount.toNat * (hashMode.toNat + 1) > 64 := by
    have spanned : path.bytes.length = hopCount.toNat * (hashMode.toNat + 1) := spans
    omega
  have narrow : ¬ (hashMode > 2 ∨ hopCount > 63) :=
    not_or.mpr ⟨UInt8.not_lt.mpr mode, UInt8.not_lt.mpr hops⟩
  simp only [encodeContactRoute]
  rw [if_neg narrow, if_neg exact, if_neg within]

/-- Encoding a route that was read gives back its descriptor, unless its hops are too wide. -/
theorem encodeContactRoute_descriptorRoute (spans : (descriptorRoute byte).1.Spans path)
    (short : path.bytes.length ≤ 64) :
    ((∀ hashMode hopCount, (descriptorRoute byte).1 = .path hashMode hopCount → hashMode ≤ 2) →
      encodeContactRoute (descriptorRoute byte).1 path = .ok byte) ∧
    ∀ hashMode hopCount, (descriptorRoute byte).1 = .path hashMode hopCount → 2 < hashMode →
      encodeContactRoute (descriptorRoute byte).1 path =
        .error (.invalidArgument "route"
          "hash mode must be at most 2 and hop count at most 63") := by
  have back := descriptor_descriptorRoute byte
  have few := hops_descriptorRoute byte
  generalize (descriptorRoute byte).1 = route at spans back few
  cases route with
  | flood =>
    refine ⟨fun _ => ?_, nofun⟩
    have empty : ¬ path.bytes ≠ [] := not_not.mpr spans
    rw [encodeContactRoute, if_neg empty]
    exact congrArg _ back
  | path hashMode hopCount =>
    constructor
    · intro narrow
      rw [encodeContactRoute_path (narrow _ _ rfl) (few _ _ rfl) spans short]
      exact congrArg _ back
    · rintro _ _ ⟨⟩ wide
      simp only [encodeContactRoute]
      rw [if_pos (.inl wide)]
      rfl

/-! ## Discovered paths -/

/-- A slice stands between what comes before it and what comes after. -/
theorem drop_of_slice {start stop : Nat} (cut : slice raw start stop = .ok bytes) :
    raw.drop start = bytes ++ raw.drop stop := by
  unfold slice at cut
  split at cut
  · rename_i inside
    cases cut
    have split : (raw.take stop).drop start ++ raw.drop stop =
        (raw.take stop ++ raw.drop stop).drop start := by
      rw [List.drop_append_of_le_length]
      rw [List.length_take]
      omega
    rw [split, List.take_append_drop]
  · cases cut

theorem drop_of_getElem? {cursor : Nat} (read : raw[cursor]? = some byte) :
    raw.drop cursor = byte :: raw.drop (cursor + 1) := by
  obtain ⟨inside, rfl⟩ := List.getElem?_eq_some_iff.mp read
  exact List.drop_eq_getElem_cons inside

theorem getElem?_of_byteAt {index : Nat} (read : byteAt raw index = .ok byte) :
    raw[index]? = some byte := by
  unfold byteAt at read
  split at read
  · rename_i found
    cases read
    exact found
  · cases read

theorem val_of_octets {count : Nat} {taken : Octets count} (read : octets count bytes = .ok taken) :
    taken.val = bytes := by
  unfold octets at read
  split at read
  · cases read
    rfl
  · cases read

theorem eq_of_fits {bits value result : Nat} (fitted : fits bits value = .ok result) :
    result = value := by
  unfold fits at fitted
  split at fitted
  · cases fitted
    rfl
  · cases fitted

theorem length_of_requireExactLen {expected : Nat} {code : PacketCode}
    (exact : requireExactLen raw expected code = .ok ()) : raw.length = expected := by
  by_contra other
  unfold requireExactLen requireLen at exact
  split at exact
  · cases exact
  · cases exact

/-- A discovered path is the descriptor at the cursor and the bytes that it announces. -/
theorem yields_parseDiscoveredPath (raw : Bytes) (cursor : Nat) :
    Yields (fun found => found.1.1.Spans found.1.2 ∧
        raw.drop cursor = found.1.1.descriptor :: found.1.2.bytes ++ raw.drop found.2)
      (parseDiscoveredPath raw cursor) := by
  unfold parseDiscoveredPath
  cases read : raw[cursor]? with
  | none => exact yields_bind fun _ rejected => nomatch rejected
  | some byte =>
    simp only
    refine yields_ite (yields_bind fun _ rejected => nomatch rejected) ?_
    refine yields_bind fun bytes cut => ?_
    have long := length_of_slice cut
    rw [Nat.add_sub_cancel_left] at long
    split
    · rename_i path taken
      refine yields_pure ?_
      have announces : descriptorRoute byte = ((descriptorRoute byte).1, bytes.length) := by
        rw [long]
      obtain ⟨same, spans⟩ := spans_of_length announces taken
      refine ⟨spans, ?_⟩
      rw [drop_of_getElem? read, descriptor_descriptorRoute, same, List.cons_append,
        drop_of_slice cut]
    · exact yields_reject _

/-- A discovery is the two paths after the key prefix, and nothing more. -/
theorem yields_parsePathDiscovery (raw : Bytes) :
    Yields (fun packet => ∀ found, packet = .pathDiscovery found →
        found.outboundRoute.Spans found.outboundPath ∧
        found.inboundRoute.Spans found.inboundPath ∧
        ∃ code, raw = code :: 0 :: found.pubkeyPrefix.val ++
          found.outboundRoute.descriptor :: found.outboundPath.bytes ++
          found.inboundRoute.descriptor :: found.inboundPath.bytes)
      (parsePathDiscovery raw) := by
  refine yields_bind fun _ long => yields_bind fun reserved read => ?_
  refine yields_dite (fun _ => yields_bind fun _ rejected => nomatch rejected) fun zero => ?_
  refine yields_bind fun key cut => yields_bind fun keyed taken => ?_
  refine yields_bind fun (outbound, cursor) first => yields_bind fun (inbound, last) second => ?_
  refine yields_dite (fun _ => yields_bind fun _ rejected => nomatch rejected) fun whole => ?_
  refine yields_pure ?_
  rintro _ ⟨⟩
  obtain ⟨outboundSpans, afterKey⟩ := yields_parseDiscoveredPath raw 8 _ first
  obtain ⟨inboundSpans, afterOutbound⟩ := yields_parseDiscoveredPath raw cursor _ second
  refine ⟨outboundSpans, inboundSpans, ?_⟩
  rw [not_not.mp whole, List.drop_length, List.append_nil] at afterOutbound
  have start : ∃ code, raw[0]? = some code := by
    cases raw with
    | nil => cases read
    | cons code rest => exact ⟨code, rfl⟩
  obtain ⟨code, began⟩ := start
  refine ⟨code, ?_⟩
  have afterCode : raw.drop 1 = 0 :: raw.drop 2 := by
    rw [← not_not.mp zero]
    exact drop_of_getElem? (getElem?_of_byteAt read)
  have key : keyed.val = key := val_of_octets taken
  rw [← List.drop_zero (l := raw), drop_of_getElem? began, afterCode, drop_of_slice cut, afterKey,
    afterOutbound, key]
  simp

theorem yields_parseAdvertPath (raw : Bytes) :
    Yields (fun packet => ∀ advert, packet = .advertPath advert → advert.route.Spans advert.path)
      (parseAdvertPath raw) := by
  refine yields_bind fun _ long => yields_bind fun byte read => ?_
  rcases announces : descriptorRoute byte with ⟨route, size⟩
  refine yields_bind fun used fitted => yields_bind fun whole total => ?_
  refine yields_bind fun _ exact => yields_bind fun bytes cut => ?_
  have long : bytes.length = size := by
    rw [length_of_slice cut, length_of_requireExactLen exact, eq_of_fits total,
      eq_of_fits fitted, Nat.add_sub_cancel_left]
  split
  · exact yields_reject _
  · rename_i path taken
    refine yields_bind fun time clock => yields_pure ?_
    rintro _ ⟨⟩
    exact (spans_of_length (long ▸ announces) taken).2

theorem yields_parseContact_route (raw : Bytes) :
    Yields (fun packet => ∀ contact, packet = .contact contact →
        ∃ byte, raw[35]? = some byte ∧ contact.route = (descriptorRoute byte).1 ∧
          contact.route.Spans contact.outPath ∧ contact.outPath.bytes.length ≤ 64)
      (parseContact raw) := by
  refine yields_bind fun _ long => yields_bind fun _ _ => yields_bind fun _ _ => ?_
  refine yields_bind fun _ _ => yields_bind fun _ _ => yields_bind fun byte read => ?_
  rcases announces : descriptorRoute byte with ⟨route, size⟩
  refine yields_bind fun used fitted => ?_
  refine yields_dite (fun _ => yields_bind fun _ rejected => nomatch rejected) fun small => ?_
  refine yields_bind fun stop total => yields_bind fun bytes cut => ?_
  have long : bytes.length = size := by
    rw [length_of_slice cut, eq_of_fits total, eq_of_fits fitted, Nat.add_sub_cancel_left]
  split
  · rename_i path taken
    obtain ⟨same, spans⟩ := spans_of_length (long ▸ announces) taken
    refine yields_bind fun outPath kept => yields_bind fun _ _ => yields_bind fun _ _ => ?_
    refine yields_bind fun _ _ => yields_bind fun _ _ => yields_bind fun _ _ => ?_
    refine yields_bind fun _ _ => yields_pure ?_
    rintro _ ⟨⟩
    cases kept
    refine ⟨byte, getElem?_of_byteAt read, by rw [announces], spans, ?_⟩
    rw [same, long, ← eq_of_fits fitted]
    exact Nat.not_lt.mp small
  · exact yields_bind fun _ rejected => nomatch rejected

/-! ## Accepted packets -/

/-- Every path of an accepted packet is as long as its route says. A discovery consists of its two
paths and their descriptors, and the route of a contact is encoded as the byte it was read from,
unless its hops are too wide to be sent. -/
theorem accepted_paths_described (raw : Bytes) :
    (∀ contact, Packet.parse raw = .ok (.contact contact) →
      contact.route.Spans contact.outPath ∧
      ∃ byte, raw[35]? = some byte ∧
        ((∀ hashMode hopCount, contact.route = .path hashMode hopCount → hashMode ≤ 2) →
          encodeContactRoute contact.route contact.outPath = .ok byte) ∧
        ∀ hashMode hopCount, contact.route = .path hashMode hopCount → 2 < hashMode →
          ∃ error, encodeContactRoute contact.route contact.outPath = .error error) ∧
    (∀ advert, Packet.parse raw = .ok (.advertPath advert) → advert.route.Spans advert.path) ∧
    ∀ discovery, Packet.parse raw = .ok (.pathDiscovery discovery) →
      discovery.outboundRoute.Spans discovery.outboundPath ∧
      discovery.inboundRoute.Spans discovery.inboundPath ∧
      ∃ code, raw = code :: 0 :: discovery.pubkeyPrefix.val ++
        discovery.outboundRoute.descriptor :: discovery.outboundPath.bytes ++
        discovery.inboundRoute.descriptor :: discovery.inboundPath.bytes := by
  refine ⟨fun contact parsed => ?_, fun advert parsed => ?_, fun discovery parsed => ?_⟩
  · have source := (Packet.parsed_as parsed).contact rfl
    obtain ⟨byte, read, routed, spans, short⟩ := yields_parseContact_route raw _ source contact rfl
    refine ⟨spans, byte, read, ?_⟩
    rw [routed] at spans ⊢
    obtain ⟨narrow, wide⟩ := encodeContactRoute_descriptorRoute spans short
    exact ⟨narrow, fun hashMode hopCount same above => ⟨_, wide hashMode hopCount same above⟩⟩
  · have source := (Packet.parsed_as parsed).advertPath rfl
    exact yields_parseAdvertPath raw _ source advert rfl
  · have source := (Packet.parsed_as parsed).pathDiscovery rfl
    exact yields_parsePathDiscovery raw _ source discovery rfl

/-- A contact behind one hop of two bytes, as the device lists it. -/
def routedContact : Bytes :=
  3 :: (List.replicate 32 7 ++ [1, 0, 0x41] ++ [8, 9] ++ List.replicate 62 0 ++
    List.replicate 32 0 ++ List.replicate 16 0)

set_option maxRecDepth 4096 in
theorem parse_routedContact :
    ∃ contact, Packet.parse routedContact = .ok (.contact contact) ∧
      contact.route = .path 1 1 ∧ contact.outPath.bytes = [8, 9] :=
  ⟨_, rfl, rfl, rfl⟩

/-- Two hops of one byte lead there, and the way back is a flood. -/
def discoveredPaths : Bytes := [0x8d, 0, 1, 2, 3, 4, 5, 6, 2, 8, 9, 0xff]

theorem parse_discoveredPaths :
    ∃ discovery, Packet.parse discoveredPaths = .ok (.pathDiscovery discovery) ∧
      discovery.outboundRoute = .path 0 2 ∧ discovery.inboundRoute = .flood :=
  ⟨_, rfl, rfl, rfl⟩

theorem routedContact_and_discoveredPaths_described :
    (∃ contact, Packet.parse routedContact = .ok (.contact contact) ∧
      encodeContactRoute contact.route contact.outPath = .ok 0x41) ∧
    ∃ discovery, Packet.parse discoveredPaths = .ok (.pathDiscovery discovery) ∧
      discovery.outboundPath.bytes.length = 2 ∧ discovery.inboundPath.bytes = [] := by
  constructor
  · obtain ⟨contact, parsed, routed, -⟩ := parse_routedContact
    obtain ⟨-, byte, read, narrow, -⟩ := (accepted_paths_described routedContact).1 contact parsed
    refine ⟨contact, parsed, ?_⟩
    have mode : ∀ hashMode hopCount, contact.route = .path hashMode hopCount → hashMode ≤ 2 := by
      rw [routed]
      rintro _ _ ⟨⟩
      decide
    have same : byte = 0x41 := (Option.some.inj read).symm
    exact same ▸ narrow mode
  · obtain ⟨discovery, parsed, out, back⟩ := parse_discoveredPaths
    obtain ⟨outbound, inbound, -⟩ := (accepted_paths_described discoveredPaths).2.2 discovery parsed
    rw [out] at outbound
    rw [back] at inbound
    exact ⟨discovery, parsed, outbound, inbound⟩

end Meshquill
