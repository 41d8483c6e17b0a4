import Meshquill.Remote.Payload

/-!
# Pages of neighbours

A page is a header with two counts and so many entries of one size, which depends on the length of
the key prefixes that were asked for. The parser accepts exactly the payloads with the length that
the header says, does not read outside of them, and loses nothing
(`neighbour_page_exact`).
-/
namespace Meshquill.Remote

open Checks BigEndian

variable {payload : Bytes} {prefixLength : UInt8} {length count cursor index : Nat}

/-! ## The encoding -/

/-- `u16::to_le_bytes`. -/
def u16ToLe (value : UInt16) : Bytes := [UInt8.ofNat value.toNat, UInt8.ofNat (value.toNat / 256)]

def NeighbourEntry.encode (entry : NeighbourEntry) : Bytes :=
  entry.pubkeyPrefix ++ (u32ToLe entry.secsAgo ++ BigEndian.encode 1 entry.snrDb.raw)

def NeighbourPage.encode (page : NeighbourPage) : Bytes :=
  u16ToLe page.totalCount ++ (u16ToLe page.resultCount ++ page.entries.flatMap NeighbourEntry.encode)

/-- An entry with a prefix of this length and a signal-to-noise ratio in quarters of a decibel. -/
structure NeighbourEntry.Valid (length : Nat) (entry : NeighbourEntry) : Prop where
  sized : entry.pubkeyPrefix.length = length
  fits : Fits true 1 entry.snrDb.raw
  quarters : entry.snrDb.divisor = 4

variable {entry : NeighbourEntry} {entries : List NeighbourEntry} {value : Int} {word : UInt16}
  {page : NeighbourPage}

theorem NeighbourEntry.Valid.length_encode (valid : entry.Valid length) :
    entry.encode.length = length + 5 := by
  simp [NeighbourEntry.encode, valid.sized, u32ToLe]

theorem length_entries (valid : ∀ entry ∈ entries, entry.Valid length) :
    (entries.flatMap NeighbourEntry.encode).length = entries.length * (length + 5) := by
  induction entries with
  | nil => simp
  | cons entry entries ih =>
    obtain ⟨first, others⟩ := List.forall_mem_cons.mp valid
    rw [List.flatMap_cons, List.length_append, first.length_encode, ih others,
      List.length_cons, Nat.add_mul, Nat.one_mul, Nat.add_comm]

/-! ## Entries -/

/-- One entry is read. -/
theorem entry_read (positive : 0 < length) :
    entry.Valid length ∧ entry.encode <+: payload.drop cursor ↔
      slice payload cursor (cursor + length) = .ok entry.pubkeyPrefix ∧
      readU32Le payload (cursor + length) = .ok entry.secsAgo ∧
      ∃ byte, byteAt payload (cursor + length + 4) = .ok byte ∧
        entry.snrDb = { raw := byte.toInt8.toInt, divisor := 4 } := by
  have increasing : cursor < cursor + length := by omega
  rw [slice_ok increasing, readU32Le_ok]
  constructor
  · rintro ⟨valid, here⟩
    rw [NeighbourEntry.encode, append_isPrefix, append_isPrefix, valid.sized, List.drop_drop,
      List.drop_drop] at here
    obtain ⟨key, seconds, ratio⟩ := here
    obtain ⟨byte, found, same⟩ := decoded_one.mp (decoded_iff.mpr ⟨valid.fits, ratio⟩)
    refine ⟨⟨?_, key⟩, seconds, byte, byteAt_ok.mpr found, ?_⟩
    · rw [valid.sized]
      omega
    · rw [if_pos rfl] at same
      rw [same, ← valid.quarters]
  · rintro ⟨⟨sized, key⟩, seconds, byte, found, ratio⟩
    have raw : entry.snrDb.raw = byte.toInt8.toInt := by rw [ratio]
    have decoded : Decoded payload (cursor + length + 4) true 1 entry.snrDb.raw :=
      decoded_one.mpr ⟨byte, byteAt_ok.mp found, raw.symm⟩
    obtain ⟨fits, bytes⟩ := decoded_iff.mp decoded
    have exact_ : entry.pubkeyPrefix.length = length := by omega
    refine ⟨⟨exact_, fits, by rw [ratio]⟩, ?_⟩
    rw [NeighbourEntry.encode, append_isPrefix, append_isPrefix, exact_, List.drop_drop,
      List.drop_drop]
    exact ⟨key, seconds, bytes⟩

/-- The loop returns the entries whose encodings follow the cursor. -/
theorem readEntries_ok (positive : 0 < length) :
    readEntries payload length (length + 5) count cursor = .ok entries ↔
      entries.length = count ∧ (∀ entry ∈ entries, entry.Valid length) ∧
        entries.flatMap NeighbourEntry.encode <+: payload.drop cursor := by
  induction count generalizing cursor entries with
  | zero =>
    constructor
    · intro read
      cases read
      exact ⟨rfl, List.forall_mem_nil _, List.nil_prefix⟩
    · rintro ⟨none, -, -⟩
      rw [List.length_eq_zero_iff.mp none]
      rfl
  | succ count ih =>
    rw [readEntries]
    constructor
    · intro read
      obtain ⟨pubkeyPrefix, key, read⟩ := bind_ok.mp read
      obtain ⟨secsAgo, seconds, read⟩ := bind_ok.mp read
      obtain ⟨snrRaw, ratio, read⟩ := bind_ok.mp read
      obtain ⟨rest, later, read⟩ := bind_ok.mp read
      cases read
      obtain ⟨sized, others, following⟩ := ih.mp later
      let entry : NeighbourEntry :=
        { pubkeyPrefix, secsAgo, snrDb := { raw := snrRaw.toInt8.toInt, divisor := 4 } }
      obtain ⟨valid, here⟩ : entry.Valid length ∧ entry.encode <+: payload.drop cursor :=
        (entry_read positive).mpr ⟨key, seconds, snrRaw, ratio, rfl⟩
      refine ⟨congrArg Nat.succ sized, List.forall_mem_cons.mpr ⟨valid, others⟩, ?_⟩
      rw [List.flatMap_cons, append_isPrefix, valid.length_encode, List.drop_drop]
      exact ⟨here, following⟩
    · rintro ⟨sized, valids, here⟩
      obtain ⟨entry, rest, rfl⟩ := List.exists_cons_of_length_eq_add_one sized
      obtain ⟨valid, others⟩ := List.forall_mem_cons.mp valids
      rw [List.flatMap_cons, append_isPrefix, valid.length_encode, List.drop_drop] at here
      obtain ⟨key, seconds, byte, ratio, scaled⟩ := (entry_read positive).mp ⟨valid, here.1⟩
      have later := ih.mpr ⟨Nat.succ.inj sized, others, here.2⟩
      refine bind_ok.mpr ⟨_, key, bind_ok.mpr ⟨_, seconds, bind_ok.mpr ⟨byte, ratio, ?_⟩⟩⟩
      refine bind_ok.mpr ⟨rest, later, ?_⟩
      rw [← scaled]
      rfl

/-- The loop does not fail where there is room for the entries. -/
theorem exists_entries (positive : 0 < length)
    (room : cursor + count * (length + 5) ≤ payload.length) :
    ∃ entries, readEntries payload length (length + 5) count cursor = .ok entries := by
  induction count generalizing cursor with
  | zero => exact ⟨[], rfl⟩
  | succ count ih =>
    have size : (count + 1) * (length + 5) = count * (length + 5) + (length + 5) := by
      rw [Nat.add_mul, Nat.one_mul]
    obtain ⟨pubkeyPrefix, sized, key⟩ : ∃ bytes : Bytes, bytes.length = length ∧
        bytes <+: payload.drop cursor := exists_bytes (by omega)
    obtain ⟨secsAgo, seconds⟩ : ∃ word, u32ToLe word <+: payload.drop (cursor + length) :=
      exists_word (by omega)
    obtain ⟨byte, ratio⟩ : ∃ byte : UInt8, [byte] <+: payload.drop (cursor + length + 4) :=
      exists_byte (by omega)
    obtain ⟨rest, later⟩ : ∃ rest,
        readEntries payload length (length + 5) count (cursor + (length + 5)) = .ok rest :=
      ih (by omega)
    let entry : NeighbourEntry :=
      { pubkeyPrefix, secsAgo, snrDb := { raw := byte.toInt8.toInt, divisor := 4 } }
    obtain ⟨valid, here⟩ : entry.Valid length ∧ entry.encode <+: payload.drop cursor := by
      rw [entry_read positive]
      refine ⟨(slice_ok (by omega)).mpr ⟨?_, key⟩, readU32Le_ok.mpr seconds, ?_⟩
      · rw [sized]
        omega
      · exact ⟨byte, byteAt_ok.mpr ratio, rfl⟩
    obtain ⟨counted, others, following⟩ := (readEntries_ok positive).mp later
    refine ⟨entry :: rest, (readEntries_ok positive).mpr ⟨congrArg Nat.succ counted, ?_, ?_⟩⟩
    · exact List.forall_mem_cons.mpr ⟨valid, others⟩
    · rw [List.flatMap_cons, append_isPrefix, valid.length_encode, List.drop_drop]
      exact ⟨here, following⟩

/-! ## The page -/

/-- The count in the header. -/
def i16At (payload : Bytes) (index : Nat) : Int :=
  (u16FromLe (payload.getD index 0) (payload.getD (index + 1) 0)).toInt16.toInt

/-- The payloads that the documentation of the parser describes. -/
structure IsPage (payload : Bytes) (prefixLength : UInt8) : Prop where
  bounded : payload.length ≤ maxRemotePayloadLen
  lower : 1 ≤ prefixLength.toNat
  upper : prefixLength.toNat ≤ 32
  total : 0 ≤ i16At payload 0
  result : 0 ≤ i16At payload 2
  within : i16At payload 2 ≤ i16At payload 0
  sized : (payload.length : Int) = 4 + i16At payload 2 * (prefixLength.toNat + 5)

theorem i16At_eq {b0 b1 : UInt8} (here : [b0, b1] <+: payload.drop index) :
    i16At payload index = (u16FromLe b0 b1).toInt16.toInt := by
  obtain ⟨first, second⟩ := pair_prefix.mp here
  simp [i16At, List.getD, first, second]

theorem readI16Le_ok :
    readI16Le payload index = .ok value ↔
      index + 2 ≤ payload.length ∧ value = i16At payload index := by
  rw [readI16Le, bind_ok]
  constructor
  · rintro ⟨bytes, found, returned⟩
    obtain ⟨sized, here⟩ := (window_ok (by omega)).mp found
    obtain ⟨b0, b1, rfl⟩ := List.length_eq_two.mp sized
    cases returned
    exact ⟨prefix_room (by simp) here, (i16At_eq here).symm⟩
  · rintro ⟨room, rfl⟩
    obtain ⟨bytes, sized, here⟩ := exists_bytes room
    obtain ⟨b0, b1, rfl⟩ := List.length_eq_two.mp sized
    refine ⟨[b0, b1], (window_ok (by omega)).mpr ⟨rfl, here⟩, ?_⟩
    rw [i16At_eq here]
    rfl

theorem u16TryFrom_ok {reason : String} :
    u16TryFrom value reason = .ok word ↔ 0 ≤ value ∧ value < 65536 ∧ word.toNat = value := by
  rw [u16TryFrom]
  constructor
  · intro converted
    split_ifs at converted with range
    · cases converted
      rw [UInt16.toNat_ofNat']
      omega
    · cases converted
  · rintro ⟨lower, upper, same⟩
    rw [if_pos ⟨lower, upper⟩, ← same, Int.toNat_natCast, UInt16.ofNat_toNat]

theorem i16At_lt (payload : Bytes) (index : Nat) : i16At payload index < 32768 := by
  have range := Int16.toInt_lt (u16FromLe (payload.getD index 0) (payload.getD (index + 1) 0)).toInt16
  exact range

/-- What the parser checks and what it returns. -/
theorem parseNeighbourPage_ok :
    parseNeighbourPage payload prefixLength = .ok page ↔
      IsPage payload prefixLength ∧
        page.totalCount.toNat = i16At payload 0 ∧ page.resultCount.toNat = i16At payload 2 ∧
        readEntries payload prefixLength.toNat (prefixLength.toNat + 5) page.resultCount.toNat 4 =
          .ok page.entries := by
  rw [parseNeighbourPage]
  constructor
  · intro parsed
    obtain ⟨bounded, parsed⟩ := check_ok.mp parsed
    obtain ⟨range, parsed⟩ := check_ok.mp parsed
    obtain ⟨header, parsed⟩ := check_ok.mp parsed
    obtain ⟨total, readTotal, parsed⟩ := bind_ok.mp parsed
    obtain ⟨result, readResult, parsed⟩ := bind_ok.mp parsed
    obtain ⟨positive, parsed⟩ := check_ok.mp parsed
    obtain ⟨totalCount, isTotal, parsed⟩ := bind_ok.mp parsed
    obtain ⟨resultCount, isResult, parsed⟩ := bind_ok.mp parsed
    obtain ⟨within, parsed⟩ := check_ok.mp parsed
    obtain ⟨sized, parsed⟩ := check_ok.mp parsed
    obtain ⟨entries, read, parsed⟩ := bind_ok.mp parsed
    cases parsed
    obtain ⟨lower, upper⟩ := ensure_ok.mp range
    obtain ⟨-, rfl⟩ := readI16Le_ok.mp readTotal
    obtain ⟨-, rfl⟩ := readI16Le_ok.mp readResult
    obtain ⟨totalLower, -, sameTotal⟩ := u16TryFrom_ok.mp isTotal
    obtain ⟨resultLower, -, sameResult⟩ := u16TryFrom_ok.mp isResult
    refine ⟨⟨ensure_ok.mp bounded, lower, upper, totalLower, resultLower, ?_, ?_⟩, sameTotal,
      sameResult, read⟩
    · have order := UInt16.le_iff_toNat_le.mp (ensure_ok.mp within)
      omega
    · rw [← sameResult, ← ensure_ok.mp sized]
      push_cast
      rfl
  · rintro ⟨isPage, sameTotal, sameResult, read⟩
    have sized : 4 + page.resultCount.toNat * (prefixLength.toNat + 5) = payload.length := by
      have length := isPage.sized
      rw [← sameResult] at length
      exact_mod_cast length.symm
    have order : page.resultCount ≤ page.totalCount := by
      rw [UInt16.le_iff_toNat_le]
      have within := isPage.within
      omega
    have isTotal : ∀ reason, u16TryFrom (i16At payload 0) reason = .ok page.totalCount := by
      intro reason
      have upper := i16At_lt payload 0
      exact u16TryFrom_ok.mpr ⟨isPage.total, by omega, sameTotal⟩
    have isResult : ∀ reason, u16TryFrom (i16At payload 2) reason = .ok page.resultCount := by
      intro reason
      have upper := i16At_lt payload 2
      exact u16TryFrom_ok.mpr ⟨isPage.result, by omega, sameResult⟩
    have positive : ¬ (i16At payload 0 < 0 ∨ i16At payload 2 < 0) := by
      have total := isPage.total
      have result := isPage.result
      omega
    refine check_ok.mpr ⟨ensure_ok.mpr isPage.bounded, ?_⟩
    refine check_ok.mpr ⟨ensure_ok.mpr ⟨isPage.lower, isPage.upper⟩, ?_⟩
    refine check_ok.mpr ⟨ensure_ok.mpr (by omega), ?_⟩
    refine bind_ok.mpr ⟨_, readI16Le_ok.mpr ⟨by omega, rfl⟩, ?_⟩
    refine bind_ok.mpr ⟨_, readI16Le_ok.mpr ⟨by omega, rfl⟩, ?_⟩
    refine check_ok.mpr ⟨ensure_ok.mpr positive, ?_⟩
    refine bind_ok.mpr ⟨_, isTotal _, bind_ok.mpr ⟨_, isResult _, ?_⟩⟩
    refine check_ok.mpr ⟨ensure_ok.mpr order, check_ok.mpr ⟨ensure_ok.mpr sized, ?_⟩⟩
    exact bind_ok.mpr ⟨_, read, rfl⟩

/-- A page is accepted. -/
theorem exists_page (isPage : IsPage payload prefixLength) :
    ∃ page, parseNeighbourPage payload prefixLength = .ok page := by
  have words : ∀ index, 0 ≤ i16At payload index →
      ∃ word : UInt16, word.toNat = i16At payload index := by
    intro index lower
    have upper := i16At_lt payload index
    refine ⟨UInt16.ofNat (i16At payload index).toNat, ?_⟩
    rw [UInt16.toNat_ofNat']
    omega
  obtain ⟨totalCount, sameTotal⟩ := words 0 isPage.total
  obtain ⟨resultCount, sameResult⟩ := words 2 isPage.result
  have room : 4 + resultCount.toNat * (prefixLength.toNat + 5) ≤ payload.length := by
    have length := isPage.sized
    rw [← sameResult] at length
    exact_mod_cast length.ge
  obtain ⟨entries, read⟩ := exists_entries isPage.lower room
  exact ⟨⟨totalCount, resultCount, entries⟩,
    parseNeighbourPage_ok.mpr ⟨isPage, sameTotal, sameResult, read⟩⟩

/-- A count has the two bytes of the header. -/
theorem u16ToLe_header (room : index + 2 ≤ payload.length)
    (same : word.toNat = i16At payload index) : u16ToLe word <+: payload.drop index := by
  obtain ⟨bytes, sized, here⟩ := exists_bytes room
  obtain ⟨b0, b1, rfl⟩ := List.length_eq_two.mp sized
  have := b0.toNat_lt
  have := b1.toNat_lt
  have value := toNat_u16FromLe b0 b1
  rw [i16At_eq here, toInt_toInt16] at same
  have bytes : u16ToLe word = [b0, b1] := by
    have low : word.toNat = b0.toNat + 256 * b1.toNat := by
      split_ifs at same <;> omega
    simp only [u16ToLe, low, List.cons.injEq, ← UInt8.toNat_inj, UInt8.toNat_ofNat', and_true]
    omega
  rw [bytes]
  exact here

/-- The page encodes to the payload. -/
theorem encode_page (parsed : parseNeighbourPage payload prefixLength = .ok page) :
    page.encode = payload := by
  obtain ⟨isPage, sameTotal, sameResult, read⟩ := parseNeighbourPage_ok.mp parsed
  obtain ⟨counted, valid, entries⟩ := (readEntries_ok isPage.lower).mp read
  have sized : 4 + page.resultCount.toNat * (prefixLength.toNat + 5) = payload.length := by
    have length := isPage.sized
    rw [← sameResult] at length
    exact_mod_cast length.symm
  have total := u16ToLe_header (by omega) sameTotal
  have result := u16ToLe_header (by omega) sameResult
  have whole : page.encode <+: payload := by
    rw [NeighbourPage.encode, append_isPrefix, append_isPrefix, List.drop_drop]
    exact ⟨total, result, entries⟩
  apply whole.eq_of_length
  rw [← sized, ← counted, ← length_entries valid]
  simp [NeighbourPage.encode, u16ToLe]
  omega

theorem graceful_readI16Le (payload : Bytes) (index : Nat) :
    Graceful (readI16Le payload index) := by
  apply graceful_bind (graceful_window _ _ _ _)
  intro bytes found
  obtain ⟨sized, -⟩ := (window_ok (by omega)).mp found
  obtain ⟨b0, b1, rfl⟩ := List.length_eq_two.mp sized
  exact graceful_ok _

theorem graceful_u16TryFrom (value : Int) (reason : String) :
    Graceful (u16TryFrom value reason) := by
  rw [u16TryFrom]
  split_ifs
  · exact graceful_ok _
  · exact graceful_reject _

theorem graceful_parseNeighbourPage (payload : Bytes) (prefixLength : UInt8) :
    Graceful (parseNeighbourPage payload prefixLength) := by
  refine graceful_bind (graceful_ensure _ _) fun _ _ => ?_
  refine graceful_bind (graceful_ensure _ _) fun _ range => ?_
  refine graceful_bind (graceful_ensure _ _) fun _ _ => ?_
  refine graceful_bind (graceful_readI16Le _ _) fun total _ => ?_
  refine graceful_bind (graceful_readI16Le _ _) fun result _ => ?_
  refine graceful_bind (graceful_ensure _ _) fun _ _ => ?_
  refine graceful_bind (graceful_u16TryFrom _ _) fun totalCount _ => ?_
  refine graceful_bind (graceful_u16TryFrom _ _) fun resultCount _ => ?_
  refine graceful_bind (graceful_ensure _ _) fun _ _ => ?_
  refine graceful_bind (graceful_ensure _ _) fun _ sized => ?_
  obtain ⟨entries, read⟩ := exists_entries (ensure_ok.mp range).1 (ensure_ok.mp sized).le
  exact graceful_bind (graceful_of_ok read) fun _ _ => graceful_ok _

/-- A payload is accepted exactly if it is a page, the entries and counts encode to the payload,
and any other payload is rejected without a read outside of it. -/
theorem neighbour_page_exact (payload : Bytes) (prefixLength : UInt8) :
    ((∃ page, parseNeighbourPage payload prefixLength = .ok page) ↔ IsPage payload prefixLength) ∧
    (∀ page, parseNeighbourPage payload prefixLength = .ok page → page.encode = payload) ∧
    ∀ fault, parseNeighbourPage payload prefixLength = .error fault →
      ∃ error, fault = .rejected error := by
  refine ⟨⟨?_, exists_page⟩, fun _ => encode_page, graceful_parseNeighbourPage payload prefixLength⟩
  rintro ⟨page, parsed⟩
  exact (parseNeighbourPage_ok.mp parsed).1

end Meshquill.Remote
