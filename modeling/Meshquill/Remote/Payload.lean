import Mathlib.Data.Nat.Bitwise
import Meshquill.BigEndian
import Meshquill.Protocol.RoundTrip

/-!
# Pages of neighbours

The parser of pages of neighbours in `remote.rs`. As in the packet parser, a slice index is a read
that can panic here, apart from the errors that a parser returns.

A value of type `f64` is kept as the integer on the wire and what it is divided by: the parser
does nothing else with it.

Each read at a position is specified by the bytes that the payload has there: it returns a value
exactly if the encoding of the value is a prefix of what follows the position.
-/
namespace Meshquill.Remote

/-- `MAX_REMOTE_PAYLOAD_LEN`. -/
def maxRemotePayloadLen : Nat := maxInnerPayload

/-- The variants of `RemotePayloadError` that these parsers return. -/
inductive RemotePayloadError where
  | payloadTooLarge (actual maximum : Nat)
  | truncated (context : String)
  | malformed (reason : String)
deriving DecidableEq

/-- Why a parser did not return a value. -/
inductive Fault where
  | rejected (error : RemotePayloadError)
  | panicked
deriving DecidableEq

abbrev Parse := Except Fault

def reject {α : Type} (error : RemotePayloadError) : Parse α := .error (.rejected error)

/-- An early return unless the condition holds. -/
def ensure (condition : Prop) [Decidable condition] (error : RemotePayloadError) : Parse Unit :=
  if condition then .ok () else reject error

/-- An integer that is divided by a constant. -/
structure Scaled where
  raw : Int
  divisor : Nat
deriving DecidableEq

/-! ## Reads -/

def checkMaxLen (payload : Bytes) : Parse Unit :=
  ensure (payload.length ≤ maxRemotePayloadLen)
    (.payloadTooLarge payload.length maxRemotePayloadLen)

/-- `payload[index]`. -/
def byteAt (payload : Bytes) (index : Nat) : Parse UInt8 :=
  match payload[index]? with
  | some byte => .ok byte
  | none => .error .panicked

/-- `payload[start..stop]`. -/
def slice (payload : Bytes) (start stop : Nat) : Parse Bytes :=
  if start ≤ stop ∧ stop ≤ payload.length then .ok ((payload.drop start).take (stop - start))
  else .error .panicked

/-- `raw.get(index..index + width)`. -/
def window (raw : Bytes) (index width : Nat) (context : String) : Parse Bytes :=
  if index + width ≤ raw.length then .ok ((raw.drop index).take width)
  else reject (.truncated context)

/-- `i16::from_le_bytes` of two bytes. -/
def readI16Le (raw : Bytes) (index : Nat) : Parse Int := do
  match ← window raw index 2 "fixed field" with
  | [b0, b1] => return (u16FromLe b0 b1).toInt16.toInt
  | _ => .error .panicked

def readU32Le (raw : Bytes) (index : Nat) : Parse UInt32 := do
  match ← window raw index 4 "fixed field" with
  | [b0, b1, b2, b3] => return u32FromLe b0 b1 b2 b3
  | _ => .error .panicked

/-! ## Neighbours -/

structure NeighbourEntry where
  pubkeyPrefix : Bytes
  secsAgo : UInt32
  snrDb : Scaled
deriving DecidableEq

structure NeighbourPage where
  totalCount : UInt16
  resultCount : UInt16
  entries : List NeighbourEntry
deriving DecidableEq

/-- `u16::try_from`. -/
def u16TryFrom (value : Int) (reason : String) : Parse UInt16 :=
  if 0 ≤ value ∧ value < 1 <<< 16 then .ok (UInt16.ofNat value.toNat)
  else reject (.malformed reason)

/-- The loop over the entries. -/
def readEntries (payload : Bytes) (prefixLength entrySize : Nat) :
    Nat → Nat → Parse (List NeighbourEntry)
  | 0, _ => .ok []
  | count + 1, cursor => do
    let prefixEnd := cursor + prefixLength
    let pubkeyPrefix ← slice payload cursor prefixEnd
    let secsAgo ← readU32Le payload prefixEnd
    let snrRaw ← byteAt payload (prefixEnd + 4)
    let snrDb : Scaled := { raw := snrRaw.toInt8.toInt, divisor := 4 }
    let rest ← readEntries payload prefixLength entrySize count (cursor + entrySize)
    return { pubkeyPrefix, secsAgo, snrDb } :: rest

def parseNeighbourPage (payload : Bytes) (prefixLength : UInt8) : Parse NeighbourPage := do
  checkMaxLen payload
  ensure (1 ≤ prefixLength.toNat ∧ prefixLength.toNat ≤ 32)
    (.malformed "prefix length must be between 1 and 32")
  ensure (4 ≤ payload.length) (.truncated "neighbour header")
  let total ← readI16Le payload 0
  let result ← readI16Le payload 2
  ensure (¬ (total < 0 ∨ result < 0)) (.malformed "neighbour counts must not be negative")
  let totalCount ← u16TryFrom total "neighbour total count is invalid"
  let resultCount ← u16TryFrom result "neighbour result count is invalid"
  ensure (resultCount ≤ totalCount) (.malformed "neighbour result count exceeds total count")
  let entryCount := resultCount.toNat
  let entrySize := prefixLength.toNat + 5
  ensure (4 + entryCount * entrySize = payload.length) (.malformed "neighbour page length mismatch")
  let entries ← readEntries payload prefixLength.toNat entrySize entryCount 4
  return { totalCount, resultCount, entries }

open Checks BigEndian

variable {payload raw bytes : Bytes} {index cursor width start stop : Nat} {context reason : String}

/-! ## Prefixes -/

theorem append_isPrefix {α : Type} {front back list : List α} :
    front ++ back <+: list ↔ front <+: list ∧ back <+: list.drop front.length := by
  constructor
  · rintro ⟨rest, rfl⟩
    rw [List.append_assoc, List.drop_left]
    exact ⟨List.prefix_append _ _, List.prefix_append _ _⟩
  · rintro ⟨⟨tail, rfl⟩, later⟩
    rw [List.drop_left] at later
    exact (List.prefix_append_right_inj front).mpr later

/-! ## Bytes -/

theorem ensure_ok {condition : Prop} [Decidable condition] {error : RemotePayloadError} :
    ensure condition error = .ok () ↔ condition := by
  by_cases holds : condition
  · simp [ensure, holds]
  · simp [ensure, holds, reject]

theorem singleton_isPrefix {byte : UInt8} :
    [byte] <+: payload.drop index ↔ payload[index]? = some byte := by
  rw [← List.head?_drop]
  cases payload.drop index with
  | nil => simp
  | cons first rest => simp [eq_comm]

theorem pair_prefix {b0 b1 : UInt8} : [b0, b1] <+: payload.drop index ↔
    payload[index]? = some b0 ∧ payload[index + 1]? = some b1 := by
  have split : [b0, b1] = [b0] ++ [b1] := rfl
  rw [split, append_isPrefix, List.drop_drop, singleton_isPrefix, List.length_singleton,
    singleton_isPrefix]

theorem byteAt_ok {byte : UInt8} : byteAt payload index = .ok byte ↔ [byte] <+: payload.drop index := by
  rw [singleton_isPrefix, byteAt]
  cases payload[index]? with
  | none | some => simp

theorem window_ok (positive : 0 < width) :
    window raw index width context = .ok bytes ↔
      bytes.length = width ∧ bytes <+: raw.drop index := by
  rw [window]
  constructor
  · intro found
    split_ifs at found with room
    · cases found
      refine ⟨?_, List.take_prefix _ _⟩
      rw [List.length_take, List.length_drop]
      omega
    · cases found
  · rintro ⟨sized, here⟩
    have room := here.length_le
    rw [List.length_drop] at room
    rw [if_pos (by omega), List.prefix_iff_eq_take.mp here, sized]

theorem slice_ok (increasing : start < stop) :
    slice payload start stop = .ok bytes ↔
      bytes.length = stop - start ∧ bytes <+: payload.drop start := by
  rw [slice]
  constructor
  · intro found
    split_ifs at found with room
    cases found
    refine ⟨?_, List.take_prefix _ _⟩
    rw [List.length_take, List.length_drop]
    omega
  · rintro ⟨sized, here⟩
    have room := here.length_le
    rw [List.length_drop] at room
    rw [if_pos (by omega), List.prefix_iff_eq_take.mp here, sized]

/-! ## Words -/

/-- The bytes of a word and the word determine each other. -/
theorem u32ToLe_u32FromLe (b0 b1 b2 b3 : UInt8) :
    u32ToLe (u32FromLe b0 b1 b2 b3) = [b0, b1, b2, b3] := by
  have := b0.toNat_lt
  have := b1.toNat_lt
  have := b2.toNat_lt
  have := b3.toNat_lt
  simp only [u32ToLe, u32FromLe, UInt32.toNat_ofNat', List.cons.injEq, ← UInt8.toNat_inj,
    UInt8.toNat_ofNat', and_true]
  omega

theorem readU32Le_ok {value : UInt32} :
    readU32Le raw index = .ok value ↔ u32ToLe value <+: raw.drop index := by
  rw [readU32Le, bind_ok]
  constructor
  · rintro ⟨bytes, found, returned⟩
    obtain ⟨sized, here⟩ := (window_ok (by omega)).mp found
    obtain ⟨b0, b1, b2, b3, rfl⟩ := List.length_eq_four.mp sized
    cases returned
    rw [u32ToLe_u32FromLe]
    exact here
  · intro here
    refine ⟨u32ToLe value, (window_ok (by omega)).mpr ⟨rfl, here⟩, ?_⟩
    exact congrArg Except.ok (u32FromLe_u32ToLe value)

/-! ## Room for a read -/

/-- The bytes at a position. -/
theorem exists_bytes (room : index + width ≤ payload.length) :
    ∃ bytes : Bytes, bytes.length = width ∧ bytes <+: payload.drop index := by
  refine ⟨(payload.drop index).take width, ?_, List.take_prefix _ _⟩
  rw [List.length_take, List.length_drop]
  omega

theorem exists_byte (room : index < payload.length) :
    ∃ byte : UInt8, [byte] <+: payload.drop index :=
  ⟨payload[index], singleton_isPrefix.mpr (List.getElem?_eq_getElem room)⟩

theorem exists_word (room : index + 4 ≤ payload.length) :
    ∃ word, u32ToLe word <+: payload.drop index := by
  obtain ⟨bytes, sized, here⟩ := exists_bytes room
  obtain ⟨b0, b1, b2, b3, rfl⟩ := List.length_eq_four.mp sized
  refine ⟨u32FromLe b0 b1 b2 b3, ?_⟩
  rw [u32ToLe_u32FromLe]
  exact here

theorem prefix_room (positive : 0 < bytes.length) (here : bytes <+: payload.drop index) :
    index + bytes.length ≤ payload.length := by
  have room := here.length_le
  rw [List.length_drop] at room
  omega

/-! ## Integers -/

/-- A value that is decoded from the bytes at a position. -/
def Decoded (payload : Bytes) (cursor : Nat) (signed : Bool) (width : Nat) (value : Int) : Prop :=
  ∃ bytes, bytes.length = width ∧ bytes <+: payload.drop cursor ∧ decode signed bytes = value

theorem decoded_iff {signed : Bool} {value : Int} :
    Decoded payload cursor signed width value ↔
      Fits signed width value ∧ encode width value <+: payload.drop cursor := by
  constructor
  · rintro ⟨bytes, rfl, here, rfl⟩
    rw [encode_decode]
    exact ⟨fits_decode signed bytes, here⟩
  · rintro ⟨fits, here⟩
    exact ⟨encode width value, length_encode width value, here, decode_encode fits⟩

theorem decode_one (signed : Bool) (byte : UInt8) :
    decode signed [byte] = if signed then byte.toInt8.toInt else byte.toNat := by
  have small := byte.toNat_lt
  have wide : byte.toInt8.toInt = if 2 * byte.toNat < 256 then (byte.toNat : Int)
      else byte.toNat - 256 := BitVec.toInt_eq_toNat_cond byte.toBitVec
  have value : unsigned [byte] = byte.toNat := by simp [unsigned]
  have spans : span [byte].length = 256 := rfl
  cases signed
  · simp [value]
  · rw [decode_true, value, spans, if_pos rfl, wide]
    split_ifs <;> omega

theorem toNat_u16FromLe (b0 b1 : UInt8) : (u16FromLe b0 b1).toNat = b0.toNat + 256 * b1.toNat := by
  have := b0.toNat_lt
  have := b1.toNat_lt
  rw [u16FromLe, UInt16.toNat_ofNat']
  omega

theorem toInt_toInt16 (word : UInt16) : word.toInt16.toInt =
    if 2 * word.toNat < 65536 then (word.toNat : Int) else word.toNat - 65536 :=
  BitVec.toInt_eq_toNat_cond word.toBitVec

/-! ### The integers of the parsers -/

section Decoded

variable {signed : Bool} {value : Int}

theorem decoded_one : Decoded payload cursor signed 1 value ↔
    ∃ byte, [byte] <+: payload.drop cursor ∧
      (if signed then byte.toInt8.toInt else byte.toNat) = value := by
  constructor
  · rintro ⟨bytes, sized, here, same⟩
    obtain ⟨byte, rfl⟩ := List.length_eq_one_iff.mp sized
    exact ⟨byte, here, (decode_one signed byte).symm.trans same⟩
  · rintro ⟨byte, here, same⟩
    exact ⟨[byte], rfl, here, (decode_one signed byte).trans same⟩

end Decoded

/-! ## No panics -/

/-- The parser does not panic, and its loops end. -/
def Graceful {α : Type} (result : Parse α) : Prop :=
  ∀ fault, result = .error fault → ∃ error, fault = .rejected error

section Graceful

variable {α β : Type}

theorem graceful_ok (value : α) : Graceful (.ok value : Parse α) := nofun

theorem graceful_reject (error : RemotePayloadError) : Graceful (reject error : Parse α) := by
  rintro _ ⟨⟩
  exact ⟨error, rfl⟩

theorem graceful_of_ok {result : Parse α} {value : α} (returned : result = .ok value) :
    Graceful result := by
  rw [returned]
  exact graceful_ok value

theorem graceful_bind {first : Parse α} {next : α → Parse β} (head : Graceful first)
    (tail : ∀ value, first = .ok value → Graceful (next value)) : Graceful (first >>= next) := by
  cases ran : first with
  | error fault =>
    intro found same
    exact head found (ran.trans (congrArg Except.error (Except.error.inj same)))
  | ok value => exact tail value ran

theorem graceful_ensure (condition : Prop) [Decidable condition] (error : RemotePayloadError) :
    Graceful (ensure condition error) := by
  by_cases holds : condition
  · exact graceful_of_ok (ensure_ok.mpr holds)
  · rw [ensure, if_neg holds]
    exact graceful_reject error

theorem graceful_window (raw : Bytes) (index width : Nat) (context : String) :
    Graceful (window raw index width context) := by
  rw [window]
  split_ifs
  · exact graceful_ok _
  · exact graceful_reject _

end Graceful

end Meshquill.Remote
