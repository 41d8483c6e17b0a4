import Meshquill.Protocol.Command
import Meshquill.Protocol.Parse

/-!
# The bytes of a text

`str::as_bytes` and `String::from_utf8`: the length of an encoding, the round trip, and that a
byte below 128 stands for the character with that number wherever it occurs.
-/
namespace Meshquill

theorem utf8_append (first second : String) :
    utf8 (first ++ second) = utf8 first ++ utf8 second := by
  simp [utf8]

theorem utf8_ofList (chars : List Char) :
    utf8 (String.ofList chars) = chars.flatMap String.utf8EncodeChar := by
  simp [utf8, List.utf8Encode]

theorem length_utf8 (text : String) : (utf8 text).length = text.utf8ByteSize :=
  String.size_toByteArray

/-- A string of one-byte characters. -/
theorem length_utf8_ofList {chars : List Char} (single : ∀ char ∈ chars, char.utf8Size = 1) :
    (utf8 (String.ofList chars)).length = chars.length := by
  rw [utf8_ofList, List.length_flatMap]
  have sizes : chars.map (fun char => (String.utf8EncodeChar char).length) =
      chars.map fun _ => 1 := by
    refine List.map_congr_left fun char inside => ?_
    rw [String.length_utf8EncodeChar, single char inside]
  rw [sizes]
  simp

theorem fromUtf8_utf8 (text : String) : fromUtf8 (utf8 text) = some text := by
  have bytes : (⟨(utf8 text).toArray⟩ : ByteArray) = text.toByteArray := by
    rw [utf8, Array.toArray_toList]
  rw [fromUtf8, bytes, String.fromUTF8?, dif_pos text.isValidUTF8]
  rfl

theorem utf8_of_fromUtf8 {bytes : Bytes} {text : String} (decoded : fromUtf8 bytes = some text) :
    utf8 text = bytes := by
  unfold fromUtf8 String.fromUTF8? at decoded
  split at decoded
  · cases decoded
    rfl
  · cases decoded

/-- The bytes of longer encodings have their highest bit set. -/
theorem toNat_of_mem_utf8EncodeChar {char : Char} {byte : UInt8}
    (inside : byte ∈ String.utf8EncodeChar char) (ascii : byte.toNat < 128) :
    char.val.toNat = byte.toNat := by
  unfold String.utf8EncodeChar at inside
  dsimp only at inside
  generalize char.val.toNat = code at inside ⊢
  split at inside
  · rw [List.mem_singleton.mp inside, UInt8.toNat_ofNat']
    omega
  · exfalso
    revert ascii
    split at inside
    · simp only [List.mem_cons, List.not_mem_nil, or_false] at inside
      rcases inside with rfl | rfl <;> rw [UInt8.toNat_ofNat'] <;> omega
    · split at inside
      · simp only [List.mem_cons, List.not_mem_nil, or_false] at inside
        rcases inside with rfl | rfl | rfl <;> rw [UInt8.toNat_ofNat'] <;> omega
      · simp only [List.mem_cons, List.not_mem_nil, or_false] at inside
        rcases inside with rfl | rfl | rfl | rfl <;> rw [UInt8.toNat_ofNat'] <;> omega

/-- A byte below 128 in the encoding is a character of the text. -/
theorem mem_toList_of_mem_utf8 {text : String} {byte : UInt8} (inside : byte ∈ utf8 text)
    (ascii : byte.toNat < 128) : ∃ char ∈ text.toList, char.val.toNat = byte.toNat := by
  rw [← String.ofList_toList (s := text), utf8_ofList] at inside
  obtain ⟨char, member, encoded⟩ := List.mem_flatMap.mp inside
  exact ⟨char, member, toNat_of_mem_utf8EncodeChar encoded ascii⟩

/-- An ASCII character of the text is a byte of its encoding. -/
theorem mem_utf8_of_mem_toList {text : String} {char : Char} (inside : char ∈ text.toList)
    (ascii : char.val.toNat < 128) : UInt8.ofNat char.val.toNat ∈ utf8 text := by
  rw [← String.ofList_toList (s := text), utf8_ofList]
  refine List.mem_flatMap.mpr ⟨char, inside, ?_⟩
  unfold String.utf8EncodeChar
  dsimp only
  rw [if_pos (Nat.le_of_lt_succ ascii)]
  exact List.mem_singleton_self _

/-- A line feed in the encoding is one in the text. -/
theorem newline_of_mem_utf8 {text : String} (inside : (10 : UInt8) ∈ utf8 text) :
    '\n' ∈ text.toList := by
  obtain ⟨char, member, code⟩ := mem_toList_of_mem_utf8 inside (by decide)
  have same : char = '\n' := Char.ext (UInt32.toNat_inj.mp code)
  exact same ▸ member

/-! ## ASCII -/

/-- A text of ASCII characters other than NUL. -/
def AsciiText (text : String) : Prop :=
  ∀ char ∈ text.toList, 0 < char.val.toNat ∧ char.val.toNat < 128

namespace AsciiText

variable {first second text : String}

theorem append (left : AsciiText first) (right : AsciiText second) :
    AsciiText (first ++ second) := by
  intro char inside
  rw [String.toList_append, List.mem_append] at inside
  exact inside.elim (left char) (right char)

theorem utf8ByteSize_eq (ascii : AsciiText text) : text.utf8ByteSize = text.toList.length := by
  have single : ∀ char ∈ text.toList, char.utf8Size = 1 := by
    intro char inside
    have low : char.val ≤ 127 := UInt32.le_iff_toNat_le.mpr (Nat.le_of_lt_succ (ascii char inside).2)
    exact if_pos low
  rw [← length_utf8, ← length_utf8_ofList single, String.ofList_toList]

theorem noNul (ascii : AsciiText text) : (0 : UInt8) ∉ utf8 text := by
  intro inside
  obtain ⟨char, member, code⟩ := mem_toList_of_mem_utf8 inside (by decide)
  exact absurd code (Nat.ne_of_gt (ascii char member).1)

end AsciiText

theorem asciiText_toString (number : Nat) : AsciiText (toString number) := by
  intro char inside
  have listed : char ∈ Nat.toDigits 10 number := by
    rw [← String.toList_ofList (l := Nat.toDigits 10 number)]
    exact inside
  obtain ⟨low, high⟩ := Char.isDigit_iff_toNat.mp
    (Nat.isDigit_of_mem_toDigits (by decide) (by decide) listed)
  exact ⟨Nat.lt_of_lt_of_le (by decide) low, Nat.lt_of_le_of_lt high (by decide)⟩

/-! ## Hexadecimal texts

What `hex::encode` writes: two lowercase digits for each byte.
-/

theorem utf8Size_hexDigit : ∀ value < 16, (hexDigit value).utf8Size = 1 := by decide

/-- The digits of a byte. -/
def hexDigits (byte : UInt8) : List Char :=
  [hexDigit (byte.toNat / 16), hexDigit (byte.toNat % 16)]

theorem hexDigits_forall {property : Char → Prop}
    (each : ∀ value < 16, property (hexDigit value)) (bytes : Bytes) :
    ∀ digit ∈ bytes.flatMap hexDigits, property digit := by
  intro digit inside
  obtain ⟨byte, _, inside⟩ := List.mem_flatMap.mp inside
  have small : byte.toNat < 256 := byte.toNat_lt
  rcases List.mem_pair.mp inside with rfl | rfl
  · exact each _ (by omega)
  · exact each _ (by omega)

variable (bytes : Bytes)

theorem length_hexDigits : (bytes.flatMap hexDigits).length = 2 * bytes.length := by
  induction bytes with
  | nil => rfl
  | cons byte rest ih =>
    simp only [List.flatMap_cons, List.length_append, ih, List.length_cons]
    change 2 + _ = _
    omega

theorem toList_hexEncode : (hexEncode bytes).toList = bytes.flatMap hexDigits := by
  rw [hexEncode, String.toList_ofList]
  rfl

theorem length_utf8_hexDigits (card : Bytes) :
    (utf8 (String.ofList (card.flatMap hexDigits))).length = 2 * card.length := by
  rw [length_utf8_ofList (hexDigits_forall utf8Size_hexDigit card), length_hexDigits]

theorem utf8ByteSize_hexEncode : (hexEncode bytes).utf8ByteSize = 2 * bytes.length := by
  rw [← length_utf8]
  exact length_utf8_hexDigits bytes

theorem asciiText_hexEncode : AsciiText (hexEncode bytes) := by
  rw [AsciiText, toList_hexEncode]
  exact hexDigits_forall (by decide) bytes

theorem toLower_hexEncode : (hexEncode bytes).toLower = hexEncode bytes := by
  have lower : ∀ digit ∈ bytes.flatMap hexDigits, digit.toLower = digit :=
    hexDigits_forall (by decide) bytes
  apply String.toList_inj.mp
  change ((hexEncode bytes).map Char.toLower).toList = _
  rw [String.toList_map, toList_hexEncode]
  exact (List.map_congr_left lower).trans (List.map_id _)

end Meshquill
