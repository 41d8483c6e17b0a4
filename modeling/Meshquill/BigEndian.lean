import Mathlib.Data.List.Induction
import Mathlib.Tactic.Linarith

/-!
# Big-endian integers

The bytes of an integer in two's complement, most significant first. An integer that fits, signed
or not, is determined by its bytes.

Nothing here names a particular program.
-/
namespace Meshquill.BigEndian

/-- The number of values of so many bytes. -/
def span : Nat → Int
  | 0 => 1
  | width + 1 => 256 * span width

/-- The lowest bytes of an integer; the higher ones are dropped. -/
def encode : Nat → Int → List UInt8
  | 0, _ => []
  | width + 1, value => encode width (value / 256) ++ [UInt8.ofNat (value % 256).toNat]

/-- The unsigned integer with these bytes. -/
def unsigned (bytes : List UInt8) : Int := bytes.foldl (fun value byte => 256 * value + byte.toNat) 0

/-- The integer with these bytes. -/
def decode (signed : Bool) (bytes : List UInt8) : Int :=
  if signed ∧ span bytes.length ≤ 2 * unsigned bytes then unsigned bytes - span bytes.length
  else unsigned bytes

/-- The integer is in the range of its width. -/
def Fits (signed : Bool) (width : Nat) (value : Int) : Prop :=
  if signed then -span width ≤ 2 * value ∧ 2 * value < span width
  else 0 ≤ value ∧ value < span width

variable {signed : Bool} {width : Nat} {value other : Int} {bytes : List UInt8}

@[simp] theorem decode_false (bytes : List UInt8) : decode false bytes = unsigned bytes := by
  simp [decode]

theorem decode_true (bytes : List UInt8) :
    decode true bytes = if span bytes.length ≤ 2 * unsigned bytes
      then unsigned bytes - span bytes.length else unsigned bytes := by
  simp [decode]

@[simp] theorem length_encode (width : Nat) (value : Int) : (encode width value).length = width := by
  induction width generalizing value with
  | zero => rfl
  | succ width ih => simp [encode, ih]

theorem unsigned_concat (bytes : List UInt8) (byte : UInt8) :
    unsigned (bytes ++ [byte]) = 256 * unsigned bytes + byte.toNat := by
  simp [unsigned]

theorem lowByte_eq_iff {byte : UInt8} :
    UInt8.ofNat (value % 256).toNat = byte ↔ value % 256 = byte.toNat := by
  have small : byte.toNat < 256 := byte.toNat_lt
  rw [← UInt8.toNat_inj, UInt8.toNat_ofNat']
  omega

/-- The bytes of an integer are these, exactly if it is the unsigned one up to a multiple of the
span. -/
theorem encode_eq_iff :
    encode bytes.length value = bytes ↔
      ∃ multiple, value = unsigned bytes + multiple * span bytes.length := by
  induction bytes using List.reverseRecOn generalizing value with
  | nil => simp [encode, unsigned, span]
  | append_singleton bytes byte ih =>
    have small : byte.toNat < 256 := byte.toNat_lt
    rw [List.length_append, List.length_singleton, encode, unsigned_concat, span,
      List.append_singleton_inj, ih, lowByte_eq_iff]
    constructor
    · rintro ⟨⟨multiple, high⟩, low⟩
      refine ⟨multiple, ?_⟩
      rw [Int.mul_left_comm]
      omega
    · rintro ⟨multiple, whole⟩
      rw [Int.mul_left_comm] at whole
      exact ⟨⟨multiple, by omega⟩, by omega⟩

theorem span_pos (width : Nat) : 0 < span width := by
  induction width with
  | zero => decide
  | succ width ih =>
    rw [span]
    omega

/-- Integers in the range of a width that differ by a multiple of its span are equal. -/
theorem Fits.eq_of_multiple (here : Fits signed width value) (there : Fits signed width other)
    {multiple : Int} (differ : value = other + multiple * span width) : value = other := by
  have near : -span width < multiple * span width ∧ multiple * span width < span width := by
    cases signed
    · simp only [Fits, Bool.false_eq_true, if_false] at here there
      omega
    · simp only [Fits, if_true] at here there
      omega
  have positive := span_pos width
  have none : multiple = 0 := by
    by_contra some
    rcases Int.lt_or_gt_of_ne some with below | above
    · nlinarith
    · nlinarith
  rw [differ, none]
  omega

theorem exists_multiple (sized : bytes.length = width) (encoded : encode width value = bytes) :
    ∃ multiple, value = unsigned bytes + multiple * span width := by
  subst sized
  exact encode_eq_iff.mp encoded

/-- An integer that fits is determined by its bytes. -/
theorem encode_inj (here : Fits signed width value) (there : Fits signed width other)
    (same : encode width value = encode width other) : value = other := by
  obtain ⟨first, isFirst⟩ := exists_multiple (length_encode width other) same
  obtain ⟨second, isSecond⟩ := exists_multiple (length_encode width other) rfl
  have differ : value = other + (first - second) * span width := by
    rw [Int.sub_mul]
    omega
  exact here.eq_of_multiple there differ

theorem unsigned_fits (bytes : List UInt8) :
    0 ≤ unsigned bytes ∧ unsigned bytes < span bytes.length := by
  induction bytes using List.reverseRecOn with
  | nil => decide
  | append_singleton bytes byte ih =>
    have small : byte.toNat < 256 := byte.toNat_lt
    rw [unsigned_concat, List.length_append, List.length_singleton, span]
    omega

theorem fits_decode (signed : Bool) (bytes : List UInt8) :
    Fits signed bytes.length (decode signed bytes) := by
  have range := unsigned_fits bytes
  by_cases high : span bytes.length ≤ 2 * unsigned bytes
  · cases signed
    · simpa [Fits, decode] using range
    · simp only [Fits, decode, high, and_self, if_true]
      omega
  · cases signed
    · simpa [Fits, decode] using range
    · simp only [Fits, decode, high, and_false, if_true, if_false]
      omega

@[simp] theorem encode_decode (signed : Bool) (bytes : List UInt8) :
    encode bytes.length (decode signed bytes) = bytes := by
  rw [encode_eq_iff, decode]
  split_ifs
  · exact ⟨-1, by omega⟩
  · exact ⟨0, by omega⟩

theorem decode_encode (fits : Fits signed width value) :
    decode signed (encode width value) = value := by
  have there := fits_decode signed (encode width value)
  have same := encode_decode signed (encode width value)
  rw [length_encode] at there same
  exact encode_inj there fits same

end Meshquill.BigEndian
