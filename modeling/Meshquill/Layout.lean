import Mathlib.Data.List.Basic

/-!
# Records with fixed-width fields

A record on a wire is a sequence of fields. A field holds a value at its start and a filler up
to its width. Nothing is cut off in the encoding of a field, so a value that is longer than
its field moves all fields behind it. When every value fits, each field stands at the sum of
the widths before it.

Nothing here names a particular program.
-/
namespace Meshquill

structure Field (α : Type) where
  value : List α
  width : Nat

/-- A record, field by field. -/
abbrev Layout (α : Type) := List (Field α)

variable {α : Type}

namespace Field

/-- A field that is as wide as its value. -/
def exact (value : List α) : Field α := { value, width := value.length }

def Fits (field : Field α) : Prop := field.value.length ≤ field.width

def encode (filler : α) (field : Field α) : List α :=
  field.value ++ List.replicate (field.width - field.value.length) filler

@[simp] theorem fits_exact (value : List α) : (exact value).Fits := Nat.le_refl _

@[simp] theorem encode_exact (filler : α) (value : List α) :
    (exact value).encode filler = value := by
  simp [encode, exact]

/-- A field that its value fills. -/
theorem encode_of_length {filler : α} {field : Field α}
    (filled : field.value.length = field.width) : field.encode filler = field.value := by
  simp [encode, filled]

theorem length_encode {filler : α} {field : Field α} (fits : field.Fits) :
    (field.encode filler).length = field.width := by
  have fits : field.value.length ≤ field.width := fits
  rw [encode, List.length_append, List.length_replicate]
  omega

end Field

namespace Layout

def Fits (layout : Layout α) : Prop := ∀ field ∈ layout, field.Fits

def width : Layout α → Nat
  | [] => 0
  | field :: rest => field.width + width rest

def encode (filler : α) (layout : Layout α) : List α := layout.flatMap (Field.encode filler)

/-- Where a field stands. -/
def offset (layout : Layout α) (index : Nat) : Nat := width (layout.take index)

@[simp] theorem fits_nil : Fits ([] : Layout α) := by
  intro field inside
  cases inside

variable {field : Field α} {layout : Layout α} {filler : α} {index : Nat}

@[simp] theorem fits_cons : Fits (field :: layout) ↔ field.Fits ∧ layout.Fits :=
  List.forall_mem_cons

@[simp] theorem encode_nil (filler : α) : encode filler [] = [] := rfl

@[simp] theorem encode_cons (filler : α) (field : Field α) (layout : Layout α) :
    encode filler (field :: layout) = field.encode filler ++ encode filler layout := rfl

theorem length_encode (fits : layout.Fits) : (layout.encode filler).length = layout.width := by
  induction layout with
  | nil => rfl
  | cons field layout ih =>
    obtain ⟨first, rest⟩ := fits_cons.mp fits
    rw [encode_cons, List.length_append, Field.length_encode first, ih rest]
    rfl

/-- What follows the fields before an index is the field at the index and the others. -/
theorem drop_offset (fits : layout.Fits) (found : layout[index]? = some field) :
    (layout.encode filler).drop (layout.offset index) =
      field.encode filler ++ encode filler (layout.drop (index + 1)) := by
  induction layout generalizing index with
  | nil => cases found
  | cons head rest ih =>
    obtain ⟨first, others⟩ := fits_cons.mp fits
    cases index with
    | zero =>
      cases found
      rfl
    | succ index =>
      have further : offset (head :: rest) (index + 1) = head.width + offset rest index := rfl
      have skipped : (head.encode filler).length = head.width := Field.length_encode first
      rw [encode_cons, further, ← skipped, List.drop_length_add_append]
      exact ih others found

/-- A field is read back at its offset. -/
theorem read_field (fits : layout.Fits) (found : layout[index]? = some field) :
    ((layout.encode filler).drop (layout.offset index)).take field.width =
      field.encode filler := by
  have inside : field.Fits := fits field (List.mem_of_getElem? found)
  have filled : (field.encode filler).length = field.width := Field.length_encode inside
  rw [drop_offset fits found, ← filled, List.take_left]

/-- A value is read back at the offset of its field. -/
theorem read_value (fits : layout.Fits) (found : layout[index]? = some field) :
    ((layout.encode filler).drop (layout.offset index)).take field.value.length =
      field.value := by
  rw [drop_offset fits found, Field.encode, List.append_assoc, List.take_left]

/-- Every field ends inside the record. -/
theorem offset_add_width_le (found : layout[index]? = some field) :
    layout.offset index + field.width ≤ layout.width := by
  induction layout generalizing index with
  | nil => cases found
  | cons head rest ih =>
    have all : width (head :: rest) = head.width + width rest := rfl
    cases index with
    | zero =>
      cases found
      have start : offset (field :: rest) 0 = 0 := rfl
      omega
    | succ index =>
      have further : offset (head :: rest) (index + 1) = head.width + offset rest index := rfl
      have inner : offset rest index + field.width ≤ width rest := ih found
      omega

end Layout

end Meshquill
