import Mathlib.Data.List.Basic

/-!
# Characters and strings

The classes of characters that the command line, the store and the gateway tell apart, and what
the standard library does with them. The length of a string is that of its UTF-8 encoding.
-/
namespace Meshquill

/-- `char::is_whitespace`: the characters with the property `White_Space`. -/
def isWhitespace (value : Char) : Bool :=
  let code := value.toNat
  (9 ≤ code && code ≤ 13) || code = 0x20 || code = 0x85 || code = 0xa0 || code = 0x1680 ||
    (0x2000 ≤ code && code ≤ 0x200a) || code = 0x2028 || code = 0x2029 || code = 0x202f ||
    code = 0x205f || code = 0x3000

variable (text : List Char)

/-- `str::trim`. -/
def trim : List Char :=
  ((text.dropWhile isWhitespace).reverse.dropWhile isWhitespace).reverse

/-- `usize::MAX` on the targets with 64 bits. -/
def usizeMax : Nat := 0xffffffffffffffff

/-- `str::parse` for an unsigned type with this maximum: decimal digits after an optional plus
sign. -/
def parseUnsigned (maximum : Nat) (text : String) : Option Nat :=
  let digits : List Char := match text.toList with
    | '+' :: rest => rest
    | all => all
  let value := digits.foldl (fun total digit => 10 * total + (digit.toNat - 48)) 0
  if digits = [] ∨ ¬ digits.all Char.isDigit ∨ value > maximum then none else some value

/-- A text of whitespace only. -/
def Blank : Prop := ∀ value ∈ text, isWhitespace value = true

theorem Blank.reverse {text : List Char} (blank : Blank text) : Blank text.reverse :=
  fun value inside => blank value (List.mem_reverse.mp inside)

theorem blank_takeWhile : Blank (text.takeWhile isWhitespace) :=
  fun value inside => List.all_eq_true.mp List.all_takeWhile value inside

/-- Whitespace in front of a text is dropped, and no more. -/
theorem dropWhile_blank {before core rest : List Char} (blank : Blank before) (filled : core ≠ [])
    (solid : ∀ value ∈ core, isWhitespace value = false) :
    (before ++ (core ++ rest)).dropWhile isWhitespace = core ++ rest := by
  obtain ⟨first, others, rfl⟩ := List.exists_cons_of_ne_nil filled
  have visible : isWhitespace first = false := solid first List.mem_cons_self
  rw [List.dropWhile_append_of_pos blank, List.cons_append,
    List.dropWhile_cons_of_neg (by simp [visible])]

/-- Trimming removes whitespace around a text. -/
theorem trim_around {before core after : List Char} (blankBefore : Blank before)
    (blankAfter : Blank after) (filled : core ≠ [])
    (solid : ∀ value ∈ core, isWhitespace value = false) :
    trim (before ++ core ++ after) = core := by
  have solidReverse : ∀ value ∈ core.reverse, isWhitespace value = false :=
    fun value inside => solid value (List.mem_reverse.mp inside)
  have fromEnd := @dropWhile_blank _ _ [] blankAfter.reverse
    (List.reverse_ne_nil_iff.mpr filled) solidReverse
  rw [trim, List.append_assoc, dropWhile_blank blankBefore filled solid, List.reverse_append]
  rw [List.append_nil] at fromEnd
  rw [fromEnd, List.reverse_reverse]

/-- Nothing but whitespace is removed. -/
theorem exists_around_trim :
    ∃ before after, Blank before ∧ Blank after ∧ text = before ++ trim text ++ after := by
  refine ⟨text.takeWhile isWhitespace,
    ((text.dropWhile isWhitespace).reverse.takeWhile isWhitespace).reverse,
    blank_takeWhile text, (blank_takeWhile _).reverse, ?_⟩
  rw [trim, List.append_assoc, ← List.reverse_append, List.takeWhile_append_dropWhile,
    List.reverse_reverse, List.takeWhile_append_dropWhile]

/-- `str::split_whitespace`. -/
def splitWhitespace : List (List Char) :=
  (text.splitOnP isWhitespace).filter (· ≠ [])

/-- `char::is_control`: the general category `Cc`. -/
def isControl (value : Char) : Bool :=
  value.toNat < 0x20 || (0x7f ≤ value.toNat && value.toNat < 0xa0)

/-- Whether `str::trim` changes the text. -/
def isTrimmed (text : String) : Bool := trim text.toList = text.toList

/-! ## Separated parts

Splitting a list at a separator undoes joining parts that do not contain it, and joining undoes
splitting. `splitOn_eq_iff` says both at once. Nothing here names a particular program.
-/

variable {α : Type} [BEq α] [LawfulBEq α] {separator : α}

/-- A part of a longer list is empty, a part of the rest, or a part of the rest with the first
element before it, which is not the separator. -/
theorem mem_splitOn_cons {first : α} {rest part : List α}
    (inside : part ∈ (first :: rest).splitOn separator) :
    part = [] ∨ part ∈ rest.splitOn separator ∨
      first ≠ separator ∧ ∃ head ∈ rest.splitOn separator, part = first :: head := by
  rw [List.splitOn_cons_eq_if_modifyHead] at inside
  by_cases here : (first == separator) = true
  · rw [if_pos here] at inside
    rcases List.mem_cons.mp inside with empty | later
    · exact .inl empty
    · exact .inr (.inl later)
  · rw [if_neg here] at inside
    obtain ⟨head, tail, split⟩ := List.exists_cons_of_ne_nil (List.splitOn_ne_nil separator rest)
    rw [split, List.modifyHead_cons] at inside
    rcases List.mem_cons.mp inside with grown | later
    · exact .inr (.inr ⟨fun same => here (beq_iff_eq.mpr same), head, split ▸ List.mem_cons_self,
        grown⟩)
    · exact .inr (.inl (split ▸ List.mem_cons_of_mem _ later))

/-- No part contains the separator. -/
theorem not_mem_of_mem_splitOn {joined part : List α} (inside : part ∈ joined.splitOn separator) :
    separator ∉ part := by
  induction joined generalizing part with
  | nil =>
    rw [List.splitOn_nil, List.mem_singleton] at inside
    rw [inside]
    exact List.not_mem_nil
  | cons first rest ih =>
    rcases mem_splitOn_cons inside with rfl | later | ⟨other, head, within, rfl⟩
    · exact List.not_mem_nil
    · exact ih later
    · intro found
      rcases List.mem_cons.mp found with rfl | found
      · exact other rfl
      · exact ih within found

omit [BEq α] [LawfulBEq α] in
/-- Apart from separators, the whole contains what its parts contain. -/
theorem mem_intercalate {parts : List (List α)} {value : α} (other : value ≠ separator) :
    value ∈ [separator].intercalate parts ↔ ∃ part ∈ parts, value ∈ part := by
  induction parts with
  | nil => simp [List.intercalate]
  | cons first later ih =>
    cases later with
    | nil => simp [List.intercalate]
    | cons next others =>
      have joined : [separator].intercalate (first :: next :: others) =
          first ++ separator :: [separator].intercalate (next :: others) := by
        simp [List.intercalate]
      rw [joined, List.mem_append, List.mem_cons, ih]
      constructor
      · rintro (inFirst | same | ⟨part, inside, within⟩)
        · exact ⟨first, List.mem_cons_self, inFirst⟩
        · exact absurd same other
        · exact ⟨part, List.mem_cons_of_mem _ inside, within⟩
      · rintro ⟨part, inside, within⟩
        rcases List.mem_cons.mp inside with rfl | later
        · exact .inl within
        · exact .inr (.inr ⟨part, later, within⟩)

/-- No part is longer than the whole. -/
theorem length_le_of_mem_splitOn {joined part : List α}
    (inside : part ∈ joined.splitOn separator) : part.length ≤ joined.length := by
  induction joined generalizing part with
  | nil =>
    rw [List.splitOn_nil, List.mem_singleton] at inside
    exact Nat.le_of_eq (congrArg List.length inside)
  | cons first rest ih =>
    rcases mem_splitOn_cons inside with rfl | later | ⟨-, head, within, rfl⟩
    · exact Nat.zero_le _
    · exact Nat.le_succ_of_le (ih later)
    · exact Nat.succ_le_succ (ih within)

/-- A list splits into exactly the parts without the separator that it joins. -/
theorem splitOn_eq_iff {joined : List α} {parts : List (List α)} :
    joined.splitOn separator = parts ↔
      parts ≠ [] ∧ (∀ part ∈ parts, separator ∉ part) ∧
        joined = [separator].intercalate parts := by
  constructor
  · rintro rfl
    exact ⟨List.splitOn_ne_nil separator joined, fun part => not_mem_of_mem_splitOn,
      (List.intercalate_splitOn separator).symm⟩
  · rintro ⟨filled, apart, rfl⟩
    exact List.splitOn_intercalate separator apart filled

end Meshquill
