import Meshquill.OrderedMap
import Mathlib.Data.String.Basic

/-!
# Records as JSON values

A JSON value is a tree, and an object in it is a map. A record is written as the object of its
members; members that are absent are left out. Reading takes an object back whose members are all
known, or an array with a value for each member. A variant of a tagged sum is a record with a
member more that names the variant.

`readRecord_record` and `readTagged_tagged` say that what is looked up in a record that was read
is what was written, so that a round trip is left with the members one by one. Numbers that are
not integers are a parameter. Nothing here names a particular program.
-/
namespace Meshquill.Serde

/-- A JSON value; `ν` has the numbers that are not integers. -/
inductive Value (ν : Type) where
  | null
  | bool (value : Bool)
  | integer (value : Int)
  | float (value : ν)
  | string (value : String)
  | array (items : List (Value ν))
  | object (members : List (String × Value ν))

abbrev Members (ν : Type) := List (String × Value ν)

variable {ν α : Type}

/-! ## Integers, texts and lists -/

/-- An integer from `low` on and below `high`. -/
def readBetween (low high : Int) : Value ν → Option Int
  | .integer value => if low ≤ value ∧ value < high then some value else none
  | _ => none

theorem readBetween_integer {low high value : Int} (above : low ≤ value) (below : value < high) :
    readBetween low high (.integer value : Value ν) = some value :=
  if_pos ⟨above, below⟩

def writeU8 (value : UInt8) : Value ν := .integer value.toNat

def writeU16 (value : UInt16) : Value ν := .integer value.toNat

def writeU32 (value : UInt32) : Value ν := .integer value.toNat

def writeU64 (value : UInt64) : Value ν := .integer value.toNat

def writeI8 (value : Int8) : Value ν := .integer value.toInt

def writeI16 (value : Int16) : Value ν := .integer value.toInt

variable (value : Value ν)

def asU8 : Option UInt8 :=
  (readBetween 0 0x100 value).map fun value => UInt8.ofNat value.toNat

def asU16 : Option UInt16 :=
  (readBetween 0 0x10000 value).map fun value => UInt16.ofNat value.toNat

def asU32 : Option UInt32 :=
  (readBetween 0 0x100000000 value).map fun value => UInt32.ofNat value.toNat

def asU64 : Option UInt64 :=
  (readBetween 0 0x10000000000000000 value).map fun value => UInt64.ofNat value.toNat

def asI8 : Option Int8 := (readBetween (-0x80) 0x80 value).map Int8.ofInt

def asI16 : Option Int16 := (readBetween (-0x8000) 0x8000 value).map Int16.ofInt

def asString : Value ν → Option String
  | .string value => some value
  | _ => none

def asArray (read : Value ν → Option α) : Value ν → Option (List α)
  | .array items => items.mapM read
  | _ => none

@[simp] theorem asU8_writeU8 (value : UInt8) : asU8 (writeU8 value : Value ν) = some value := by
  have small : (value.toNat : Int) < 0x100 := by
    have bounded := value.toNat_lt
    omega
  rw [asU8, writeU8, readBetween_integer (Int.natCast_nonneg _) small]
  simp

@[simp] theorem asU16_writeU16 (value : UInt16) :
    asU16 (writeU16 value : Value ν) = some value := by
  have small : (value.toNat : Int) < 0x10000 := by
    have bounded := value.toNat_lt
    omega
  rw [asU16, writeU16, readBetween_integer (Int.natCast_nonneg _) small]
  simp

@[simp] theorem asU32_writeU32 (value : UInt32) :
    asU32 (writeU32 value : Value ν) = some value := by
  have small : (value.toNat : Int) < 0x100000000 := by
    have bounded := value.toNat_lt
    omega
  rw [asU32, writeU32, readBetween_integer (Int.natCast_nonneg _) small]
  simp

@[simp] theorem asU64_writeU64 (value : UInt64) :
    asU64 (writeU64 value : Value ν) = some value := by
  have small : (value.toNat : Int) < 0x10000000000000000 := by
    have bounded := value.toNat_lt
    omega
  rw [asU64, writeU64, readBetween_integer (Int.natCast_nonneg _) small]
  simp

@[simp] theorem asI8_writeI8 (value : Int8) : asI8 (writeI8 value : Value ν) = some value := by
  have above : -0x80 ≤ value.toInt := value.le_toInt
  have below : value.toInt < 0x80 := value.toInt_lt
  rw [asI8, writeI8, readBetween_integer above below]
  simp

@[simp] theorem asI16_writeI16 (value : Int16) : asI16 (writeI16 value : Value ν) = some value := by
  have above : -0x8000 ≤ value.toInt := value.le_toInt
  have below : value.toInt < 0x8000 := value.toInt_lt
  rw [asI16, writeI16, readBetween_integer above below]
  simp

@[simp] theorem asString_string (value : String) :
    asString (.string value : Value ν) = some value := rfl

variable {read : Value ν → Option α} {write : α → Value ν} {names : List String} {name : String}
  {members : Members ν} {result : α}

/-- A list is read back element by element. -/
theorem asArray_map {items : List α} (reads : ∀ item ∈ items, read (write item) = some item) :
    asArray read (.array (items.map write)) = some items := by
  rw [asArray]
  induction items with
  | nil => rfl
  | cons item later ih =>
    obtain ⟨here, there⟩ := List.forall_mem_cons.mp reads
    rw [List.map_cons, List.mapM_cons, here, ih there]
    rfl

/-! ## Records -/

def field (name : String) (value : Value ν) : Members ν := [(name, value)]

/-- A member that is left out if it has no value. -/
def optionalField (name : String) (value : Option (Value ν)) : Members ν :=
  value.toList.map fun value => (name, value)

/-- The object of these members. -/
def record (members : Members ν) : Value ν := .object (OrderedMap.ofEntries members).entries

/-- All members have one of these names. -/
def Named (names : List String) (members : Members ν) : Prop :=
  ∀ member ∈ members, member.1 ∈ names

@[simp] theorem named_append {before after : Members ν} :
    Named names (before ++ after) ↔ Named names before ∧ Named names after :=
  List.forall_mem_append

@[simp] theorem named_field {value : Value ν} : Named names (field name value) ↔ name ∈ names :=
  List.forall_mem_singleton

@[simp] theorem named_optionalField {value : Option (Value ν)} (known : name ∈ names) :
    Named names (optionalField name value) := by
  cases value with
  | none => exact List.forall_mem_nil _
  | some value => exact named_field.mpr known

/-- The members of a record with these names, which are all there are. -/
def readRecord (names : List String) : Value ν → Option (Members ν)
  | .object members =>
    if (members.map Prod.fst).Nodup ∧ ∀ member ∈ members, member.1 ∈ names then some members
    else none
  | .array items => if items.length = names.length then some (names.zip items) else none
  | _ => none

/-- A member that has to be there. -/
def readMember (read : Value ν → Option α) (member : Option (Value ν)) : Option α :=
  member.bind read

/-- A member that may be left out. -/
def readOptional (read : Value ν → Option α) : Option (Value ν) → Option (Option α)
  | none | some .null => some none
  | some value => (read value).map some

@[simp] theorem findKey_field (name other : String) (value : Value ν) (rest : Members ν) :
    findKey other (field name value ++ rest) =
      if name = other then some value else findKey other rest := by
  rw [field, List.singleton_append, findKey]

@[simp] theorem findKey_field_last (name other : String) (value : Value ν) :
    findKey other (field name value) = if name = other then some value else none := by
  rw [field, findKey, findKey]

@[simp] theorem findKey_optionalField (name other : String) (value : Option (Value ν))
    (rest : Members ν) :
    findKey other (optionalField name value ++ rest) =
      if name = other then value.or (findKey other rest) else findKey other rest := by
  cases value with
  | none => simp [optionalField]
  | some value => rfl

@[simp] theorem findKey_optionalField_last (name other : String) (value : Option (Value ν)) :
    findKey other (optionalField name value) = if name = other then value else none := by
  cases value with
  | none => simp [optionalField, findKey]
  | some value => rfl

@[simp] theorem findKey_nil (name : String) : findKey name ([] : Members ν) = none := rfl

@[simp] theorem readMember_some (read : Value ν → Option α) (value : Value ν) :
    readMember read (some value) = read value := by
  rw [readMember, Option.bind_some]

theorem readOptional_map {value : Option α}
    (reads : ∀ present, value = some present → read (write present) = some present)
    (unread : read .null = none) : readOptional read (value.map write) = some value := by
  cases value with
  | none => rfl
  | some present =>
    have here := reads present rfl
    rw [Option.map_some]
    generalize write present = value at here
    cases value with
    | null =>
      rw [unread] at here
      cases here
    | _ => simp [readOptional, here]

@[simp] theorem readOptional_string (value : Option String) :
    readOptional asString (value.map .string : Option (Value ν)) = some value :=
  readOptional_map (fun _ _ => rfl) rfl

@[simp] theorem readOptional_writeU32 (value : Option UInt32) :
    readOptional asU32 (value.map writeU32 : Option (Value ν)) = some value :=
  readOptional_map (fun present _ => asU32_writeU32 present) rfl

theorem nodup_names (map : OrderedMap String (Value ν)) : (map.entries.map Prod.fst).Nodup :=
  List.pairwise_map.mpr (map.sorted.imp fun less => ne_of_lt less)

/-- What was read of an object has the members of its map. -/
theorem readRecord_object {map : OrderedMap String (Value ν)}
    (known : ∀ member ∈ map.entries, member.1 ∈ names) :
    readRecord names (.object map.entries) = some map.entries :=
  if_pos ⟨nodup_names map, known⟩

/-- A record is read back with all its members: what comes next may look them up. -/
theorem readRecord_record {next : Members ν → Option α} (known : Named names members)
    (reads : ∀ found, (∀ name, findKey name found = findKey name members) →
      next found = some result) :
    (readRecord names (record members) >>= next) = some result := by
  have read : readRecord names (record members) = some (OrderedMap.ofEntries members).entries :=
    readRecord_object fun member inside => known member (OrderedMap.mem_ofEntries inside)
  rw [read]
  exact reads _ (OrderedMap.get?_ofEntries members)

/-! ## Tagged sums -/

/-- A variant: its name under the tag, and its members. -/
def tagged (tag name : String) (members : Members ν) : Value ν :=
  record ((tag, .string name) :: members)

/-- The name of the variant and what else there is. -/
def readTagged (tag : String) : Value ν → Option (String × Value ν)
  | .object members =>
    match findKey tag members with
    | some (.string name) => some (name, .object (members.filter (·.1 ≠ tag)))
    | _ => none
  | .array (.string name :: items) => some (name, .array items)
  | _ => none

/-- A variant is read back with its name and all its members. -/
theorem readTagged_tagged {tag : String} (names : List String)
    {next : String × Value ν → Option α}
    (reads : ∀ content found, readRecord names content = some found →
      (∀ other, findKey other found = findKey other members) →
      next (name, content) = some result)
    (known : Named names members := by simp) (fresh : tag ∉ names := by decide) :
    (readTagged tag (tagged tag name members) >>= next) = some result := by
  have looked := OrderedMap.get?_ofEntries ((tag, .string name) :: members)
  have here : findKey tag (OrderedMap.ofEntries ((tag, Value.string name) :: members)).entries =
      some (.string name) := (looked tag).trans (if_pos rfl)
  have variant : readTagged tag (tagged tag name members) = some (name,
      .object ((OrderedMap.ofEntries ((tag, .string name) :: members)).erase tag).entries) := by
    simp only [readTagged, tagged, record, here]
    rfl
  rw [variant]
  refine reads _ _ (readRecord_object ?_) ?_
  · intro member inside
    obtain ⟨listed, other⟩ := List.mem_filter.mp inside
    rcases List.mem_cons.mp (OrderedMap.mem_ofEntries listed) with rfl | listed
    · simp at other
    · exact known member listed
  · intro other
    refine (OrderedMap.get?_erase _ tag other).trans ?_
    by_cases same : other = tag
    · have absent : findKey tag members = none := by
        refine findKey_eq_none.mpr fun member inside equal => fresh ?_
        rw [← equal]
        exact known member inside
      rw [if_pos same, same, absent]
    · rw [if_neg same, looked, findKey, if_neg (Ne.symm same)]

@[simp] theorem readTagged_unit (tag name : String) :
    readTagged tag (tagged tag name [] : Value ν) = some (name, .object []) := by
  simp [readTagged, tagged, record, OrderedMap.ofEntries, OrderedMap.insert, OrderedMap.empty,
    OrderedMap.insertEntry, findKey]

/-- The name of a variant without members. -/
def readVariant : Value ν → Option String
  | .string name | .object [(name, .null)] => some name
  | _ => none

end Meshquill.Serde
