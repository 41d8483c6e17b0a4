import Mathlib.Data.List.Basic
import Mathlib.Order.Lattice

/-!
# Maps in the order of their keys

A finite map as the list of its entries, which is kept strictly sorted by key. So a key has one
entry, and two maps with the same entries are equal.

Nothing here names a particular program.
-/
namespace Meshquill

variable {κ α : Type} [LinearOrder κ]

/-- The value of the first entry with the key. -/
def findKey (key : κ) : List (κ × α) → Option α
  | [] => none
  | first :: rest => if first.1 = key then some first.2 else findKey key rest

theorem findKey_map {β : Type} (change : α → β) (key : κ) (entries : List (κ × α)) :
    findKey key (entries.map fun entry => (entry.1, change entry.2)) =
      (findKey key entries).map change := by
  induction entries with
  | nil => rfl
  | cons first rest ih =>
    simp only [List.map_cons, findKey, ih]
    split_ifs <;> rfl

theorem findKey_eq_none {key : κ} {entries : List (κ × α)} :
    findKey key entries = none ↔ ∀ entry ∈ entries, entry.1 ≠ key := by
  induction entries with
  | nil => simp [findKey]
  | cons first rest ih =>
    by_cases here : first.1 = key
    · simp [findKey, here]
    · simp [findKey, here, ih]

theorem mem_of_findKey {key : κ} {value : α} {entries : List (κ × α)}
    (found : findKey key entries = some value) : (key, value) ∈ entries := by
  induction entries with
  | nil => cases found
  | cons first rest ih =>
    rw [findKey] at found
    split_ifs at found with here
    · cases found
      exact here ▸ List.mem_cons_self
    · exact List.mem_cons_of_mem _ (ih found)

/-- A map whose entries are listed in the order of their keys. -/
structure OrderedMap (κ α : Type) [LinearOrder κ] where
  entries : List (κ × α)
  sorted : entries.Pairwise fun first second => first.1 < second.1

instance [DecidableEq α] : DecidableEq (OrderedMap κ α) := fun first second =>
  if same : first.entries = second.entries then
    isTrue (by cases first; cases second; cases same; rfl)
  else isFalse fun equal => same (equal ▸ rfl)

namespace OrderedMap

/-- The value of a key. -/
def get? (map : OrderedMap κ α) (key : κ) : Option α := findKey key map.entries

def contains (map : OrderedMap κ α) (key : κ) : Bool := (map.get? key).isSome

def firstKey? (map : OrderedMap κ α) : Option κ := map.entries.head?.map Prod.fst

def empty : OrderedMap κ α := ⟨[], List.Pairwise.nil⟩

/-- Enter a value where its key belongs. -/
def insertEntry (key : κ) (value : α) : List (κ × α) → List (κ × α)
  | [] => [(key, value)]
  | first :: rest =>
    if key < first.1 then (key, value) :: first :: rest
    else if key = first.1 then (key, value) :: rest
    else first :: insertEntry key value rest

theorem mem_insertEntry {key : κ} {value : α} {entry : κ × α} {entries : List (κ × α)}
    (inside : entry ∈ insertEntry key value entries) : entry = (key, value) ∨ entry ∈ entries := by
  induction entries with
  | nil => exact .inl (List.mem_singleton.mp inside)
  | cons first rest ih =>
    rw [insertEntry] at inside
    split_ifs at inside
    · exact List.mem_cons.mp inside
    · exact (List.mem_cons.mp inside).imp_right (List.mem_cons_of_mem _)
    · rcases List.mem_cons.mp inside with rfl | inside
      · exact .inr List.mem_cons_self
      · exact (ih inside).imp_right (List.mem_cons_of_mem _)

theorem sorted_insertEntry (key : κ) (value : α) {entries : List (κ × α)}
    (sorted : entries.Pairwise fun first second => first.1 < second.1) :
    (insertEntry key value entries).Pairwise fun first second => first.1 < second.1 := by
  induction entries with
  | nil => exact List.pairwise_singleton _ _
  | cons first rest ih =>
    obtain ⟨above, tail⟩ := List.pairwise_cons.mp sorted
    rw [insertEntry]
    split_ifs with less same
    · refine List.pairwise_cons.mpr ⟨fun entry inside => ?_, sorted⟩
      rcases List.mem_cons.mp inside with rfl | inside
      · exact less
      · exact less.trans (above entry inside)
    · exact List.pairwise_cons.mpr ⟨fun entry inside => same ▸ above entry inside, tail⟩
    · refine List.pairwise_cons.mpr ⟨fun entry inside => ?_, ih tail⟩
      rcases mem_insertEntry inside with rfl | inside
      · exact lt_of_le_of_ne (not_lt.mp less) (Ne.symm same)
      · exact above entry inside

def insert (map : OrderedMap κ α) (key : κ) (value : α) : OrderedMap κ α :=
  ⟨insertEntry key value map.entries, sorted_insertEntry key value map.sorted⟩

def erase (map : OrderedMap κ α) (key : κ) : OrderedMap κ α :=
  ⟨map.entries.filter (·.1 ≠ key), map.sorted.filter _⟩

/-- The map of a list of entries with different keys. -/
def ofEntries (entries : List (κ × α)) : OrderedMap κ α :=
  entries.foldr (fun entry map => map.insert entry.1 entry.2) empty

section Lookup

variable {map : OrderedMap κ α} {key other : κ} {value : α} {entries : List (κ × α)}

theorem get?_empty : (empty : OrderedMap κ α).get? key = none := rfl

theorem findKey_insertEntry (key other : κ) (value : α) (entries : List (κ × α)) :
    findKey other (insertEntry key value entries) =
      if other = key then some value else findKey other entries := by
  induction entries with
  | nil =>
    simp only [insertEntry, findKey]
    exact if_congr eq_comm rfl rfl
  | cons first rest ih =>
    by_cases here : other = key
    · subst here
      rw [if_pos rfl, insertEntry]
      split_ifs with less same
      · exact if_pos rfl
      · exact if_pos rfl
      · rw [findKey, if_neg (Ne.symm same), ih, if_pos rfl]
    · rw [if_neg here] at ih ⊢
      rw [insertEntry]
      split_ifs with less same
      · rw [findKey, if_neg (Ne.symm here)]
      · rw [findKey, if_neg (Ne.symm here), findKey, if_neg (same ▸ Ne.symm here)]
      · rw [findKey, ih, findKey]

theorem get?_insert (map : OrderedMap κ α) (key other : κ) (value : α) :
    (map.insert key value).get? other = if other = key then some value else map.get? other :=
  findKey_insertEntry key other value map.entries

theorem get?_erase (map : OrderedMap κ α) (key other : κ) :
    (map.erase key).get? other = if other = key then none else map.get? other := by
  change findKey other (map.entries.filter (·.1 ≠ key)) = if _ then _ else findKey other map.entries
  induction map.entries with
  | nil => simp [findKey]
  | cons first rest ih =>
    by_cases dropped : first.1 = key
    · rw [List.filter_cons_of_neg (by simp [dropped]), ih]
      split_ifs with here
      · rfl
      · rw [findKey, if_neg (dropped ▸ Ne.symm here)]
    · rw [List.filter_cons_of_pos (by simp [dropped]), findKey, findKey, ih]
      split_ifs with here
      · subst here
        exact absurd ‹_› dropped
      · rfl
      · rfl
      · rfl

theorem get?_ofEntries (entries : List (κ × α)) (key : κ) :
    (ofEntries entries).get? key = findKey key entries := by
  induction entries with
  | nil => rfl
  | cons first rest ih =>
    rw [ofEntries, List.foldr_cons, get?_insert, findKey]
    rw [ofEntries] at ih
    rw [ih]
    exact if_congr eq_comm rfl rfl

theorem mem_ofEntries {entry : κ × α} (inside : entry ∈ (ofEntries entries).entries) :
    entry ∈ entries := by
  induction entries with
  | nil => cases inside
  | cons first rest ih =>
    rcases mem_insertEntry inside with rfl | inside
    · exact List.mem_cons_self
    · exact List.mem_cons_of_mem _ (ih inside)

theorem findKey_of_mem (sorted : entries.Pairwise fun first second => first.1 < second.1)
    (inside : (key, value) ∈ entries) : findKey key entries = some value := by
  induction entries with
  | nil => cases inside
  | cons first rest ih =>
    obtain ⟨above, tail⟩ := List.pairwise_cons.mp sorted
    rw [findKey]
    rcases List.mem_cons.mp inside with here | inside
    · rw [← here]
      exact if_pos rfl
    · rw [if_neg (ne_of_lt (above _ inside)), ih tail inside]

/-- A key has the value that it is listed with. -/
theorem get?_eq_some_iff : map.get? key = some value ↔ (key, value) ∈ map.entries :=
  ⟨mem_of_findKey, findKey_of_mem map.sorted⟩

theorem contains_of_firstKey? (first : map.firstKey? = some key) :
    ∃ value, (key, value) ∈ map.entries := by
  obtain ⟨entry, head, rfl⟩ := Option.map_eq_some_iff.mp first
  exact ⟨entry.2, List.mem_of_head? head⟩

end Lookup

end OrderedMap

end Meshquill
