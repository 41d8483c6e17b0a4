import Mathlib.Data.Finmap

/-!
# Keyed maps with a first-in first-out bound

A finite map together with the queue of its keys in order of insertion. Remembering a
key forgets its earlier entry, evicts from the front of the queue until there is room,
and appends. The two parts are updated separately, so that they agree is an invariant
(`WellFormed`) and not a property of the type.

`Held` follows one entry: the keys that were remembered after it and are still tracked bound how
close it is to eviction. `Held.remember` is the only rule that uses the capacity.

Nothing here names a particular program.
-/
namespace Meshquill

structure FifoMap (κ α : Type) where
  map : Finmap (fun _ : κ => α)
  order : List κ

namespace FifoMap

variable {κ α : Type} [DecidableEq κ]

def empty : FifoMap κ α := ⟨∅, []⟩

/-- Forget one key. -/
def discard (key : κ) (tracked : FifoMap κ α) : FifoMap κ α :=
  ⟨tracked.map.erase key, tracked.order.filter (· ≠ key)⟩

/-- Forget the oldest keys while the queue is not shorter than the capacity. -/
def evict (capacity : Nat) : List κ → Finmap (fun _ : κ => α) → FifoMap κ α
  | [], map => ⟨map, []⟩
  | oldest :: rest, map =>
    if capacity ≤ (oldest :: rest).length then evict capacity rest (map.erase oldest)
    else ⟨map, oldest :: rest⟩

/-- Append to the queue and insert into the map. -/
def push (key : κ) (value : α) (tracked : FifoMap κ α) : FifoMap κ α :=
  ⟨tracked.map.insert key value, tracked.order ++ [key]⟩

/-- Track a key as the newest, within the capacity. -/
def remember (capacity : Nat) (key : κ) (value : α) (tracked : FifoMap κ α) : FifoMap κ α :=
  let others := tracked.discard key
  (evict capacity others.order others.map).push key value

/-- Remove and return the entry of a key, if it has one. -/
def take (key : κ) (tracked : FifoMap κ α) : Option α × FifoMap κ α :=
  match tracked.map.lookup key with
  | some value => (some value, tracked.discard key)
  | none => (none, tracked)

/-! ## Lookups -/

@[simp] theorem lookup_empty (key : κ) : (empty : FifoMap κ α).map.lookup key = none :=
  Finmap.lookup_empty key

@[simp] theorem lookup_discard_self (key : κ) (tracked : FifoMap κ α) :
    (tracked.discard key).map.lookup key = none :=
  Finmap.lookup_erase key tracked.map

@[simp] theorem discard_empty (key : κ) : (empty : FifoMap κ α).discard key = empty := by
  have erased : (∅ : Finmap (fun _ : κ => α)).erase key = ∅ :=
    Finmap.ext_lookup fun other => by
      by_cases same : other = key
      · subst same
        rw [Finmap.lookup_erase, Finmap.lookup_empty]
      · rw [Finmap.lookup_erase_ne same]
  simp [discard, empty, erased]

variable {key other : κ} {value found : α} {tracked : FifoMap κ α} {capacity : Nat} {newer : List κ}

theorem lookup_discard_of_ne (different : key ≠ other) (tracked : FifoMap κ α) :
    (tracked.discard other).map.lookup key = tracked.map.lookup key :=
  Finmap.lookup_erase_ne different

/-- Whatever is tracked after forgetting a key was tracked before. -/
theorem lookup_of_discard (found : (tracked.discard other).map.lookup key = some value) :
    tracked.map.lookup key = some value := by
  by_cases same : key = other
  · rw [same, lookup_discard_self] at found
    cases found
  · rwa [lookup_discard_of_ne same] at found

@[simp] theorem lookup_push_self (key : κ) (value : α) (tracked : FifoMap κ α) :
    (tracked.push key value).map.lookup key = some value :=
  Finmap.lookup_insert tracked.map

theorem lookup_push_of_ne (different : key ≠ other) (value : α) (tracked : FifoMap κ α) :
    (tracked.push other value).map.lookup key = tracked.map.lookup key :=
  Finmap.lookup_insert_of_ne tracked.map different

@[simp] theorem lookup_remember_self (capacity : Nat) (key : κ) (value : α)
    (tracked : FifoMap κ α) :
    (tracked.remember capacity key value).map.lookup key = some value :=
  lookup_push_self key value _

/-- Eviction only removes entries. -/
theorem lookup_evict (capacity : Nat) (order : List κ) (map : Finmap (fun _ : κ => α))
    (found : (evict capacity order map).map.lookup key = some value) :
    map.lookup key = some value := by
  induction order generalizing map with
  | nil => exact found
  | cons oldest rest ih =>
    unfold evict at found
    split at found
    · have earlier := ih _ found
      by_cases same : key = oldest
      · subst same
        simp [Finmap.lookup_erase] at earlier
      · rwa [Finmap.lookup_erase_ne same] at earlier
    · exact found

/-- Whatever is tracked after remembering a key is that key's new entry or an old one. -/
theorem lookup_remember
    (tracks : (tracked.remember capacity other value).map.lookup key = some found) :
    (key = other ∧ found = value) ∨
      (key ≠ other ∧ tracked.map.lookup key = some found) := by
  by_cases same : key = other
  · subst same
    rw [lookup_remember_self] at tracks
    exact .inl ⟨rfl, (Option.some.inj tracks).symm⟩
  · refine .inr ⟨same, ?_⟩
    unfold remember at tracks
    rw [lookup_push_of_ne same] at tracks
    have kept := lookup_evict _ _ _ tracks
    rwa [lookup_discard_of_ne same] at kept

theorem mem_discard : key ∈ (tracked.discard other).map ↔ key ≠ other ∧ key ∈ tracked.map :=
  Finmap.mem_erase

theorem mem_of_mem_remember (inside : key ∈ (tracked.remember capacity other value).map) :
    key = other ∨ (key ≠ other ∧ key ∈ tracked.map) := by
  obtain ⟨found, tracks⟩ := Finmap.mem_iff.mp inside
  rcases lookup_remember tracks with ⟨same, -⟩ | ⟨different, earlier⟩
  · exact .inl same
  · exact .inr ⟨different, Finmap.mem_iff.mpr ⟨found, earlier⟩⟩

theorem take_of_lookup (found : tracked.map.lookup key = some value) :
    tracked.take key = (some value, tracked.discard key) := by
  simp [take, found]

theorem take_of_not_found (missing : tracked.map.lookup key = none) :
    tracked.take key = (none, tracked) := by
  simp [take, missing]

/-! ## The map and its queue agree -/

/-- The queue lists exactly the tracked keys, once each and within the capacity. -/
structure WellFormed (capacity : Nat) (tracked : FifoMap κ α) : Prop where
  agree : ∀ key, key ∈ tracked.map ↔ key ∈ tracked.order
  nodup : tracked.order.Nodup
  bounded : tracked.order.length ≤ capacity

omit [DecidableEq κ] in
theorem wellFormed_empty (capacity : Nat) : WellFormed capacity (empty : FifoMap κ α) where
  agree key := by simp [empty, Finmap.notMem_empty]
  nodup := List.nodup_nil
  bounded := Nat.zero_le capacity

theorem WellFormed.discard (wellFormed : tracked.WellFormed capacity) (key : κ) :
    (tracked.discard key).WellFormed capacity where
  agree other := by
    simp [FifoMap.discard, Finmap.mem_erase, wellFormed.agree, and_comm]
  nodup := wellFormed.nodup.filter _
  bounded := (List.length_filter_le _ _).trans wellFormed.bounded

/-- Evicting keeps agreement and leaves room for one more key. -/
theorem evict_room (positive : 0 < capacity) (order : List κ) (map : Finmap (fun _ : κ => α))
    (agree : ∀ key, key ∈ map ↔ key ∈ order) (nodup : order.Nodup) :
    (evict capacity order map).WellFormed (capacity - 1) ∧
      (evict capacity order map).order ⊆ order := by
  induction order generalizing map with
  | nil => exact ⟨⟨agree, nodup, Nat.zero_le _⟩, List.Subset.refl _⟩
  | cons oldest rest ih =>
    obtain ⟨fresh, nodupRest⟩ := List.nodup_cons.mp nodup
    unfold evict
    split
    · have agreeRest : ∀ key, key ∈ map.erase oldest ↔ key ∈ rest := by
        intro key
        rw [Finmap.mem_erase, agree, List.mem_cons]
        constructor
        · rintro ⟨different, same | inside⟩
          · exact absurd same different
          · exact inside
        · intro inside
          exact ⟨fun same => fresh (same ▸ inside), .inr inside⟩
      obtain ⟨wellFormed, included⟩ := ih _ agreeRest nodupRest
      exact ⟨wellFormed, List.subset_cons_of_subset _ included⟩
    · rename_i room
      exact ⟨⟨agree, nodup, by simp only [List.length_cons] at room ⊢; omega⟩, List.Subset.refl _⟩

theorem WellFormed.remember (positive : 0 < capacity) (wellFormed : tracked.WellFormed capacity)
    (key : κ) (value : α) :
    (tracked.remember capacity key value).WellFormed capacity := by
  have others := wellFormed.discard key
  obtain ⟨room, included⟩ := evict_room positive (tracked.discard key).order
    (tracked.discard key).map others.agree others.nodup
  have fresh : key ∉ (evict capacity (tracked.discard key).order
      (tracked.discard key).map).order := by
    intro inside
    simpa [FifoMap.discard] using included inside
  refine ⟨?_, ?_, ?_⟩
  · intro other
    simp [FifoMap.remember, push, Finmap.mem_insert, room.agree, or_comm]
  · exact room.nodup.append (List.nodup_singleton key) (List.disjoint_singleton.mpr fresh)
  · have short := room.bounded
    simp only [FifoMap.remember, push, List.length_append, List.length_singleton]
    omega

/-! ## Following one entry -/

/-- The key is tracked with this value, and only keys of `newer` stand behind it. -/
def Held (key : κ) (value : α) (newer : List κ) (tracked : FifoMap κ α) : Prop :=
  tracked.map.lookup key = some value ∧
    ∃ older later, tracked.order = older ++ key :: later ∧ later ⊆ newer

/-- The keys of `newer` that are still tracked, and then this one. -/
def behind (newer : List κ) (key : κ) (tracked : FifoMap κ α) : List κ :=
  (newer.filter fun other => other ≠ key ∧ (tracked.map.lookup other).isSome) ++ [key]

theorem held_remember_self (capacity : Nat) (key : κ) (value : α) (tracked : FifoMap κ α) :
    (tracked.remember capacity key value).Held key value [] :=
  ⟨lookup_remember_self .., _, [], rfl, List.Subset.refl []⟩

theorem Held.discard (held : tracked.Held key value newer) (different : key ≠ other) :
    (tracked.discard other).Held key value newer := by
  obtain ⟨found, older, later, split, inside⟩ := held
  refine ⟨(lookup_discard_of_ne different tracked).trans found,
    older.filter (· ≠ other), later.filter (· ≠ other), ?_,
    List.Subset.trans (List.filter_subset_self later) inside⟩
  simp [FifoMap.discard, split, different]

/-- Eviction stops before a key that has fewer than `capacity - 1` keys behind it. -/
theorem evict_keeps (older later : List κ) (map : Finmap (fun _ : κ => α))
    (nodup : (older ++ key :: later).Nodup) (few : later.length + 1 < capacity)
    (found : map.lookup key = some value) :
    (evict capacity (older ++ key :: later) map).map.lookup key = some value ∧
      ∃ kept, (evict capacity (older ++ key :: later) map).order = kept ++ key :: later := by
  induction older generalizing map with
  | nil =>
    have room : ¬ capacity ≤ (key :: later).length := by
      simp only [List.length_cons]
      omega
    simp only [List.nil_append, evict, room, if_false]
    exact ⟨found, [], rfl⟩
  | cons oldest rest ih =>
    obtain ⟨fresh, nodupRest⟩ := List.nodup_cons.mp nodup
    have different : key ≠ oldest := by
      rintro rfl
      exact fresh (by simp)
    simp only [List.cons_append, evict]
    split
    · exact ih _ nodupRest ((Finmap.lookup_erase_ne different).trans found)
    · exact ⟨found, oldest :: rest, rfl⟩

/-- From a queue within the capacity, eviction removes at most the oldest key. -/
theorem tail_subset_evict {order : List κ} (map : Finmap (fun _ : κ => α))
    (bounded : order.length ≤ capacity) : order.tail ⊆ (evict capacity order map).order := by
  rcases order with _ | ⟨oldest, rest⟩
  · exact List.nil_subset _
  · have room : ¬ capacity ≤ rest.length := Nat.not_le.mpr bounded
    unfold evict
    split
    · cases rest with
      | nil => exact List.nil_subset _
      | cons next rest =>
        rw [evict, if_neg room]
        exact List.Subset.refl _
    · exact List.subset_cons_self ..

/-- Remembering another key keeps a held entry, unless with it there are as many keys behind the
entry as the capacity allows: the keys behind outlive the entry, so each of them still counts. -/
theorem Held.remember (held : tracked.Held key found newer) (different : key ≠ other)
    (wellFormed : tracked.WellFormed capacity)
    (few : ((tracked.remember capacity other value).behind newer other).length < capacity) :
    (tracked.remember capacity other value).Held key found
      ((tracked.remember capacity other value).behind newer other) := by
  obtain ⟨lookup, older, later, split, inside⟩ := held.discard different
  have others := wellFormed.discard other
  have nodup : (older ++ key :: later).Nodup := split ▸ others.nodup
  have next := wellFormed.remember (Nat.zero_lt_of_lt few) other value
  have outlive : later ⊆ (evict capacity (tracked.discard other).order
      (tracked.discard other).map).order := by
    refine List.Subset.trans ?_ (tail_subset_evict _ others.bounded)
    rw [split]
    cases older with
    | nil => exact List.Subset.refl later
    | cons oldest rest => exact fun key inside => by simp [inside]
  have counted : later ⊆ newer.filter fun key => key ≠ other ∧
      ((tracked.remember capacity other value).map.lookup key).isSome := by
    intro key behind
    have tracks : key ∈ (tracked.remember capacity other value).map :=
      (next.agree key).mpr (List.mem_append_left _ (outlive behind))
    have distinct : key ≠ other := by
      have listed : key ∈ (tracked.discard other).order := by simp [split, behind]
      simpa using (List.mem_filter.mp listed).2
    simpa [distinct, inside behind, Finmap.lookup_isSome] using tracks
  have fits := (nodup.of_append_right.of_cons.subperm counted).length_le
  have room : later.length + 1 < capacity := by
    simp only [behind, List.length_append, List.length_singleton] at few
    omega
  obtain ⟨kept, front, order⟩ := evict_keeps older later (tracked.discard other).map
    nodup room lookup
  rw [← split] at kept order
  refine ⟨(lookup_push_of_ne different value _).trans kept, front, later ++ [other], ?_,
    List.append_subset_of_subset_of_subset (List.subset_append_of_subset_left _ counted)
      (List.subset_append_right ..)⟩
  simp [FifoMap.remember, push, order]

end FifoMap

end Meshquill
