import Meshquill.Newest
import Mathlib.Data.List.Induction
import Mathlib.Data.List.Sort
import Mathlib.Tactic.Tauto

/-!
# Keeping the newest versions

A log of entries, oldest first, in which an entry takes the place of the earlier ones with its
name. `Retains` states what is to be kept of it: the last versions of the names with the highest
ranks, as many as there is room for, in the order of their ranks. Only one list meets this
(`Retains.unique`), and `retain` computes it.

What is kept stands for the log as long as an entry and its later versions have one rank.
Appending to it or to the log makes no difference (`retain_append`), and merging it once more
with the older part of the log changes nothing (`retain_again`).

Nothing here names a particular program.
-/
namespace Meshquill

variable {α ι κ : Type}

/-! ## Versions -/

/-- The entry is the last one of the log with its name. -/
def Latest (name : α → ι) (log : List α) (entry : α) : Prop :=
  ∃ earlier later, log = earlier ++ entry :: later ∧ ∀ other ∈ later, name other ≠ name entry

section Latest

variable {name : α → ι} {log older newer : List α} {first entry other : α}

theorem Latest.mem (latest : Latest name log entry) : entry ∈ log := by
  obtain ⟨earlier, later, rfl, -⟩ := latest
  exact List.mem_append_right _ List.mem_cons_self

theorem latest_cons : Latest name (first :: log) entry ↔
    Latest name log entry ∨ (entry = first ∧ ∀ other ∈ log, name other ≠ name entry) := by
  constructor
  · rintro ⟨earlier, later, split, last⟩
    cases earlier with
    | nil =>
      obtain ⟨rfl, rfl⟩ := List.cons_eq_cons.mp split
      exact .inr ⟨rfl, last⟩
    | cons head earlier =>
      obtain ⟨-, rfl⟩ := List.cons_eq_cons.mp split
      exact .inl ⟨earlier, later, rfl, last⟩
  · rintro (⟨earlier, later, rfl, last⟩ | ⟨rfl, last⟩)
    · exact ⟨first :: earlier, later, rfl, last⟩
    · exact ⟨[], log, rfl, last⟩

theorem latest_append : Latest name (older ++ newer) entry ↔
    Latest name newer entry ∨
      (Latest name older entry ∧ ∀ other ∈ newer, name other ≠ name entry) := by
  induction older with
  | nil =>
    constructor
    · exact .inl
    · rintro (latest | ⟨⟨earlier, later, split, -⟩, -⟩)
      · exact latest
      · simp at split
  | cons first older ih =>
    rw [List.cons_append, latest_cons, latest_cons, ih]
    simp only [List.mem_append]
    constructor
    · rintro ((latest | ⟨latest, absent⟩) | ⟨same, absent⟩)
      · exact .inl latest
      · exact .inr ⟨.inl latest, absent⟩
      · exact .inr ⟨.inr ⟨same, fun other inside => absent other (.inl inside)⟩,
          fun other inside => absent other (.inr inside)⟩
    · rintro (latest | ⟨latest | ⟨same, absent⟩, newer⟩)
      · exact .inl (.inl latest)
      · exact .inl (.inr ⟨latest, newer⟩)
      · exact .inr ⟨same, fun other inside => inside.elim (absent other) (newer other)⟩

theorem latest_concat : Latest name (log ++ [other]) entry ↔
    entry = other ∨ (Latest name log entry ∧ name entry ≠ name other) := by
  rw [latest_append, latest_cons]
  constructor
  · rintro ((⟨earlier, later, split, -⟩ | ⟨same, -⟩) | ⟨latest, absent⟩)
    · simp at split
    · exact .inl same
    · exact .inr ⟨latest, (absent other (List.mem_singleton_self other)).symm⟩
  · rintro (same | ⟨latest, differs⟩)
    · exact .inl (.inr ⟨same, nofun⟩)
    · refine .inr ⟨latest, fun last inside => ?_⟩
      rw [List.mem_singleton.mp inside]
      exact differs.symm

/-- Neighbours with different names can change places. -/
theorem latest_swap {second : α} (differs : name first ≠ name second) :
    Latest name (older ++ first :: second :: newer) entry ↔
      Latest name (older ++ second :: first :: newer) entry := by
  have pair : Latest name (first :: second :: newer) entry ↔
      Latest name (second :: first :: newer) entry := by
    simp only [latest_cons, List.mem_cons, forall_eq_or_imp]
    constructor
    · rintro ((latest | ⟨rfl, absent⟩) | ⟨rfl, -, absent⟩)
      · exact .inl (.inl latest)
      · exact .inr ⟨rfl, differs, absent⟩
      · exact .inl (.inr ⟨rfl, absent⟩)
    · rintro ((latest | ⟨rfl, absent⟩) | ⟨rfl, -, absent⟩)
      · exact .inl (.inl latest)
      · exact .inr ⟨rfl, differs.symm, absent⟩
      · exact .inl (.inr ⟨rfl, absent⟩)
  rw [latest_append, latest_append, pair]
  simp only [List.mem_cons, forall_eq_or_imp]
  tauto

/-- Every name of the log has a last version. -/
theorem exists_latest (inside : entry ∈ log) :
    ∃ last, Latest name log last ∧ name last = name entry := by
  induction log generalizing entry with
  | nil => cases inside
  | cons first rest ih =>
    by_cases again : ∃ later ∈ rest, name later = name entry
    · obtain ⟨later, inside, same⟩ := again
      obtain ⟨last, latest, named⟩ := ih inside
      exact ⟨last, latest_cons.mpr (.inl latest), named.trans same⟩
    · push Not at again
      rcases List.mem_cons.mp inside with same | later
      · exact ⟨entry, latest_cons.mpr (.inr ⟨same, again⟩), rfl⟩
      · exact absurd rfl (again entry later)

/-- A name has one last version. -/
theorem Latest.eq_of_name (latest : Latest name log entry) (last : Latest name log other)
    (same : name entry = name other) : entry = other := by
  induction log with
  | nil => cases latest.mem
  | cons first rest ih =>
    rcases latest_cons.mp latest with within | ⟨atHead, absent⟩
    · rcases latest_cons.mp last with lastWithin | ⟨-, absent⟩
      · exact ih within lastWithin
      · exact absurd same (absent entry within.mem)
    · rcases latest_cons.mp last with lastWithin | ⟨lastAtHead, -⟩
      · exact absurd same.symm (absent other lastWithin.mem)
      · exact atHead.trans lastAtHead.symm

/-- In a list with distinct names every entry is the last with its name. -/
theorem latest_of_nodup (distinct : (log.map name).Nodup) (inside : entry ∈ log) :
    Latest name log entry := by
  obtain ⟨last, latest, same⟩ : ∃ last, Latest name log last ∧ name last = name entry :=
    exists_latest inside
  rwa [← List.inj_on_of_nodup_map distinct latest.mem inside same]

end Latest

/-! ## One entry for each name -/

section Collect

variable [DecidableEq ι] {name : α → ι} {log : List α} {entry other : α}

/-- Put an entry in the place of the one with its name, or at the end. -/
def put (name : α → ι) (entry : α) : List α → List α
  | [] => [entry]
  | first :: rest =>
    if name first = name entry then entry :: rest else first :: put name entry rest

/-- The entries of the log in a map keyed by name, where the later one wins. -/
def collect (name : α → ι) (log : List α) : List α :=
  log.foldl (fun entries entry => put name entry entries) []

theorem collect_concat (name : α → ι) (log : List α) (entry : α) :
    collect name (log ++ [entry]) = put name entry (collect name log) := by
  rw [collect, List.foldl_append]
  rfl

theorem put_of_new (absent : ∀ other ∈ log, name other ≠ name entry) :
    put name entry log = log ++ [entry] := by
  induction log with
  | nil => rfl
  | cons first rest ih =>
    have new : name first ≠ name entry := absent first List.mem_cons_self
    rw [put, if_neg new, List.cons_append]
    exact congrArg _ (ih fun other inside => absent other (List.mem_cons_of_mem _ inside))

/-- An entry takes the place of the one with its name. -/
theorem put_of_old (distinct : (log.map name).Nodup) (old : name entry ∈ log.map name) :
    put name entry log = log.map fun other => if name other = name entry then entry else other := by
  induction log with
  | nil => cases old
  | cons first rest ih =>
    rw [List.map_cons, List.nodup_cons] at distinct
    by_cases same : name first = name entry
    · have others : ∀ other ∈ rest, name other ≠ name entry := fun other inside clash =>
        distinct.1 (same ▸ clash ▸ List.mem_map_of_mem inside)
      rw [put, if_pos same, List.map_cons, if_pos same]
      congr 1
      conv_lhs => rw [← List.map_id rest]
      exact List.map_congr_left fun other inside => (if_neg (others other inside)).symm
    · have later : name entry ∈ rest.map name :=
        (List.mem_cons.mp old).resolve_left (Ne.symm same)
      rw [put, if_neg same, ih distinct.2 later, List.map_cons, if_neg same]

/-- The names do not change except that the new entry's name is among them. -/
theorem map_put (name : α → ι) (entry : α) (log : List α) :
    (put name entry log).map name =
      if name entry ∈ log.map name then log.map name else log.map name ++ [name entry] := by
  induction log with
  | nil => simp [put]
  | cons first rest ih =>
    by_cases same : name first = name entry
    · simp [put, same]
    · have differs : name entry ≠ name first := Ne.symm same
      rw [put, if_neg same, List.map_cons, ih, List.map_cons]
      by_cases inside : name entry ∈ rest.map name
      · rw [if_pos inside, if_pos (List.mem_cons_of_mem _ inside)]
      · rw [if_neg inside, if_neg (List.not_mem_cons_of_ne_of_not_mem differs inside)]
        rfl

theorem nodup_put (distinct : (log.map name).Nodup) (entry : α) :
    ((put name entry log).map name).Nodup := by
  rw [map_put]
  by_cases inside : name entry ∈ log.map name
  · rw [if_pos inside]
    exact distinct
  · rw [if_neg inside]
    exact List.nodup_append.mpr ⟨distinct, List.nodup_singleton _, fun _ old _ new same =>
      inside (List.mem_singleton.mp new ▸ same ▸ old)⟩

theorem mem_put (distinct : (log.map name).Nodup) : entry ∈ put name other log ↔
    entry = other ∨ (entry ∈ log ∧ name entry ≠ name other) := by
  induction log with
  | nil => simp [put]
  | cons first rest ih =>
    rw [List.map_cons, List.nodup_cons] at distinct
    by_cases same : name first = name other
    · rw [put, if_pos same, List.mem_cons]
      constructor
      · rintro (new | old)
        · exact .inl new
        · refine .inr ⟨List.mem_cons_of_mem _ old, fun clash => distinct.1 ?_⟩
          rw [same, ← clash]
          exact List.mem_map_of_mem old
      · rintro (new | ⟨old, differs⟩)
        · exact .inl new
        · rcases List.mem_cons.mp old with rfl | old
          · exact absurd same differs
          · exact .inr old
    · rw [put, if_neg same, List.mem_cons, ih distinct.2]
      constructor
      · rintro (rfl | new | ⟨old, differs⟩)
        · exact .inr ⟨List.mem_cons_self, same⟩
        · exact .inl new
        · exact .inr ⟨List.mem_cons_of_mem _ old, differs⟩
      · rintro (new | ⟨old, differs⟩)
        · exact .inr (.inl new)
        · rcases List.mem_cons.mp old with rfl | old
          · exact .inl rfl
          · exact .inr (.inr ⟨old, differs⟩)

theorem nodup_collect (name : α → ι) (log : List α) : ((collect name log).map name).Nodup := by
  induction log using List.reverseRecOn with
  | nil => exact List.nodup_nil
  | append_singleton log entry ih =>
    rw [collect_concat]
    exact nodup_put ih entry

/-- The map holds the last version of each name. -/
theorem mem_collect : entry ∈ collect name log ↔ Latest name log entry := by
  induction log using List.reverseRecOn with
  | nil =>
    constructor
    · exact nofun
    · intro latest
      exact latest.mem
  | append_singleton log other ih =>
    rw [collect_concat, mem_put (nodup_collect name log), ih, latest_concat]

/-- A list with one entry for each name is its own map. -/
theorem collect_of_nodup (distinct : (log.map name).Nodup) : collect name log = log := by
  induction log using List.reverseRecOn with
  | nil => rfl
  | append_singleton log entry ih =>
    rw [List.map_append, List.nodup_append] at distinct
    rw [collect_concat, ih distinct.1]
    refine put_of_new fun other inside same => ?_
    exact distinct.2.2 _ (List.mem_map_of_mem inside) _ (List.mem_singleton_self _) same

end Collect

/-! ## What is kept -/

variable [LinearOrder κ]

/-- The list holds the last versions of the names with the highest ranks. -/
structure Retains (name : α → ι) (rank : α → κ) (capacity : Nat) (log kept : List α) : Prop where
  sorted : kept.Pairwise (rank · < rank ·)
  latest : ∀ entry ∈ kept, Latest name log entry
  bounded : kept.length ≤ capacity
  highest : ∀ entry, Latest name log entry → entry ∉ kept →
    kept.length = capacity ∧ ∀ other ∈ kept, rank entry < rank other

/-- A later version of an entry has the rank of the entry. -/
def Steadfast (name : α → ι) (rank : α → κ) (older newer : List α) : Prop :=
  ∀ entry ∈ older, ∀ later ∈ newer, name entry = name later → rank entry = rank later

section Retains

variable {name : α → ι} {rank : α → κ} {capacity : Nat} {log older newer kept other : List α}

theorem nodup_ranks (sorted : kept.Pairwise (rank · < rank ·)) : (kept.map rank).Nodup :=
  (List.pairwise_map.mpr sorted).imp fun less => ne_of_lt less

section Kept

variable (retains : Retains name rank capacity log kept)

include retains

theorem Retains.nodup : (kept.map name).Nodup := by
  have separate : kept.Pairwise (rank · ≠ rank ·) := retains.sorted.imp fun less => ne_of_lt less
  refine List.pairwise_map.mpr (separate.imp_of_mem fun first second differs same => differs ?_)
  exact congrArg rank ((retains.latest _ first).eq_of_name (retains.latest _ second) same)

/-- If the log has enough versions ranked above a bound to take up the room, all that is kept is
ranked above it. -/
theorem Retains.above {ranks : List κ}
    (distinct : ranks.Nodup) (enough : ranks.length = capacity) {bound : κ}
    (versions : ∀ value ∈ ranks, bound < value ∧
      ∃ version, Latest name log version ∧ rank version = value) :
    kept.length = capacity ∧ ∀ entry ∈ kept, bound < rank entry := by
  constructor
  · by_contra room
    have allKept : ∀ value ∈ ranks, value ∈ kept.map rank := by
      intro value inside
      obtain ⟨-, version, latest, rfl⟩ := versions value inside
      by_cases held : version ∈ kept
      · exact List.mem_map_of_mem held
      · exact absurd (retains.highest version latest held).1 room
    have fits := (List.subperm_of_subset distinct allKept).length_le
    rw [enough, List.length_map] at fits
    exact room (le_antisymm retains.bounded fits)
  · intro entry inside
    by_contra below
    -- An entry at or below the bound would have to share the room with all those above it.
    have crowded : ∀ value ∈ rank entry :: ranks, value ∈ kept.map rank := by
      intro value member
      rcases List.mem_cons.mp member with rfl | member
      · exact List.mem_map_of_mem inside
      · obtain ⟨high, version, latest, rfl⟩ := versions value member
        by_cases held : version ∈ kept
        · exact List.mem_map_of_mem held
        · have low := (retains.highest version latest held).2 entry inside
          exact absurd (high.trans low) below
    have apart : (rank entry :: ranks).Nodup :=
      List.nodup_cons.mpr ⟨fun member => below (versions _ member).1, distinct⟩
    have fits := (List.subperm_of_subset apart crowded).length_le
    rw [List.length_cons, enough, List.length_map] at fits
    exact absurd retains.bounded (Nat.not_le.mpr fits)

theorem Retains.subset
    (again : Retains name rank capacity log other) : kept ⊆ other := by
  intro entry inside
  by_contra absent
  obtain ⟨full, above⟩ := again.highest entry (retains.latest entry inside) absent
  have ranked : ∀ value ∈ other.map rank, rank entry < value ∧
      ∃ version, Latest name log version ∧ rank version = value := by
    intro value member
    obtain ⟨version, held, rfl⟩ := List.mem_map.mp member
    exact ⟨above version held, version, again.latest version held, rfl⟩
  have enough : (other.map rank).length = capacity := (List.length_map _).trans full
  have low := (retains.above (nodup_ranks again.sorted) enough ranked).2 entry inside
  exact lt_irrefl _ low

/-- Only one list meets the description. -/
theorem Retains.unique
    (again : Retains name rank capacity log other) : kept = other := by
  have same : kept.Perm other := by
    refine (List.perm_ext_iff_of_nodup retains.nodup.of_map again.nodup.of_map).mpr fun entry => ?_
    exact ⟨fun inside => retains.subset again inside, fun inside => again.subset retains inside⟩
  exact same.eq_of_pairwise (fun first second _ _ less more => absurd less (lt_asymm more))
    retains.sorted again.sorted

end Kept

omit [LinearOrder κ] in
/-- An entry has a version of its own rank in the whole log. -/
theorem Steadfast.exists_version (steadfast : Steadfast name rank older newer)
    {entry : α} (latest : Latest name older entry) :
    ∃ version, Latest name (older ++ newer) version ∧ name version = name entry ∧
      rank version = rank entry := by
  obtain ⟨version, last, same⟩ :
      ∃ version, Latest name (older ++ newer) version ∧ name version = name entry :=
    exists_latest (List.mem_append_left _ latest.mem)
  refine ⟨version, last, same, ?_⟩
  rcases latest_append.mp last with later | ⟨unchanged, -⟩
  · exact (steadfast entry latest.mem version later.mem same.symm).symm
  · exact congrArg rank (unchanged.eq_of_name latest same)

/-- What is kept of the older part decides together with the newer part what is kept of both. -/
theorem Retains.append (retains : Retains name rank capacity older kept)
    (steadfast : Steadfast name rank older newer)
    (both : Retains name rank capacity (kept ++ newer) other) :
    Retains name rank capacity (older ++ newer) other where
  sorted := both.sorted
  bounded := both.bounded
  latest := by
    intro entry inside
    rcases latest_append.mp (both.latest entry inside) with latest | ⟨latest, absent⟩
    · exact latest_append.mpr (.inl latest)
    · exact latest_append.mpr (.inr ⟨retains.latest entry latest.mem, absent⟩)
  highest := by
    intro entry latest absent
    rcases latest_append.mp latest with latest | ⟨latest, unchanged⟩
    · exact both.highest entry (latest_append.mpr (.inl latest)) absent
    · by_cases inside : entry ∈ kept
      · have still := latest_of_nodup retains.nodup inside
        exact both.highest entry (latest_append.mpr (.inr ⟨still, unchanged⟩)) absent
      · -- The entry was dropped before: those that outranked it then still do.
        obtain ⟨full, above⟩ := retains.highest entry latest inside
        have within : Steadfast name rank kept newer := fun held member =>
          steadfast held (retains.latest held member).mem
        refine both.above (nodup_ranks retains.sorted) ((List.length_map _).trans full) ?_
        intro value member
        obtain ⟨held, holds, rfl⟩ := List.mem_map.mp member
        obtain ⟨version, last, -, same⟩ :=
          within.exists_version (latest_of_nodup retains.nodup holds)
        exact ⟨above held holds, version, last, same⟩

/-- Merging what is kept with the older part again keeps the same. -/
theorem Retains.again (retains : Retains name rank capacity (older ++ newer) kept)
    (steadfast : Steadfast name rank older newer) :
    Retains name rank capacity (older ++ kept) kept where
  sorted := retains.sorted
  bounded := retains.bounded
  latest := by
    intro entry inside
    exact latest_append.mpr (.inl (latest_of_nodup retains.nodup inside))
  highest := by
    intro entry latest absent
    rcases latest_append.mp latest with latest | ⟨latest, unnamed⟩
    · exact absurd latest.mem absent
    · obtain ⟨version, last, same, rank⟩ := steadfast.exists_version latest
      have dropped : version ∉ kept := fun inside => unnamed version inside same
      rw [← rank]
      exact retains.highest version last dropped

/-- Only the last versions matter. -/
theorem Retains.congr (retains : Retains name rank capacity log kept)
    (same : ∀ entry, Latest name older entry ↔ Latest name log entry) :
    Retains name rank capacity older kept where
  sorted := retains.sorted
  bounded := retains.bounded
  latest entry inside := (same entry).mpr (retains.latest entry inside)
  highest entry latest := retains.highest entry ((same entry).mp latest)

end Retains

/-! ## The computation -/

section Retain

variable [DecidableEq ι] {name : α → ι} {rank : α → κ} {capacity : Nat}
  {log older newer kept : List α}

/-- Sort the last versions by rank and keep the ones at the end. -/
def retain (name : α → ι) (rank : α → κ) (capacity : Nat) (log : List α) : List α :=
  newest capacity ((collect name log).insertionSort (rank · ≤ rank ·))

theorem mem_of_mem_retain {entry : α} (inside : entry ∈ retain name rank capacity log) :
    entry ∈ log := by
  have collected := (List.mem_insertionSort _).mp (mem_of_mem_newest inside)
  exact (mem_collect.mp collected).mem

/-- Names are told apart by their ranks. -/
def Telling (name : α → ι) (rank : α → κ) : Prop :=
  ∀ first second, rank first = rank second → name first = name second

variable (telling : Telling name rank)

include telling

/-- The last versions in the order of their ranks. -/
theorem sorted_collect (log : List α) :
    ((collect name log).insertionSort (rank · ≤ rank ·)).Pairwise (rank · < rank ·) := by
  have ordered := List.pairwise_insertionSort (fun first second => rank first ≤ rank second)
    (collect name log)
  have distinct : ((collect name log).insertionSort (rank · ≤ rank ·)).Nodup :=
    (List.perm_insertionSort _ _).nodup_iff.mpr (nodup_collect name log).of_map
  refine (ordered.and distinct).imp_of_mem fun first second both => ?_
  refine lt_of_le_of_ne both.1 fun same => both.2 ?_
  have latestFirst := mem_collect.mp ((List.mem_insertionSort _).mp first)
  have latestSecond := mem_collect.mp ((List.mem_insertionSort _).mp second)
  exact latestFirst.eq_of_name latestSecond (telling _ _ same)

theorem retains_retain (capacity : Nat) (log : List α) :
    Retains name rank capacity log (retain name rank capacity log) := by
  have sorted := sorted_collect telling log
  have exactly : ∀ entry, entry ∈ (collect name log).insertionSort (rank · ≤ rank ·) ↔
      Latest name log entry := fun entry => (List.mem_insertionSort _).trans mem_collect
  unfold retain
  generalize (collect name log).insertionSort (rank · ≤ rank ·) = versions at sorted exactly
  refine ⟨sorted.sublist (newest_sublist _ _), ?_, length_newest_le _ _, ?_⟩
  · intro entry inside
    exact (exactly entry).mp (mem_of_mem_newest inside)
  · intro entry latest absent
    -- The entry stands before the ones that are kept.
    have split := List.take_append_drop (versions.length - capacity) versions
    have early : entry ∈ versions.take (versions.length - capacity) := by
      have inside := (exactly entry).mpr latest
      rw [← split] at inside
      exact (List.mem_append.mp inside).resolve_right absent
    rw [← split] at sorted
    constructor
    · refine length_newest_of_le ?_
      have some := List.length_pos_of_mem early
      rw [List.length_take] at some
      omega
    · intro other inside
      exact (List.pairwise_append.mp sorted).2.2 entry early other inside

/-- Appending to what is kept is as good as appending to the log. -/
theorem retain_append (steadfast : Steadfast name rank older newer) :
    retain name rank capacity (retain name rank capacity older ++ newer) =
      retain name rank capacity (older ++ newer) :=
  ((retains_retain telling capacity older).append steadfast
    (retains_retain telling capacity _)).unique (retains_retain telling capacity _)

/-- Merging what is kept with the older part of the log once more changes nothing. -/
theorem retain_again (steadfast : Steadfast name rank older newer) :
    retain name rank capacity (older ++ retain name rank capacity (older ++ newer)) =
      retain name rank capacity (older ++ newer) :=
  (retains_retain telling capacity _).unique
    ((retains_retain telling capacity (older ++ newer)).again steadfast)

/-- What is kept is kept. -/
theorem retain_retain (log : List α) :
    retain name rank capacity (retain name rank capacity log) = retain name rank capacity log := by
  have vacuous : Steadfast name rank [] log := fun _ absent => nomatch absent
  exact retain_again telling vacuous

theorem retain_swap {first second : α}
    (differs : name first ≠ name second) (older newer : List α) :
    retain name rank capacity (older ++ first :: second :: newer) =
      retain name rank capacity (older ++ second :: first :: newer) :=
  (retains_retain telling capacity _).unique
    ((retains_retain telling capacity _).congr fun _ => latest_swap differs)

end Retain

end Meshquill
