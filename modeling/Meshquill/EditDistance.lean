import Mathlib.Order.Bounds.Basic

/-!
# The least number of edits between two lists

An edit inserts, deletes or replaces one element. `distance` is the recursion over the first
elements; `isLeast_distance` says that it is the least number of edits. A table that is filled row
by row goes through prefixes instead, so `rowFrom` lists the distances of the prefixes in the
order in which they are computed, with the lists turned around. Nothing here names a particular
program.
-/
namespace Meshquill.EditDistance

variable {α : Type}

/-- One insertion, deletion or substitution. -/
inductive Edit : List α → List α → Prop
  | insert (before after : List α) (item : α) : Edit (before ++ after) (before ++ item :: after)
  | delete (before after : List α) (item : α) : Edit (before ++ item :: after) (before ++ after)
  | substitute (before after : List α) (item other : α) :
      Edit (before ++ item :: after) (before ++ other :: after)

/-- So many edits lead from one list to the other. -/
inductive Edits : Nat → List α → List α → Prop
  | refl (list : List α) : Edits 0 list list
  | cons {count : Nat} {first second third : List α} (edit : Edit first second)
      (later : Edits count second third) : Edits (count + 1) first third

/-! ## Turning lists around, and elements in front -/

theorem Edit.reverse {first second : List α} (edit : Edit first second) :
    Edit first.reverse second.reverse := by
  cases edit with
  | insert before after item =>
    simpa using Edit.insert after.reverse before.reverse item
  | delete before after item =>
    simpa using Edit.delete after.reverse before.reverse item
  | substitute before after item other =>
    simpa using Edit.substitute after.reverse before.reverse item other

variable {count : Nat} {third : List α}

theorem Edits.reverse {first second : List α} (edits : Edits count first second) :
    Edits count first.reverse second.reverse := by
  induction edits with
  | refl list => exact .refl _
  | cons edit _ ih => exact .cons edit.reverse ih

theorem Edits.reverse_iff {first second : List α} :
    Edits count first.reverse second.reverse ↔ Edits count first second := by
  constructor
  · intro edits
    simpa using edits.reverse
  · exact Edits.reverse

theorem Edit.push {first second : List α} (item : α) (edit : Edit first second) :
    Edit (item :: first) (item :: second) := by
  cases edit with
  | insert before after other => exact .insert (item :: before) after other
  | delete before after other => exact .delete (item :: before) after other
  | substitute before after one other => exact .substitute (item :: before) after one other

theorem Edits.push {first second : List α} (item : α) (edits : Edits count first second) :
    Edits count (item :: first) (item :: second) := by
  induction edits with
  | refl list => exact .refl _
  | cons edit _ ih => exact .cons (edit.push item) ih

theorem edits_insert_all (list : List α) : Edits list.length [] list := by
  induction list with
  | nil => exact .refl _
  | cons item list ih =>
    exact .cons (.insert [] [] item) (ih.push item)

theorem edits_delete_all (list : List α) : Edits list.length list [] := by
  induction list with
  | nil => exact .refl _
  | cons item list ih => exact .cons (.delete [] list item) ih

/-! ## The recursion -/

variable [DecidableEq α]

/-- What it costs to put one element in the place of another. -/
def cost (item other : α) : Nat := if item ≠ other then 1 else 0

theorem cost_le (item other : α) : cost item other ≤ 1 := by
  unfold cost
  split <;> omega

def distance : List α → List α → Nat
  | [], second => second.length
  | first, [] => first.length
  | item :: first, other :: second =>
    min (min (distance first (other :: second) + 1) (distance (item :: first) second + 1))
      (distance first second + cost item other)
termination_by first second => first.length + second.length

variable {item other : α} {first second : List α}

@[simp] theorem distance_nil (second : List α) : distance [] second = second.length := by
  rw [distance]

@[simp] theorem distance_nil_right (first : List α) : distance first [] = first.length := by
  cases first with
  | nil => rw [distance]
  | cons item first => rw [distance]; simp

theorem distance_cons : distance (item :: first) (other :: second) =
    min (min (distance first (other :: second) + 1) (distance (item :: first) second + 1))
      (distance first second + cost item other) := by
  rw [distance]

theorem distance_insert (first second : List α) :
    distance first (other :: second) ≤ distance first second + 1 := by
  cases first with
  | nil => simp
  | cons item first =>
    rw [distance_cons]
    omega

theorem distance_delete (first second : List α) :
    distance (item :: first) second ≤ distance first second + 1 := by
  cases second with
  | nil => simp
  | cons other second =>
    rw [distance_cons]
    omega

/-- An element less in front saves at most one edit. -/
theorem distance_le_delete (first second : List α) :
    distance first second ≤ distance (item :: first) second + 1 := by
  induction second with
  | nil =>
    simp only [distance_nil_right, List.length_cons]
    omega
  | cons other second ih =>
    have inserted := @distance_insert _ _ other first second
    rw [distance_cons]
    omega

theorem distance_substitute (replacement : α) (first second : List α) :
    distance (item :: first) second ≤ distance (replacement :: first) second + 1 := by
  induction second with
  | nil => simp
  | cons other second ih =>
    have cheap := cost_le item other
    rw [distance_cons, distance_cons]
    omega

/-- An edit behind the first element counts as much as without it. -/
theorem distance_push (item : α)
    (near : ∀ second, distance first second ≤ distance third second + 1) (second : List α) :
    distance (item :: first) second ≤ distance (item :: third) second + 1 := by
  induction second with
  | nil =>
    have lengths := near []
    simp only [distance_nil_right, List.length_cons] at lengths ⊢
    omega
  | cons other second ih =>
    have here := near (other :: second)
    have there := near second
    rw [distance_cons, distance_cons]
    omega

/-- One edit changes a distance by at most one. -/
theorem distance_edit (edit : Edit first third) (second : List α) :
    distance first second ≤ distance third second + 1 := by
  cases edit with
  | insert before after item =>
    induction before generalizing second with
    | nil => exact distance_le_delete after second
    | cons head before ih => exact distance_push head ih second
  | delete before after item =>
    induction before generalizing second with
    | nil => exact distance_delete after second
    | cons head before ih => exact distance_push head ih second
  | substitute before after item replacement =>
    induction before generalizing second with
    | nil => exact distance_substitute replacement after second
    | cons head before ih => exact distance_push head ih second

theorem distance_self (list : List α) : distance list list = 0 := by
  induction list with
  | nil => simp
  | cons item list ih =>
    rw [distance_cons, ih, cost, if_neg (not_not.mpr rfl)]
    omega

theorem distance_le_of_edits (edits : Edits count first second) :
    distance first second ≤ count := by
  induction edits with
  | refl list => exact Nat.le_of_eq (distance_self list)
  | @cons count _ _ third edit _ ih =>
    exact Nat.le_trans (distance_edit edit third) (Nat.succ_le_succ ih)

theorem Edits.substitute (edits : Edits count first second) (item other : α) :
    Edits (count + cost item other) (item :: first) (other :: second) := by
  by_cases same : item = other
  · rw [cost, if_neg (not_not.mpr same), same]
    exact edits.push other
  · rw [cost, if_pos same]
    exact .cons (.substitute [] first item other) (edits.push other)

/-- So many edits are enough. -/
theorem edits_distance (first second : List α) : Edits (distance first second) first second := by
  induction first, second using distance.induct with
  | case1 second =>
    rw [distance_nil]
    exact edits_insert_all second
  | case2 first =>
    rw [distance_nil_right]
    exact edits_delete_all first
  | case3 item first other second deleted inserted replaced =>
    have deletes : Edits _ (item :: first) (other :: second) :=
      .cons (.delete [] first item) deleted
    have inserts : Edits _ (item :: first) (other :: second) :=
      .cons (.insert [] (item :: first) other) (inserted.push other)
    have replaces := replaced.substitute item other
    rw [distance_cons]
    generalize distance first (other :: second) + 1 = one at deletes ⊢
    generalize distance (item :: first) second + 1 = two at inserts ⊢
    generalize distance first second + cost item other = three at replaces ⊢
    have chosen : min (min one two) three = one ∨ min (min one two) three = two ∨
        min (min one two) three = three := by omega
    rcases chosen with least | least | least
    · rw [least]
      exact deletes
    · rw [least]
      exact inserts
    · rw [least]
      exact replaces

/-- The least number of edits. -/
theorem isLeast_distance (first second : List α) :
    IsLeast {count | Edits count first second} (distance first second) :=
  ⟨edits_distance first second, fun _ edits => distance_le_of_edits edits⟩

/-! ## Rows of a table -/

/-- The distances between one list and the lists that grow from `done` by the elements of `rest`,
each put in front. -/
def rowFrom (list : List α) : List α → List α → List Nat
  | done, [] => [distance list done]
  | done, next :: rest => distance list done :: rowFrom list (next :: done) rest

theorem rowFrom_eq_cons (list done rest : List α) :
    ∃ later, rowFrom list done rest = distance list done :: later := by
  cases rest with
  | nil | cons => exact ⟨_, rfl⟩

theorem rowFrom_nil (done rest : List α) :
    rowFrom [] done rest = (List.range (rest.length + 1)).map (done.length + ·) := by
  induction rest generalizing done with
  | nil => simp [rowFrom]
  | cons next rest ih =>
    rw [rowFrom, ih, distance_nil, List.length_cons, List.length_cons,
      @List.range_succ_eq_map (rest.length + 1), List.map_cons, List.map_map, Nat.add_zero]
    congr 1
    refine List.map_congr_left fun index _ => ?_
    simp only [Function.comp_apply]
    omega

/-- The last entry is the distance to the whole list. -/
theorem getLast?_rowFrom (list done rest : List α) :
    (rowFrom list done rest).getLast? = some (distance list (rest.reverse ++ done)) := by
  induction rest generalizing done with
  | nil => rfl
  | cons next rest ih =>
    rw [rowFrom, List.getLast?_cons, ih]
    simp

end Meshquill.EditDistance
