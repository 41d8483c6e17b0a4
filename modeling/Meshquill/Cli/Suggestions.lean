import Mathlib.Data.Prod.Lex
import Mathlib.Data.String.Basic
import Meshquill.Cli.Contacts
import Meshquill.EditDistance

/-!
# Suggestions

`edit_distance` fills its table row by row. Its rows are the distances between prefixes, so what
it returns is the least number of edits. `closest_suggestion` takes the least of the candidates
within the bound in a linear order, so that the order of the candidates does not matter.
-/
namespace Meshquill

open EditDistance

/-! ## The table -/

/-- A row is computed from the one above it: `done` are the columns behind, the nearest first. -/
theorem editRow_eq (char : Char) (seen done rest : List Char) :
    distance (char :: seen) done ::
        editRow char (distance (char :: seen) done) rest (rowFrom seen done rest) =
      rowFrom (char :: seen) done rest := by
  induction rest generalizing done with
  | nil => rfl
  | cons other rest ih =>
    have next := ih (other :: done)
    obtain ⟨above, upper⟩ := rowFrom_eq_cons seen (other :: done) rest
    rw [upper] at next
    rw [rowFrom, rowFrom, upper, editRow, ← next, distance_cons]
    rfl

theorem editRows_eq (right seen rest : List Char) :
    editRows right seen.length rest (rowFrom seen [] right) =
      rowFrom (rest.reverse ++ seen) [] right := by
  induction rest generalizing seen with
  | nil => rfl
  | cons char rest ih =>
    have row := editRow_eq char seen [] right
    rw [distance_nil_right, List.length_cons] at row
    rw [editRows, row, List.reverse_cons, List.append_assoc]
    exact ih (char :: seen)

theorem editDistance_eq (left right : String) :
    editDistance left right = distance left.toList.reverse right.toList.reverse := by
  have first : List.range (right.toList.length + 1) = rowFrom [] [] right.toList := by
    rw [rowFrom_nil]
    simp
  have rows := editRows_eq right.toList [] left.toList
  rw [List.length_nil, List.append_nil] at rows
  simp only [editDistance, first, rows, getLast?_rowFrom, List.append_nil, Option.getD_some]

theorem isLeast_editDistance (left right : String) :
    IsLeast {count | Edits count left.toList right.toList} (editDistance left right) := by
  have least := isLeast_distance left.toList.reverse right.toList.reverse
  simp only [Edits.reverse_iff] at least
  rw [editDistance_eq]
  exact least

/-! ## The least candidate -/

section Least

variable {α β : Type} [LinearOrder β] {key : α → β} {before : α → α → Bool}

/-- The fold of `min_by` ends in an element with the least key. -/
theorem foldl_least (compares : ∀ one other, before one other = true ↔ key one < key other)
    (first : α) (rest : List α) :
    let best := rest.foldl (fun best next => if before next best then next else best) first
    best ∈ first :: rest ∧ ∀ item ∈ first :: rest, key best ≤ key item := by
  induction rest generalizing first with
  | nil => simp
  | cons next rest ih =>
    rw [List.foldl_cons]
    by_cases earlier : before next first = true
    · rw [if_pos earlier]
      obtain ⟨member, least⟩ := ih next
      refine ⟨List.mem_cons_of_mem _ member, fun item listed => ?_⟩
      rcases List.mem_cons.mp listed with rfl | later
      · have nextBelow := (compares next item).mp earlier
        exact (least next List.mem_cons_self).trans nextBelow.le
      · exact least item later
    · rw [if_neg earlier]
      obtain ⟨member, least⟩ := ih first
      constructor
      · rcases List.mem_cons.mp member with here | later
        · rw [here]
          exact List.mem_cons_self
        · exact List.mem_cons_of_mem _ (List.mem_cons_of_mem _ later)
      · intro item listed
        rw [List.mem_cons, List.mem_cons] at listed
        rcases listed with rfl | rfl | later
        · exact least item List.mem_cons_self
        · have firstBelow := not_lt.mp fun below => earlier ((compares item first).mpr below)
          exact (least first List.mem_cons_self).trans firstBelow
        · exact least item (List.mem_cons_of_mem _ later)

theorem minBy_least (compares : ∀ one other, before one other = true ↔ key one < key other)
    {items : List α} {best : α} (found : minBy before items = some best) :
    best ∈ items ∧ ∀ item ∈ items, key best ≤ key item := by
  cases items with
  | nil => cases found
  | cons first rest =>
    obtain rfl := Option.some.inj found
    exact foldl_least compares first rest

omit [LinearOrder β] in
theorem minBy_eq_none {items : List α} : minBy before items = none ↔ items = [] := by
  cases items <;> simp [minBy]

/-- Where the keys tell the elements apart, the order of the elements does not matter. -/
theorem minBy_perm (compares : ∀ one other, before one other = true ↔ key one < key other)
    (apart : Function.Injective key) {items others : List α} (permuted : items.Perm others) :
    minBy before items = minBy before others := by
  cases found : minBy before items with
  | none =>
    obtain rfl := minBy_eq_none.mp found
    exact (minBy_eq_none.mpr permuted.nil_eq.symm).symm
  | some best =>
    cases there : minBy before others with
    | none =>
      obtain rfl := minBy_eq_none.mp there
      rw [permuted.eq_nil] at found
      cases found
    | some other =>
      obtain ⟨member, least⟩ := minBy_least compares found
      obtain ⟨listed, smallest⟩ := minBy_least compares there
      have below := least other (permuted.mem_iff.mpr listed)
      have above := smallest best (permuted.mem_iff.mp member)
      rw [apart (le_antisymm below above)]

end Least

/-! ## Suggestions -/

/-- The distance first, then the name without regard to case, then the name. -/
def suggestionKey (lowercase : String → String) (measured : String × Nat) :
    Lex (Nat × Lex (String × String)) :=
  toLex (measured.2, toLex (lowercase measured.1, measured.1))

theorem suggestedBefore_iff (lowercase : String → String) (one other : String × Nat) :
    suggestedBefore lowercase one other = true ↔
      suggestionKey lowercase one < suggestionKey lowercase other := by
  rw [suggestionKey, suggestionKey, Prod.Lex.toLex_lt_toLex, Prod.Lex.toLex_lt_toLex]
  simp [suggestedBefore]

theorem suggestionKey_injective (lowercase : String → String) :
    Function.Injective (suggestionKey lowercase) := by
  intro one other same
  have parts := Prod.mk.inj (toLex.injective same)
  have names := Prod.mk.inj (toLex.injective parts.2)
  exact Prod.ext names.2 parts.1

section

variable (lowercase : String → String) (query : String)

/-- How far a candidate is from the query, without regard to case. -/
def suggestionDistance (candidate : String) : Nat :=
  editDistance (lowercase query) (lowercase candidate)

/-- How far a suggestion may be from the query: a third of its length, rounded up, and between
one and three. -/
def suggestionBound : Nat := min (max (((lowercase query).length + 2) / 3) 1) 3

/-- The candidates within the bound, with their distances. -/
def suggestionsWithin (candidates : List String) : List (String × Nat) :=
  (candidates.map fun candidate => (candidate, suggestionDistance lowercase query candidate)).filter
    fun measured => measured.2 ≤ suggestionBound lowercase query

theorem closestSuggestion_eq (named : query ≠ "") (candidates : List String) :
    closestSuggestion lowercase query candidates =
      (minBy (suggestedBefore lowercase) (suggestionsWithin lowercase query candidates)).map
        Prod.fst := by
  rw [closestSuggestion, if_neg (by simpa using named)]
  rfl

theorem mem_suggestionsWithin {candidates : List String} {measured : String × Nat} :
    measured ∈ suggestionsWithin lowercase query candidates ↔
      measured.1 ∈ candidates ∧ measured.2 = suggestionDistance lowercase query measured.1 ∧
        measured.2 ≤ suggestionBound lowercase query := by
  obtain ⟨name, distance⟩ := measured
  simp only [suggestionsWithin, List.mem_filter, List.mem_map, Prod.mk.injEq, decide_eq_true_eq]
  constructor
  · rintro ⟨⟨candidate, listed, rfl, rfl⟩, within⟩
    exact ⟨listed, rfl, within⟩
  · rintro ⟨listed, rfl, within⟩
    exact ⟨⟨name, listed, rfl, rfl⟩, within⟩

end

variable {candidates : List String}

/-- A suggestion is a candidate within the bound and at the least distance. -/
theorem closestSuggestion_some {lowercase : String → String} {query : String} (named : query ≠ "")
    {suggestion : String} (found : closestSuggestion lowercase query candidates = some suggestion) :
    suggestion ∈ candidates ∧
      suggestionDistance lowercase query suggestion ≤ suggestionBound lowercase query ∧
      ∀ candidate ∈ candidates, suggestionDistance lowercase query suggestion ≤
        suggestionDistance lowercase query candidate := by
  rw [closestSuggestion_eq lowercase query named, Option.map_eq_some_iff] at found
  obtain ⟨best, least, rfl⟩ := found
  obtain ⟨member, smallest⟩ := minBy_least (suggestedBefore_iff lowercase) least
  obtain ⟨listed, measured, within⟩ := (mem_suggestionsWithin lowercase query).mp member
  rw [measured] at within
  refine ⟨listed, within, fun candidate offered => ?_⟩
  by_cases near : suggestionDistance lowercase query candidate ≤ suggestionBound lowercase query
  · have below := smallest (candidate, suggestionDistance lowercase query candidate)
      ((mem_suggestionsWithin lowercase query).mpr ⟨offered, rfl, near⟩)
    rw [suggestionKey, suggestionKey, Prod.Lex.toLex_le_toLex, measured] at below
    rcases below with lower | ⟨same, _⟩
    · exact lower.le
    · exact same.le
  · omega

/-- A suggestion is made exactly if some candidate is within the bound. -/
theorem closestSuggestion_isSome {lowercase : String → String} {query : String}
    (named : query ≠ "") :
    (closestSuggestion lowercase query candidates).isSome ↔ ∃ candidate ∈ candidates,
      suggestionDistance lowercase query candidate ≤ suggestionBound lowercase query := by
  constructor
  · intro made
    obtain ⟨suggestion, found⟩ := Option.isSome_iff_exists.mp made
    obtain ⟨listed, within, _⟩ := closestSuggestion_some named found
    exact ⟨suggestion, listed, within⟩
  · rintro ⟨candidate, listed, within⟩
    rw [closestSuggestion_eq lowercase query named, Option.isSome_map, Option.isSome_iff_ne_none]
    intro nothing
    have member : (candidate, suggestionDistance lowercase query candidate) ∈
        suggestionsWithin lowercase query candidates :=
      (mem_suggestionsWithin lowercase query).mpr ⟨listed, rfl, within⟩
    rw [minBy_eq_none.mp nothing] at member
    cases member

theorem closestSuggestion_perm (lowercase : String → String) {query : String} (named : query ≠ "")
    {others : List String} (permuted : candidates.Perm others) :
    closestSuggestion lowercase query candidates = closestSuggestion lowercase query others := by
  have within : (suggestionsWithin lowercase query candidates).Perm
      (suggestionsWithin lowercase query others) := (permuted.map _).filter _
  rw [closestSuggestion_eq lowercase query named, closestSuggestion_eq lowercase query named,
    minBy_perm (suggestedBefore_iff lowercase) (suggestionKey_injective lowercase) within]

/-- `edit_distance` is the least number of insertions, deletions and substitutions. A non-empty
query gets a suggestion exactly if a candidate is within the bound, it is at the least distance,
and the order of the candidates does not matter. -/
theorem closest_suggestion_least :
    (∀ left right : String,
      IsLeast {count | Edits count left.toList right.toList} (editDistance left right)) ∧
    ∀ (lowercase : String → String) (query : String) (candidates : List String), query ≠ "" →
      ((closestSuggestion lowercase query candidates).isSome ↔ ∃ candidate ∈ candidates,
        editDistance (lowercase query) (lowercase candidate) ≤ suggestionBound lowercase query) ∧
      (∀ suggestion, closestSuggestion lowercase query candidates = some suggestion →
        suggestion ∈ candidates ∧
        editDistance (lowercase query) (lowercase suggestion) ≤ suggestionBound lowercase query ∧
        ∀ candidate ∈ candidates, editDistance (lowercase query) (lowercase suggestion) ≤
          editDistance (lowercase query) (lowercase candidate)) ∧
      ∀ others : List String, candidates.Perm others →
        closestSuggestion lowercase query candidates =
          closestSuggestion lowercase query others := by
  refine ⟨isLeast_editDistance, fun lowercase query candidates named => ⟨?_, ?_, ?_⟩⟩
  · exact closestSuggestion_isSome named
  · intro suggestion found
    exact closestSuggestion_some named found
  · intro others permuted
    exact closestSuggestion_perm lowercase named permuted

end Meshquill
