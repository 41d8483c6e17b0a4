import Mathlib.Logic.Function.Basic

/-!
# Self-delimiting codes

A code is self-delimiting when a code word can be read off the front of anything that follows it.
Such codes compose: words of one width, words in sequence, and a list after its length are again
self-delimiting, and a sequence of nonempty words has one reading only. Nothing here names a
particular program.
-/
namespace Meshquill

variable {α β γ : Type}

/-- What follows a code word does not change how it is read. -/
def SelfDelimiting (code : α → List β) : Prop :=
  ∀ first second rest other, code first ++ rest = code second ++ other →
    first = second ∧ rest = other

namespace SelfDelimiting

variable {code : α → List β} {next : γ → List β}

/-- Words of one width that differ pairwise. -/
theorem of_width {width : Nat} (sized : ∀ value, (code value).length = width)
    (injective : Function.Injective code) : SelfDelimiting code := by
  intro first second rest other same
  obtain ⟨words, after⟩ := List.append_inj same ((sized first).trans (sized second).symm)
  exact ⟨injective words, after⟩

/-- As many words as are known to follow. -/
theorem flatMap_append (delimited : SelfDelimiting code) {first second : List α}
    {rest other : List β} (length : first.length = second.length)
    (same : first.flatMap code ++ rest = second.flatMap code ++ other) :
    first = second ∧ rest = other := by
  induction first generalizing second with
  | nil =>
    rw [List.eq_nil_of_length_eq_zero length.symm] at same ⊢
    exact ⟨rfl, same⟩
  | cons head tail ih =>
    cases second with
    | nil => cases length
    | cons candidate others =>
      rw [List.flatMap_cons, List.flatMap_cons, List.append_assoc, List.append_assoc] at same
      obtain ⟨rfl, later⟩ := delimited _ _ _ _ same
      obtain ⟨rfl, remainder⟩ := ih (Nat.succ.inj length) later
      exact ⟨rfl, remainder⟩

/-- Any number of nonempty words, to the end of the input. -/
theorem flatMap_injective (delimited : SelfDelimiting code) (filled : ∀ value, code value ≠ []) :
    Function.Injective fun values : List α => values.flatMap code := by
  intro first second same
  induction first generalizing second with
  | nil =>
    cases second with
    | nil => rfl
    | cons head tail =>
      have empty := List.append_eq_nil_iff.mp (show code head ++ tail.flatMap code = [] from same.symm)
      exact absurd empty.1 (filled head)
  | cons head tail ih =>
    cases second with
    | nil =>
      have empty := List.append_eq_nil_iff.mp (show code head ++ tail.flatMap code = [] from same)
      exact absurd empty.1 (filled head)
    | cons candidate others =>
      obtain ⟨rfl, later⟩ := delimited head candidate _ _ same
      rw [ih later]

end SelfDelimiting

end Meshquill
