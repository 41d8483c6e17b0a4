import Mathlib.Data.List.Basic

/-!
# The newest entries of a log

A log lists its entries oldest first. `newest` keeps a bounded number of them from its end. When
the entries die in the order in which they were written, dropping the dead ones from the front
is filtering (`dropWhile_eq_filter`), and a window that drops its dead entries before it takes
in another one is the live part of the window over the whole log (`newest_filter_concat`).

Nothing here names a particular program.
-/
namespace Meshquill

variable {α : Type} {capacity : Nat} {log : List α}

/-- The newest entries of a log, oldest first. -/
def newest (capacity : Nat) (log : List α) : List α := log.drop (log.length - capacity)

theorem length_newest_le (capacity : Nat) (log : List α) :
    (newest capacity log).length ≤ capacity := by
  rw [newest, List.length_drop]
  omega

theorem newest_of_le (few : log.length ≤ capacity) : newest capacity log = log := by
  rw [newest, Nat.sub_eq_zero_of_le few, List.drop_zero]

theorem newest_sublist (capacity : Nat) (log : List α) : (newest capacity log).Sublist log :=
  List.drop_sublist _ _

theorem mem_of_mem_newest {entry : α} (inside : entry ∈ newest capacity log) : entry ∈ log :=
  (newest_sublist capacity log).subset inside

theorem length_newest_of_le (many : capacity ≤ log.length) :
    (newest capacity log).length = capacity := by
  rw [newest, List.length_drop]
  omega

/-- One more entry takes the place of the oldest of a full window. -/
theorem newest_concat_of_full (positive : 0 < capacity) (full : capacity ≤ log.length)
    (entry : α) : newest capacity (log ++ [entry]) = (newest capacity log).tail ++ [entry] := by
  have later : (log ++ [entry]).length - capacity = log.length - capacity + 1 := by
    simp only [List.length_append, List.length_singleton]
    omega
  have within : log.length - capacity + 1 ≤ log.length := by omega
  rw [newest, later, List.drop_append_of_le_length within, newest, List.tail_drop]

theorem newest_concat_of_room (room : log.length < capacity) (entry : α) :
    newest capacity (log ++ [entry]) = log ++ [entry] :=
  newest_of_le (by rw [List.length_append]; exact room)

/-- A window of the newest entries is kept by dropping the oldest one when it is full. -/
theorem newest_concat (positive : 0 < capacity) (log : List α) (entry : α) :
    newest capacity (log ++ [entry]) =
      if (newest capacity log).length = capacity then (newest capacity log).tail ++ [entry]
      else newest capacity log ++ [entry] := by
  rcases Nat.lt_or_ge log.length capacity with room | full
  · rw [newest_concat_of_room room, newest_of_le (Nat.le_of_lt room), if_neg (Nat.ne_of_lt room)]
  · rw [newest_concat_of_full positive full, if_pos (length_newest_of_le full)]

/-- The last entry is among the newest. -/
theorem mem_newest_concat (positive : 0 < capacity) (log : List α) (entry : α) :
    entry ∈ newest capacity (log ++ [entry]) := by
  rcases Nat.lt_or_ge log.length capacity with room | full
  · rw [newest_concat_of_room room]
    exact List.mem_append_right _ (List.mem_singleton_self entry)
  · rw [newest_concat_of_full positive full]
    exact List.mem_append_right _ (List.mem_singleton_self entry)

/-! ## Entries that die -/

variable {alive : α → Bool}

/-- Where the dead entries are in front, dropping them is filtering. -/
theorem dropWhile_eq_filter {dead : α → Bool} (opposite : ∀ entry ∈ log, dead entry = !alive entry)
    (ageing : log.Pairwise fun older newer => alive older → alive newer) :
    log.dropWhile dead = log.filter alive := by
  induction log with
  | nil => rfl
  | cons oldest rest ih =>
    obtain ⟨first, others⟩ := List.pairwise_cons.mp ageing
    have verdict := opposite oldest List.mem_cons_self
    by_cases living : alive oldest
    · have all : rest.filter alive = rest :=
        List.filter_eq_self.mpr fun entry inside => first entry inside living
      simp [verdict, living, all]
    · simp [verdict, living, ih (fun entry inside => opposite entry (.tail _ inside)) others]

/-- A window that drops its dead entries before it takes in another one is the live part of the
window over the whole log. -/
theorem newest_filter_concat (positive : 0 < capacity)
    (ageing : log.Pairwise fun older newer => alive older → alive newer) {entry : α}
    (living : alive entry) :
    newest capacity ((newest capacity log).filter alive ++ [entry]) =
      (newest capacity (log ++ [entry])).filter alive := by
  have last : [entry].filter alive = [entry] := by simp [living]
  rcases Nat.lt_or_ge log.length capacity with room | full
  · have few : (log.filter alive).length < capacity :=
      Nat.lt_of_le_of_lt (List.length_filter_le _ _) room
    rw [newest_of_le (Nat.le_of_lt room), newest_concat_of_room few, newest_concat_of_room room,
      List.filter_append, last]
  · rw [newest_concat_of_full positive full, List.filter_append, last]
    have size := length_newest_of_le full
    have sorted := ageing.sublist (newest_sublist capacity log)
    cases window : newest capacity log with
    | nil =>
      rw [window] at size
      exact absurd size (Nat.ne_of_lt positive)
    | cons oldest rest =>
      rw [window] at size sorted
      obtain ⟨first, -⟩ := List.pairwise_cons.mp sorted
      -- Either the oldest entry is alive, and with it all of them, or it is dropped anyway.
      by_cases young : alive oldest
      · have all : (oldest :: rest).filter alive = oldest :: rest := by
          apply List.filter_eq_self.mpr
          rintro other inside
          rcases List.mem_cons.mp inside with rfl | later
          · exact young
          · exact first other later young
        have others : rest.filter alive = rest :=
          List.filter_eq_self.mpr fun other inside => first other inside young
        rw [all, newest_concat_of_full positive (Nat.le_of_eq size.symm),
          newest_of_le (Nat.le_of_eq size), List.tail_cons, others]
      · have fewer : (rest.filter alive).length < capacity := by
          have short := List.length_filter_le alive rest
          simp only [List.length_cons] at size
          omega
        rw [List.filter_cons_of_neg young, newest_concat_of_room fewer, List.tail_cons]

end Meshquill
