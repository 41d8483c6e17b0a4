import Mathlib.Data.Set.Finite.Lemmas
import Mathlib.Order.WithBot
import Meshquill.Transition

/-!
# Locks that are taken in order

A process takes the locks of its transaction one by one, and keeps them until it releases all of
them at once. If there is a rank that rises along every transaction, no processes wait for each
other in a cycle, and as long as one has begun, one of them can go on.

Nothing here names a particular program.
-/
namespace Meshquill.Locking

variable {ι κ τ ρ : Type}

/-- The owner of each lock, and the locks that each process in a transaction has yet to take. -/
structure Table (ι κ : Type) where
  owner : κ → Option ι
  wanted : ι → Option (List κ)

inductive Move (ι τ : Type) where
  | start (process : ι) (transaction : τ)
  | take (process : ι)
  /-- The process has all its locks and is done. -/
  | finish (process : ι)
  /-- The process stops, whatever it waits for. -/
  | abandon (process : ι)

/-- No process has begun. -/
def idle : Table ι κ where
  owner _ := none
  wanted _ := none

namespace Table

/-- One process waits for a lock that the other has. -/
def Waits (table : Table ι κ) (waiting owner : ι) : Prop :=
  ∃ lock rest, table.wanted waiting = some (lock :: rest) ∧ table.owner lock = some owner

/-- The processes take their locks by rising rank. -/
structure Ordered [LinearOrder ρ] (rank : κ → ρ) (table : Table ι κ) : Prop where
  /-- A lock is owned in a transaction, which takes only locks of higher rank after it. -/
  owned : ∀ lock process, table.owner lock = some process →
    ∃ rest, table.wanted process = some rest ∧ ∀ next ∈ rest, rank lock < rank next
  rising : ∀ process rest, table.wanted process = some rest → rest.Pairwise (rank · < rank ·)
  finite : {process | table.wanted process ≠ none}.Finite

section Order

variable [LinearOrder ρ] {rank : κ → ρ} {table : Table ι κ}

theorem ordered_idle (rank : κ → ρ) : Ordered rank (idle : Table ι κ) where
  owned := nofun
  rising := nofun
  finite := by
    convert Set.finite_empty
    simp [idle]

/-- Along a chain of processes that wait, the rank does not fall. -/
theorem Ordered.chain (ordered : table.Ordered rank) {first last : ι}
    (waits : Relation.TransGen table.Waits first last) :
    ∃ lock rest held, table.wanted first = some (lock :: rest) ∧
      table.owner held = some last ∧ rank lock ≤ rank held := by
  induction waits with
  | single waits =>
    obtain ⟨lock, rest, wants, owns⟩ := waits
    exact ⟨lock, rest, lock, wants, owns, le_rfl⟩
  | tail _ waits ih =>
    obtain ⟨lock, rest, held, wants, owns, below⟩ := ih
    obtain ⟨next, others, wantsNext, ownsNext⟩ := waits
    obtain ⟨wanted, same, later⟩ := ordered.owned held _ owns
    cases wantsNext.symm.trans same
    exact ⟨lock, rest, next, wants, ownsNext, below.trans (later next (.head _)).le⟩

/-- No process waits for itself, directly or through others. -/
theorem Ordered.acyclic (ordered : table.Ordered rank) (process : ι) :
    ¬ Relation.TransGen table.Waits process process := by
  intro waits
  obtain ⟨lock, rest, held, wants, owns, below⟩ := ordered.chain waits
  obtain ⟨wanted, same, later⟩ := ordered.owned held process owns
  cases wants.symm.trans same
  exact absurd (later lock (.head _)) below.not_gt

end Order

variable [DecidableEq ι] [DecidableEq κ]

/-- The process begins a transaction that takes these locks. -/
def enlist (table : Table ι κ) (process : ι) (locks : List κ) : Table ι κ :=
  { table with wanted := Function.update table.wanted process (some locks) }

def release (table : Table ι κ) (process : ι) : Table ι κ where
  owner lock := if table.owner lock = some process then none else table.owner lock
  wanted := Function.update table.wanted process none

def grant (table : Table ι κ) (process : ι) (lock : κ) (rest : List κ) : Table ι κ where
  owner := Function.update table.owner lock (some process)
  wanted := Function.update table.wanted process (some rest)

def takeNext (table : Table ι κ) (process : ι) : Option (List κ) → Option (Table ι κ)
  | some (lock :: rest) =>
    if table.owner lock = none then some (table.grant process lock rest) else none
  | some [] | none => none

/-- A move, if it is possible. The plan of a transaction is the locks it takes, in order. -/
def step (plan : τ → List κ) (table : Table ι κ) : Move ι τ → Option (Table ι κ)
  | .start process transaction =>
    if table.wanted process = none then some (table.enlist process (plan transaction)) else none
  | .take process => table.takeNext process (table.wanted process)
  | .finish process =>
    if table.wanted process = some [] then some (table.release process) else none
  | .abandon process =>
    if table.wanted process = none then none else some (table.release process)

/-- The process can take its next lock, or it is done. -/
def CanGoOn (table : Table ι κ) (process : ι) : Prop :=
  (table.takeNext process (table.wanted process)).isSome = true ∨ table.wanted process = some []

variable {plan : τ → List κ} [LinearOrder ρ] {rank : κ → ρ} {table : Table ι κ} {process : ι}
  {lock : κ} {rest : List κ}

omit [DecidableEq κ] in
/-- Only one more process is in a transaction after a change of what one wants. -/
theorem finite_update (finite : {process | table.wanted process ≠ none}.Finite)
    (wanted : Option (List κ)) :
    {other | Function.update table.wanted process wanted other ≠ none}.Finite := by
  refine (finite.insert process).subset fun other active => ?_
  by_cases same : other = process
  · exact .inl same
  · refine .inr ?_
    rwa [Set.mem_ofPred_eq, Function.update_of_ne same] at active

omit [DecidableEq κ] in
theorem Ordered.enlist (ordered : table.Ordered rank) (idle : table.wanted process = none)
    (rising : rest.Pairwise (rank · < rank ·)) :
    Ordered rank (table.enlist process rest) where
  owned lock owner owns := by
    obtain ⟨wanted, wants, later⟩ := ordered.owned lock owner owns
    have differs : owner ≠ process := by
      rintro rfl
      cases idle.symm.trans wants
    exact ⟨wanted, (Function.update_of_ne differs _ _).trans wants, later⟩
  rising other wanted wants := by
    by_cases same : other = process
    · subst same
      simp only [Table.enlist, Function.update_self, Option.some.injEq] at wants
      exact wants ▸ rising
    · simp only [Table.enlist, Function.update_of_ne same] at wants
      exact ordered.rising other wanted wants
  finite := finite_update ordered.finite _

theorem Ordered.grant (ordered : table.Ordered rank)
    (wants : table.wanted process = some (lock :: rest)) :
    Ordered rank (table.grant process lock rest) := by
  obtain ⟨first, others⟩ := List.pairwise_cons.mp (ordered.rising process _ wants)
  constructor
  · intro other owner owns
    by_cases same : other = lock
    · subst same
      simp only [Table.grant, Function.update_self, Option.some.injEq] at owns
      subst owns
      exact ⟨rest, Function.update_self .., first⟩
    · simp only [Table.grant, Function.update_of_ne same] at owns
      obtain ⟨wanted, wantsOther, later⟩ := ordered.owned other owner owns
      by_cases isProcess : owner = process
      · subst isProcess
        cases wants.symm.trans wantsOther
        exact ⟨rest, Function.update_self .., fun next member => later next (.tail _ member)⟩
      · exact ⟨wanted, (Function.update_of_ne isProcess _ _).trans wantsOther, later⟩
  · intro other wanted wantsOther
    by_cases same : other = process
    · subst same
      simp only [Table.grant, Function.update_self, Option.some.injEq] at wantsOther
      subst wantsOther
      exact others
    · simp only [Table.grant, Function.update_of_ne same] at wantsOther
      exact ordered.rising other wanted wantsOther
  · exact finite_update ordered.finite _

omit [DecidableEq κ] in
theorem Ordered.release (ordered : table.Ordered rank) : Ordered rank (table.release process) where
  owned lock owner owns := by
    simp only [Table.release] at owns
    split_ifs at owns with released
    have differs : owner ≠ process := by
      rintro rfl
      exact released owns
    obtain ⟨wanted, wants, later⟩ := ordered.owned lock owner owns
    exact ⟨wanted, (Function.update_of_ne differs _ _).trans wants, later⟩
  rising other wanted wants := by
    by_cases same : other = process
    · subst same
      simp [Table.release] at wants
    · simp only [Table.release, Function.update_of_ne same] at wants
      exact ordered.rising other wanted wants
  finite := finite_update ordered.finite _

/-- Every move keeps the order, if a transaction that starts follows the rank. -/
theorem Ordered.step {next : Table ι κ} (move : Move ι τ)
    (follows : ∀ process transaction, move = .start process transaction →
      (plan transaction).Pairwise (rank · < rank ·))
    (moved : table.step plan move = some next) (ordered : table.Ordered rank) :
    next.Ordered rank := by
  cases move with
  | start process transaction =>
    simp only [Table.step] at moved
    split_ifs at moved with idle
    cases moved
    exact ordered.enlist idle (follows process transaction rfl)
  | take process =>
    simp only [Table.step] at moved
    rcases wants : table.wanted process with _ | _ | ⟨lock, rest⟩
    all_goals rw [wants] at moved
    · cases moved
    · cases moved
    · simp only [takeNext] at moved
      split_ifs at moved
      cases moved
      exact ordered.grant wants
  | finish | abandon =>
    simp only [Table.step] at moved
    split_ifs at moved
    cases moved
    exact ordered.release

/-- While a process is in a transaction, one of those that are can go on: the one whose next lock
has the highest rank, or the owner of that lock. -/
theorem Ordered.goesOn (ordered : table.Ordered rank) (active : table.wanted process ≠ none) :
    ∃ other, table.wanted other ≠ none ∧ table.CanGoOn other := by
  by_contra stuck
  have stopped : ∀ {other}, table.wanted other ≠ none → ¬ table.CanGoOn other :=
    fun active goesOn => stuck ⟨_, active, goesOn⟩
  let next (other : ι) : WithBot ρ := (table.wanted other).bind fun wanted => wanted.head?.map rank
  obtain ⟨highest, isActive, above⟩ := Set.exists_max_image _ next ordered.finite ⟨process, active⟩
  rcases wants : table.wanted highest with _ | _ | ⟨lock, rest⟩
  · exact isActive wants
  · exact stopped isActive (.inr wants)
  · cases owns : table.owner lock with
    | none =>
      refine stopped isActive (.inl ?_)
      simp [wants, takeNext, owns]
    | some owner =>
      obtain ⟨wanted, wantsToo, later⟩ := ordered.owned lock owner owns
      have ownerActive : table.wanted owner ≠ none := by
        rw [wantsToo]
        exact nofun
      cases wanted with
      | nil => exact stopped ownerActive (.inr wantsToo)
      | cons following others =>
        have most : next owner ≤ next highest := above owner ownerActive
        simp only [next, wants, wantsToo] at most
        have rises : rank lock < rank following := later following (.head _)
        exact absurd (WithBot.coe_le_coe.mp most) rises.not_ge

end Table

variable [DecidableEq ι] [DecidableEq κ]

open Table in
/-- In every state that is reached by transactions that follow a rank, no processes wait for each
other in a cycle, and one that is in a transaction can go on if any is. -/
theorem deadlock_free {plan : τ → List κ} [LinearOrder ρ] (rank : κ → ρ) {moves : List (Move ι τ)}
    (follows : ∀ process transaction, .start process transaction ∈ moves →
      (plan transaction).Pairwise (rank · < rank ·))
    {reached : Table ι κ} (ran : Transition.run (step plan) idle moves = some reached) :
    (∀ process, ¬ Relation.TransGen reached.Waits process process) ∧
      ∀ process, reached.wanted process ≠ none →
        ∃ other, reached.wanted other ≠ none ∧ reached.CanGoOn other := by
  let condition (move : Move ι τ) : Prop := ∀ process transaction,
    move = .start process transaction → (plan transaction).Pairwise (rank · < rank ·)
  have met : ∀ move ∈ moves, condition move := by
    rintro _ member process transaction rfl
    exact follows process transaction member
  have kept : ∀ table move next, condition move → step plan table move = some next →
      Ordered rank table → Ordered rank next :=
    fun _ move _ follows moved ordered => ordered.step move follows moved
  have ordered : Ordered rank reached :=
    Transition.run_keeps kept (Transition.Permits.of_forall met _) ran (ordered_idle rank)
  exact ⟨ordered.acyclic, fun _ active => ordered.goesOn active⟩

end Meshquill.Locking
