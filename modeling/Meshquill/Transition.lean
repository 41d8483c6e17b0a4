import Mathlib.Logic.Relation

/-!
# Invariants of transition systems

A system is a relation between states, or a function of a state and an action that may not be
possible there. What every step keeps holds in every state reached.

Nothing here names a particular program.
-/
namespace Meshquill.Transition

/-! ## Relations -/

section Relations

variable {σ : Type} {step : σ → σ → Prop}

/-- What every step keeps holds at the end of every path. -/
theorem keeps {invariant : σ → Prop}
    (kept : ∀ state next, step state next → invariant state → invariant next)
    {start reached : σ} (path : Relation.ReflTransGen step start reached)
    (holds : invariant start) : invariant reached := by
  induction path with
  | refl => exact holds
  | tail _ last ih => exact kept _ _ last ih

end Relations

/-! ## Actions -/

section Actions

variable {σ ι : Type} (step : σ → ι → Option σ)

/-- The state after a sequence of actions, if each one is possible in its turn. -/
def run (state : σ) : List ι → Option σ
  | [] => some state
  | action :: rest =>
    match step state action with
    | some next => run next rest
    | none => none

/-- Every action of the sequence is allowed in the state it finds. -/
def Permits (allowed : σ → ι → Prop) (state : σ) : List ι → Prop
  | [] => True
  | action :: rest =>
    allowed state action ∧
      match step state action with
      | some next => Permits allowed next rest
      | none => True

instance decidablePermits (allowed : σ → ι → Prop) [∀ state, DecidablePred (allowed state)] :
    ∀ (state : σ) (actions : List ι), Decidable (Permits step allowed state actions)
  | _, [] => isTrue trivial
  | state, action :: rest =>
    have : Decidable (match step state action with
        | some next => Permits step allowed next rest
        | none => True) :=
      match step state action with
      | some next => decidablePermits allowed next rest
      | none => isTrue trivial
    inferInstanceAs (Decidable (_ ∧ _))

variable {step}

/-- What every allowed action keeps holds at the end of every permitted run. -/
theorem run_keeps {allowed : σ → ι → Prop} {invariant : σ → Prop}
    (kept : ∀ state action next, allowed state action → step state action = some next →
      invariant state → invariant next)
    {start reached : σ} {actions : List ι} (permits : Permits step allowed start actions)
    (ran : run step start actions = some reached) (holds : invariant start) :
    invariant reached := by
  induction actions generalizing start with
  | nil => exact Option.some.inj ran ▸ holds
  | cons action rest ih =>
    obtain ⟨first, others⟩ := permits
    cases stepped : step start action with
    | none => simp [run, stepped] at ran
    | some next =>
      simp only [stepped] at others
      simp only [run, stepped] at ran
      exact ih others ran (kept start action next first stepped holds)

/-- A condition on the actions alone permits a run as soon as each of them meets it. -/
theorem Permits.of_forall {condition : ι → Prop} {actions : List ι}
    (met : ∀ action ∈ actions, condition action) (state : σ) :
    Permits step (fun _ => condition) state actions := by
  induction actions generalizing state with
  | nil => trivial
  | cons action rest ih =>
    obtain ⟨first, others⟩ := List.forall_mem_cons.mp met
    refine ⟨first, ?_⟩
    split
    · exact ih others _
    · trivial

variable (step) in
/-- Some run leads from one state to the other. -/
def Reaches (start reached : σ) : Prop := ∃ actions, run step start actions = some reached

theorem Reaches.refl (state : σ) : Reaches step state state := ⟨[], rfl⟩

theorem Reaches.single {state next : σ} (action : ι) (stepped : step state action = some next) :
    Reaches step state next :=
  ⟨[action], by simp [run, stepped]⟩

theorem Reaches.trans {first second third : σ} (before : Reaches step first second)
    (after : Reaches step second third) : Reaches step first third := by
  obtain ⟨actions, ran⟩ := before
  obtain ⟨later, continued⟩ := after
  refine ⟨actions ++ later, ?_⟩
  induction actions generalizing first with
  | nil =>
    obtain rfl := Option.some.inj ran
    exact continued
  | cons action rest ih =>
    cases stepped : step first action with
    | none => simp [run, stepped] at ran
    | some next =>
      simp only [run, stepped] at ran
      simp only [List.cons_append, run, stepped]
      exact ih ran

/-- Going on as long as a measure has not reached its bound. -/
theorem Reaches.climb {ready : σ → Prop} (level : σ → Nat) {bound : Nat}
    (up : ∀ state, ready state → level state < bound →
      ∃ next, Reaches step state next ∧ ready next ∧ level next = level state + 1)
    {start : σ} (holds : ready start) (below : level start ≤ bound) :
    ∃ reached, Reaches step start reached ∧ ready reached ∧ level reached = bound := by
  induction left : bound - level start generalizing start with
  | zero => exact ⟨start, .refl start, holds, by omega⟩
  | succ left ih =>
    obtain ⟨next, steps, still, higher⟩ := up start holds (by omega)
    obtain ⟨reached, more, final, top⟩ := ih still (by omega) (by omega)
    exact ⟨reached, steps.trans more, final, top⟩

end Actions

end Meshquill.Transition
