import Mathlib.Logic.Basic

/-!
# Sequences of checks

When a sequence of computations that may each report an error succeeds. Nothing here names a
particular program.
-/
namespace Meshquill.Checks

variable {ε δ α β : Type}

/-- A sequence succeeds if its first part does, and then the rest. -/
theorem bind_ok {first : Except ε α} {next : α → Except ε β} {value : β} :
    (first >>= next) = .ok value ↔ ∃ middle, first = .ok middle ∧ next middle = .ok value := by
  cases first with
  | error error => exact ⟨nofun, fun ⟨_, impossible, _⟩ => nomatch impossible⟩
  | ok middle =>
    constructor
    · exact fun ran => ⟨middle, rfl, ran⟩
    · rintro ⟨_, ⟨⟩, ran⟩
      exact ran

theorem check_ok {first : Except ε Unit} {next : Except ε β} {value : β} :
    (first >>= fun _ => next) = .ok value ↔ first = .ok () ∧ next = .ok value := by
  rw [bind_ok]
  exact ⟨fun ⟨_, checked, ran⟩ => ⟨checked, ran⟩, fun ⟨checked, ran⟩ => ⟨(), checked, ran⟩⟩

theorem mapError_ok {result : Except δ α} {wrap : δ → ε} {value : α} :
    result.mapError wrap = .ok value ↔ result = .ok value := by
  cases result with
  | error error => exact ⟨nofun, nofun⟩
  | ok =>
    constructor
    · intro same
      exact congrArg _ (Except.ok.inj same)
    · intro same
      exact congrArg _ (Except.ok.inj same)

end Meshquill.Checks
