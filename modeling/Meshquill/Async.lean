import Mathlib.Logic.Relation

/-!
# Cancellable computations over an explicit state

A computation runs against a state and always returns the state it has reached,
whether it completes, fails with an error, or is dropped while suspended. Being
dropped is how an abandoned future ends: its caller never sees a value, but every
update made before the suspension point stays.

Loops take their bound from a measure of the state, so that each definition is
structurally recursive. `loop_unfold` shows that the bound is never the reason a
loop stops, provided one round of the body that asks for another decreases the
measure. The rules of `Spec` are for partial correctness: a relation between the
initial and the reached state holds however the computation ends, a postcondition
holds only of values it returns.

Nothing here names a particular program.
-/
namespace Meshquill

/-- How a computation leaves its caller. -/
inductive Exit (ε α : Type) where
  | done (value : α)
  | failed (error : ε)
  | dropped
deriving DecidableEq

/-- The exit of a computation that ends with this result. -/
def Exit.of {ε α : Type} : Except ε α → Exit ε α
  | .ok value => .done value
  | .error error => .failed error

/-- A computation with errors `ε` over states `σ`. -/
def Async (ε σ α : Type) : Type := σ → Exit ε α × σ

namespace Async

variable {ε σ α β : Type}

/-- Return a value without touching the state. -/
protected def pure (value : α) : Async ε σ α := fun state => (.done value, state)

/-- Continue with a completed value; an error or a drop ends the whole computation
in the state it was reached in. -/
protected def bind (first : Async ε σ α) (next : α → Async ε σ β) : Async ε σ β :=
  fun state =>
    match first state with
    | (.done value, reached) => next value reached
    | (.failed error, reached) => (.failed error, reached)
    | (.dropped, reached) => (.dropped, reached)

instance : Monad (Async ε σ) where
  pure := Async.pure
  bind := Async.bind

/-- End with an error. -/
def fail (error : ε) : Async ε σ α := fun state => (.failed error, state)

/-- Suspend for ever: the caller drops the computation here. -/
def drop : Async ε σ α := fun state => (.dropped, state)

/-- Read the state. -/
def get : Async ε σ σ := fun state => (.done state, state)

/-- Update the state. -/
def modify (update : σ → σ) : Async ε σ Unit := fun state => (.done (), update state)

/-- Turn a result into a completion or an error, as the `?` operator does. -/
def ofExcept : Except ε α → Async ε σ α
  | .ok value => Async.pure value
  | .error error => fail error

/-- End this way at once. -/
def exit (exit : Exit ε α) : Async ε σ α := fun state => (exit, state)

/-- Observe the result of a computation instead of propagating its error. A drop is
not a result and still ends the caller. -/
def attempt (body : Async ε σ α) : Async ε σ (Except ε α) :=
  fun state =>
    match body state with
    | (.done value, reached) => (.done (.ok value), reached)
    | (.failed error, reached) => (.done (.error error), reached)
    | (.dropped, reached) => (.dropped, reached)

/-- Report an error as another one. -/
def mapError {ε' : Type} (change : ε → ε') (body : Async ε σ α) : Async ε' σ α :=
  fun state =>
    match body state with
    | (.done value, reached) => (.done value, reached)
    | (.failed error, reached) => (.failed (change error), reached)
    | (.dropped, reached) => (.dropped, reached)

/-- At most `fuel` rounds of a loop body. A round returns either the next loop state
or the value the loop ends with. -/
def rounds (body : β → Async ε σ (β ⊕ α)) : Nat → β → Async ε σ α
  | 0, _ => drop
  | fuel + 1, carried =>
    Async.bind (body carried) fun
      | .inl next => rounds body fuel next
      | .inr value => Async.pure value

/-- An unbounded loop, bounded by one more than the measure of its starting state. -/
def loop (measure : σ → Nat) (body : β → Async ε σ (β ⊕ α)) (carried : β) : Async ε σ α :=
  fun state => rounds body (measure state + 1) carried state

/-! ## Evaluation -/

@[simp] theorem pure_apply (value : α) (state : σ) :
    (pure value : Async ε σ α) state = (.done value, state) := rfl

@[simp] theorem bind_apply (first : Async ε σ α) (next : α → Async ε σ β) (state : σ) :
    (first >>= next) state =
      match first state with
      | (.done value, reached) => next value reached
      | (.failed error, reached) => (.failed error, reached)
      | (.dropped, reached) => (.dropped, reached) := rfl

@[simp] theorem map_apply (change : α → β) (first : Async ε σ α) (state : σ) :
    (change <$> first) state =
      match first state with
      | (.done value, reached) => (.done (change value), reached)
      | (.failed error, reached) => (.failed error, reached)
      | (.dropped, reached) => (.dropped, reached) := rfl

@[simp] theorem fail_apply (error : ε) (state : σ) :
    (fail error : Async ε σ α) state = (.failed error, state) := rfl

@[simp] theorem drop_apply (state : σ) :
    (drop : Async ε σ α) state = (.dropped, state) := rfl

@[simp] theorem get_apply (state : σ) : (get : Async ε σ σ) state = (.done state, state) := rfl

@[simp] theorem modify_apply (update : σ → σ) (state : σ) :
    (modify update : Async ε σ Unit) state = (.done (), update state) := rfl

@[simp] theorem ofExcept_ok (value : α) (state : σ) :
    (ofExcept (.ok value) : Async ε σ α) state = (.done value, state) := rfl

@[simp] theorem ofExcept_error (error : ε) (state : σ) :
    (ofExcept (.error error) : Async ε σ α) state = (.failed error, state) := rfl

variable {first : Async ε σ α} {next : α → Async ε σ β}

/-- A sequence returns what its second part returns, from where its first part has returned. -/
theorem bind_done {state reached : σ} {value : β}
    (ended : (first >>= next) state = (.done value, reached)) :
    ∃ middle between, first state = (.done middle, between) ∧
      next middle between = (.done value, reached) := by
  rw [bind_apply] at ended
  rcases ran : first state with ⟨middle | error | _, between⟩
  all_goals rw [ran] at ended
  · exact ⟨middle, between, rfl, ended⟩
  · cases ended
  · cases ended

/-- A continuation that only computes its result changes nothing else. -/
theorem bind_reaches (still : ∀ value state, (next value state).2 = state) (state : σ) :
    ((first >>= next) state).2 = (first state).2 := by
  rw [bind_apply]
  rcases first state with ⟨value | _ | _, reached⟩
  · exact still value reached
  · rfl
  · rfl

/-- Discarding the value changes nothing else. -/
theorem discard_reaches (body : Async ε σ α) (state : σ) :
    ((discard body : Async ε σ Unit) state).2 = (body state).2 :=
  bind_reaches (fun _ _ => rfl) state

theorem ofExcept_eq_exit (result : Except ε α) :
    (ofExcept result : Async ε σ α) = exit (Exit.of result) := by
  cases result <;> rfl

instance : LawfulMonad (Async ε σ) :=
  LawfulMonad.mk' _
    (fun first => by
      funext state
      simp only [map_apply, id]
      rcases first state with ⟨_ | _ | _, _⟩ <;> rfl)
    (fun _ _ => rfl)
    (fun first next last => by
      funext state
      simp only [bind_apply]
      rcases first state with ⟨_ | _ | _, _⟩ <;> rfl)

/-- A body whose every further round decreases the measure. -/
def Decreases (measure : σ → Nat) (body : β → Async ε σ (β ⊕ α)) : Prop :=
  ∀ carried state next reached,
    body carried state = (.done (.inl next), reached) → measure reached < measure state

/-- Once the fuel exceeds the measure, its exact amount does not matter.

Induct on one of the two amounts. A round that ends the loop ignores the rest of the
fuel; a round that asks for another has decreased the measure, so the smaller amounts
left still exceed it. -/
theorem rounds_stable (measure : σ → Nat) (body : β → Async ε σ (β ⊕ α))
    (decreases : Decreases measure body) (fuel other : Nat) (carried : β) (state : σ)
    (enough : measure state < fuel) (alsoEnough : measure state < other) :
    rounds body fuel carried state = rounds body other carried state := by
  induction fuel generalizing other carried state with
  | zero => omega
  | succ fuel ih =>
    cases other with
    | zero => omega
    | succ other =>
      simp only [rounds, Async.bind]
      cases ran : body carried state with
      | mk exit reached =>
        cases exit with
        | failed | dropped => rfl
        | done result =>
          cases result with
          | inr value => rfl
          | inl next =>
            have smaller : measure reached < measure state :=
              decreases carried state next reached ran
            exact ih other next reached (by omega) (by omega)

/-- A loop is its body followed by the loop again, exactly as written in a source
language with unbounded loops. -/
theorem loop_unfold (measure : σ → Nat) (body : β → Async ε σ (β ⊕ α))
    (decreases : Decreases measure body) (carried : β) (state : σ) :
    loop measure body carried state =
      (body carried >>= fun
        | .inl next => loop measure body next
        | .inr value => pure value) state := by
  simp only [loop, rounds, Async.bind, bind_apply]
  cases ran : body carried state with
  | mk exit reached =>
    cases exit with
    | failed | dropped => rfl
    | done result =>
      cases result with
      | inr value => rfl
      | inl next =>
        have smaller : measure reached < measure state := decreases carried state next reached ran
        exact rounds_stable measure body decreases _ _ next reached smaller (by omega)

section Spending

variable (measure : σ → Nat)

/-- A value is only returned at a smaller measure. -/
def Spends (body : Async ε σ α) : Prop :=
  ∀ state value reached, body state = (.done value, reached) → measure reached < measure state

/-- The measure never grows. -/
def Keeps (body : Async ε σ α) : Prop := ∀ state, measure (body state).2 ≤ measure state

theorem keeps_pure (value : α) : Keeps measure (pure value : Async ε σ α) :=
  fun _ => Nat.le_refl _

theorem keeps_fail (error : ε) : Keeps measure (fail error : Async ε σ α) :=
  fun _ => Nat.le_refl _

variable {first : Async ε σ α} {next : α → Async ε σ β}

theorem keeps_bind (head : Keeps measure first) (tail : ∀ value, Keeps measure (next value)) :
    Keeps measure (first >>= next) := by
  intro state
  have moved := head state
  simp only [bind_apply]
  rcases ran : first state with ⟨_ | _ | _, reached⟩
  all_goals rw [ran] at moved
  · exact Nat.le_trans (tail _ reached) moved
  · exact moved
  · exact moved

/-- Spending first and keeping afterwards is spending. -/
theorem spends_bind (head : Spends measure first) (tail : ∀ value, Keeps measure (next value)) :
    Spends measure (first >>= next) := by
  intro state value reached ended
  simp only [bind_apply] at ended
  rcases ran : first state with ⟨produced | _ | _, middle⟩
  all_goals rw [ran] at ended
  · have kept := tail produced middle
    rw [show next produced middle = (.done value, reached) from ended] at kept
    exact Nat.lt_of_le_of_lt kept (head state produced middle ran)
  · cases ended
  · cases ended

theorem decreases_of_spends {body : β → Async ε σ (β ⊕ α)}
    (spends : ∀ carried, Spends measure (body carried)) : Decreases measure body :=
  fun carried state next reached ended => spends carried state (.inl next) reached ended

end Spending

/-! ## Partial correctness -/

/-- From a state satisfying `before`, the computation moves along `moves` however it
ends, and a value it returns satisfies `after` in the reached state. -/
def Spec (before : σ → Prop) (body : Async ε σ α) (moves : σ → σ → Prop)
    (after : α → σ → Prop) : Prop :=
  ∀ state, before state →
    moves state (body state).2 ∧ ∀ value, (body state).1 = .done value → after value (body state).2

section Rules

variable {moves : σ → σ → Prop} {before : σ → Prop} {after : α → σ → Prop}

theorem Spec.weaken {weaker : σ → Prop} {stronger : α → σ → Prop} {body : Async ε σ α}
    (spec : Spec weaker body moves stronger) (entry : ∀ state, before state → weaker state)
    (leave : ∀ value state, stronger value state → after value state) :
    Spec before body moves after := by
  intro state holds
  obtain ⟨moved, returned⟩ := spec state (entry state holds)
  exact ⟨moved, fun value ended => leave value _ (returned value ended)⟩

theorem spec_pure (reflexive : ∀ state, moves state state) (value : α)
    (ready : ∀ state, before state → after value state) :
    Spec before (pure value : Async ε σ α) moves after := by
  intro state holds
  refine ⟨reflexive state, ?_⟩
  intro returned same
  obtain rfl : value = returned := by simpa using same
  exact ready state holds

theorem spec_fail (reflexive : ∀ state, moves state state) (error : ε) :
    Spec before (fail error : Async ε σ α) moves after := by
  intro state _
  exact ⟨reflexive state, by simp⟩

theorem spec_drop (reflexive : ∀ state, moves state state) :
    Spec before (drop : Async ε σ α) moves after := by
  intro state _
  exact ⟨reflexive state, by simp⟩

/-- Sequencing. The relation must compose, and the first part's postcondition is what
the second part starts from. -/
theorem spec_bind (transitive : ∀ s t u, moves s t → moves t u → moves s u)
    {first : Async ε σ α} {next : α → Async ε σ β} {middle : α → σ → Prop}
    {final : β → σ → Prop} (head : Spec before first moves middle)
    (tail : ∀ value, Spec (middle value) (next value) moves final) :
    Spec before (first >>= next) moves final := by
  intro state holds
  obtain ⟨moved, returned⟩ := head state holds
  simp only [bind_apply]
  cases ran : first state with
  | mk exit reached =>
    rw [ran] at moved returned
    cases exit with
    | failed | dropped => exact ⟨moved, by simp⟩
    | done value =>
      obtain ⟨onward, ended⟩ := tail value reached (returned value rfl)
      exact ⟨transitive _ _ _ moved onward, ended⟩

/-- An observed result: the postcondition for a value, nothing for an error. -/
theorem spec_attempt {body : Async ε σ α} (spec : Spec before body moves after) :
    Spec before (attempt body) moves
      (fun result state => ∀ value, result = .ok value → after value state) := by
  intro state holds
  obtain ⟨moved, returned⟩ := spec state holds
  simp only [attempt]
  cases ran : body state with
  | mk exit reached =>
    rw [ran] at moved returned
    cases exit with
    | failed error =>
      refine ⟨moved, ?_⟩
      intro result same value isValue
      simp only [Exit.done.injEq] at same
      simp [← same] at isValue
    | dropped => exact ⟨moved, by simp⟩
    | done produced =>
      refine ⟨moved, ?_⟩
      intro result same value isValue
      simp only [Exit.done.injEq] at same
      obtain rfl : produced = value := by simpa [← same] using isValue
      exact returned produced rfl

/-- A loop keeps its invariant from round to round and ends with the body's final
postcondition. Running out of fuel is a drop, which promises nothing. -/
theorem spec_loop (reflexive : ∀ state, moves state state)
    (transitive : ∀ s t u, moves s t → moves t u → moves s u) (measure : σ → Nat)
    {body : β → Async ε σ (β ⊕ α)} {invariant : β → σ → Prop}
    (round : ∀ carried, Spec (invariant carried) (body carried) moves
      (fun result state => match result with
        | .inl next => invariant next state
        | .inr value => after value state)) (carried : β) :
    Spec (invariant carried) (loop measure body carried) moves after := by
  have bounded (fuel : Nat) : ∀ carried,
      Spec (invariant carried) (rounds body fuel carried) moves after := by
    induction fuel with
    | zero => intro carried; exact spec_drop reflexive
    | succ fuel ih =>
      intro carried
      refine spec_bind transitive (round carried) ?_
      intro result
      cases result with
      | inl next => exact ih next
      | inr value => exact spec_pure reflexive value (fun _ ended => ended)
  intro state holds
  exact bounded (measure state + 1) carried state holds

end Rules

/-! ## Moves only -/

section Moves

variable {moves : σ → σ → Prop}

/-- The computation moves along the relation, however it ends. -/
def Moves (moves : σ → σ → Prop) (body : Async ε σ α) : Prop :=
  ∀ state, moves state (body state).2

theorem moves_iff {body : Async ε σ α} :
    Moves moves body ↔ Spec (fun _ => True) body moves (fun _ _ => True) :=
  ⟨fun along state _ => ⟨along state, fun _ _ => trivial⟩, fun spec state => (spec state trivial).1⟩

theorem moves_bind (transitive : ∀ s t u, moves s t → moves t u → moves s u)
    {first : Async ε σ α} {next : α → Async ε σ β} (head : Moves moves first)
    (tail : ∀ value, Moves moves (next value)) : Moves moves (first >>= next) :=
  moves_iff.mpr (spec_bind transitive (moves_iff.mp head) fun value => moves_iff.mp (tail value))

theorem moves_attempt {body : Async ε σ α} (along : Moves moves body) :
    Moves moves (attempt body) :=
  moves_iff.mpr ((spec_attempt (moves_iff.mp along)).weaken (fun _ holds => holds)
    fun _ _ _ => trivial)

theorem moves_loop (reflexive : ∀ state, moves state state)
    (transitive : ∀ s t u, moves s t → moves t u → moves s u) (measure : σ → Nat)
    {body : β → Async ε σ (β ⊕ α)} (round : ∀ carried, Moves moves (body carried)) (carried : β) :
    Moves moves (loop measure body carried) := by
  let anywhere (_ : β) (_ : σ) : Prop := True
  have spec : Spec (anywhere carried) (loop measure body carried) moves (fun _ _ => True) := by
    refine spec_loop reflexive transitive measure (fun carried => ?_) carried
    refine (moves_iff.mp (round carried)).weaken (fun _ holds => holds) fun result _ _ => ?_
    cases result <;> trivial
  exact moves_iff.mpr spec

end Moves

/-! ## Every way to end -/

section Outcome

variable {before : σ → Prop} {done : α → σ → Prop} {failed : ε → σ → Prop} {dropped : σ → Prop}

/-- From a state satisfying `before`: what holds after a value, an error and a drop. -/
def Outcome (before : σ → Prop) (body : Async ε σ α) (done : α → σ → Prop)
    (failed : ε → σ → Prop) (dropped : σ → Prop) : Prop :=
  ∀ state, before state →
    match body state with
    | (.done value, reached) => done value reached
    | (.failed error, reached) => failed error reached
    | (.dropped, reached) => dropped reached

theorem Outcome.weaken {weaker : σ → Prop} {stronger : α → σ → Prop} {body : Async ε σ α}
    (outcome : Outcome weaker body stronger failed dropped)
    (entry : ∀ state, before state → weaker state)
    (leave : ∀ value state, stronger value state → done value state) :
    Outcome before body done failed dropped := by
  intro state holds
  have ended := outcome state (entry state holds)
  rcases ran : body state with ⟨value | error | _, reached⟩
  all_goals rw [ran] at ended
  · exact leave value reached ended
  · exact ended
  · exact ended

theorem Outcome.mono {body : Async ε σ α} {returned : α → σ → Prop} {erred : ε → σ → Prop}
    {left : σ → Prop} (outcome : Outcome before body done failed dropped)
    (values : ∀ value state, done value state → returned value state)
    (errors : ∀ error state, failed error state → erred error state)
    (drops : ∀ state, dropped state → left state) : Outcome before body returned erred left := by
  intro state holds
  have ended := outcome state holds
  rcases ran : body state with ⟨value | error | _, reached⟩
  all_goals rw [ran] at ended
  · exact values value reached ended
  · exact errors error reached ended
  · exact drops reached ended

theorem outcome_pure (value : α) (ready : ∀ state, before state → done value state) :
    Outcome before (pure value : Async ε σ α) done failed dropped := ready

theorem outcome_fail (error : ε) (ready : ∀ state, before state → failed error state) :
    Outcome before (fail error : Async ε σ α) done failed dropped := ready

theorem outcome_bind {first : Async ε σ α} {next : α → Async ε σ β} {middle : α → σ → Prop}
    {final : β → σ → Prop} (head : Outcome before first middle failed dropped)
    (tail : ∀ value, Outcome (middle value) (next value) final failed dropped) :
    Outcome before (first >>= next) final failed dropped := by
  intro state holds
  have ended := head state holds
  simp only [bind_apply]
  rcases ran : first state with ⟨value | error | _, reached⟩
  all_goals rw [ran] at ended
  · exact tail value reached ended
  · exact ended
  · exact ended

theorem outcome_attempt {body : Async ε σ α} {erred : ε → σ → Prop}
    (outcome : Outcome before body done erred dropped) :
    Outcome before (attempt body)
      (fun result state => match result with
        | .ok value => done value state
        | .error error => erred error state) failed dropped := by
  intro state holds
  have ended := outcome state holds
  simp only [attempt]
  rcases ran : body state with ⟨value | error | _, reached⟩
  all_goals rw [ran] at ended; exact ended

/-- A loop keeps its invariant from round to round. Running out of fuel is a drop. -/
theorem outcome_loop (measure : σ → Nat) {body : β → Async ε σ (β ⊕ α)}
    {invariant : β → σ → Prop} (stops : ∀ carried state, invariant carried state → dropped state)
    (round : ∀ carried, Outcome (invariant carried) (body carried)
      (fun result state => match result with
        | .inl next => invariant next state
        | .inr value => done value state) failed dropped) (carried : β) :
    Outcome (invariant carried) (loop measure body carried) done failed dropped := by
  have bounded (fuel : Nat) : ∀ carried,
      Outcome (invariant carried) (rounds body fuel carried) done failed dropped := by
    induction fuel with
    | zero => exact fun carried => stops carried
    | succ fuel ih =>
      refine fun carried => outcome_bind (round carried) fun result => ?_
      cases result with
      | inl next => exact ih next
      | inr value => exact outcome_pure value fun _ ended => ended
  exact fun state holds => bounded (measure state + 1) carried state holds

end Outcome

/-! ## Returned values only -/

section Returns

variable {before : σ → Prop} {after : α → σ → Prop}

/-- What a value says about the state it is returned in. -/
def Returns (before : σ → Prop) (body : Async ε σ α) (after : α → σ → Prop) : Prop :=
  ∀ state, before state → ∀ value, (body state).1 = .done value → after value (body state).2

theorem returns_iff {body : Async ε σ α} :
    Returns before body after ↔ Spec before body (fun _ _ => True) after :=
  forall₂_congr fun _ _ => (iff_of_eq (true_and _)).symm

theorem returns_pure (value : α) (ready : ∀ state, before state → after value state) :
    Returns before (pure value : Async ε σ α) after :=
  returns_iff.mpr (spec_pure (fun _ => trivial) value ready)

theorem returns_fail (error : ε) : Returns before (fail error : Async ε σ α) after :=
  returns_iff.mpr (spec_fail (fun _ => trivial) error)

variable {first : Async ε σ α} {next : α → Async ε σ β} {final : β → σ → Prop}

theorem returns_bind {middle : α → σ → Prop} (head : Returns before first middle)
    (tail : ∀ value, Returns (middle value) (next value) final) :
    Returns before (first >>= next) final :=
  returns_iff.mpr (spec_bind (fun _ _ _ _ _ => trivial) (returns_iff.mp head)
    fun value => returns_iff.mp (tail value))

/-- Whatever the first part returns, the second part has to establish the condition. -/
theorem returns_then (tail : ∀ value, Returns (fun _ => True) (next value) final) :
    Returns before (first >>= next) final :=
  returns_bind (fun _ _ _ _ => trivial) tail

/-- What a check lets pass. -/
theorem returns_checked {result : Except ε α}
    (tail : ∀ value, result = .ok value → Returns before (next value) final) :
    Returns before (ofExcept result >>= next) final := by
  cases result with
  | ok value => exact tail value rfl
  | error error =>
    intro _ _ _ ended
    cases ended

theorem returns_attempt {body : Async ε σ α} (returns : Returns before body after) :
    Returns before (attempt body)
      (fun result state => ∀ value, result = .ok value → after value state) :=
  returns_iff.mpr (spec_attempt (returns_iff.mp returns))

/-- A loop returns only from its last round. -/
theorem returns_loop (measure : σ → Nat) {body : β → Async ε σ (β ⊕ α)}
    (round : ∀ carried, Returns (fun _ => True) (body carried)
      (fun result state => match result with
        | .inl _ => True
        | .inr value => after value state)) (carried : β) :
    Returns (fun _ => True) (loop measure body carried) after :=
  returns_iff.mpr (spec_loop (fun _ => trivial) (fun _ _ _ _ _ => trivial) measure
    (fun carried => returns_iff.mp (round carried)) carried)

end Returns

/-! ## The rounds of a loop -/

section Visits

variable {body : β → Async ε σ (β ⊕ α)} {carried last : β} {state reached : σ}

/-- What a round of the loop is started with, and in which state. -/
inductive Visits (body : β → Async ε σ (β ⊕ α)) (carried : β) (state : σ) : β → σ → Prop
  | start : Visits body carried state carried state
  | next {middle after : β} {between reached : σ}
      (visited : Visits body carried state middle between)
      (ran : body middle between = (.done (.inl after), reached)) :
      Visits body carried state after reached

/-- What the rounds preserve holds at the start of every round. -/
theorem Visits.invariant (holds : β → σ → Prop) (initial : holds carried state)
    (round : ∀ middle between after reached, holds middle between →
      body middle between = (.done (.inl after), reached) → holds after reached)
    (visited : Visits body carried state last reached) : holds last reached := by
  induction visited with
  | start => exact initial
  | next _ ran ih => exact round _ _ _ _ ih ran

/-- A round after the first one is a round of the loop that the first one continues with. -/
theorem Visits.step {after : β} {between : σ}
    (ran : body carried state = (.done (.inl after), between))
    (visited : Visits body after between last reached) :
    Visits body carried state last reached := by
  induction visited with
  | start => exact .next .start ran
  | next _ ended ih => exact .next ih ended

/-- A loop ends with the end of one of its rounds, or before a round for want of fuel. -/
theorem loop_ends (measure : σ → Nat) (body : β → Async ε σ (β ⊕ α)) (carried : β) (state : σ) :
    ∃ last start, Visits body carried state last start ∧
      ((loop measure body carried state).2 = (body last start).2 ∨
        (loop measure body carried state).2 = start) := by
  unfold loop
  generalize measure state + 1 = fuel
  induction fuel generalizing carried state with
  | zero => exact ⟨carried, state, .start, .inr rfl⟩
  | succ fuel ih =>
    simp only [rounds, Async.bind]
    rcases ran : body carried state with ⟨(after | value) | error | _, between⟩
    · obtain ⟨last, start, visited, ended⟩ := ih after between
      exact ⟨last, start, .step ran visited, ended⟩
    · exact ⟨carried, state, .start, .inl (by rw [ran]; rfl)⟩
    · exact ⟨carried, state, .start, .inl (by rw [ran])⟩
    · exact ⟨carried, state, .start, .inl (by rw [ran])⟩

end Visits

end Async

end Meshquill
