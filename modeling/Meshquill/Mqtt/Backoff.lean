import Mathlib.Algebra.Order.Ring.Nat
import Meshquill.Checks
import Meshquill.Mqtt.Config

/-!
# Delays between attempts to connect

`ExponentialBackoff` of `backoff.rs`, and the loop of `poll_event_loop` that sleeps after a failed
poll and resets the delay when a connection is up. The delay is multiplied, saturated and clamped
at every step, and still it is the clamped power (`reconnect_delays`): the product stays within a
machine word, because both factors were checked.
-/
namespace Meshquill.Mqtt

open Checks

structure ExponentialBackoff where
  config : ReconnectConfig
  nextDelayMs : Nat

inductive BackoffError where
  | zeroInitialDelay
  | maximumBeforeInitial
  | maximumExceedsLimit (configuredMs maximumMs : Nat)
  | invalidMultiplier
deriving DecidableEq

/-- `u64::MAX`. -/
def u64Max : Nat := 0xffffffffffffffff

/-- `u64::saturating_mul`. -/
def saturatingMul (left right : Nat) : Nat := min (left * right) u64Max

namespace ExponentialBackoff

def new (config : ReconnectConfig) : Except BackoffError ExponentialBackoff :=
  if config.initialDelayMs = 0 then .error .zeroInitialDelay
  else if config.maxDelayMs < config.initialDelayMs then .error .maximumBeforeInitial
  else if config.maxDelayMs > maxReconnectDelayMs then
    .error (.maximumExceedsLimit config.maxDelayMs maxReconnectDelayMs)
  else if config.multiplier < 2 then .error .invalidMultiplier
  else .ok { config, nextDelayMs := config.initialDelayMs }

/-- The current delay in milliseconds, and the generator after it. -/
def nextDelay (backoff : ExponentialBackoff) : Nat × ExponentialBackoff :=
  (backoff.nextDelayMs, { backoff with
    nextDelayMs := min (saturatingMul backoff.nextDelayMs backoff.config.multiplier.toNat)
      backoff.config.maxDelayMs })

def reset (backoff : ExponentialBackoff) : ExponentialBackoff :=
  { backoff with nextDelayMs := backoff.config.initialDelayMs }

end ExponentialBackoff

/-! ## The loop -/

/-- What a poll of the event loop gives. The notices other than `Connected` are `ν`. -/
inductive Poll (ν : Type) where
  | connected
  | notice (other : ν)
  | nothing
  | failed

/-- What the loop does about it. -/
inductive PollEffect (ν : Type) where
  | connected
  | disconnected
  | notice (other : ν)
  | sleep (delayMs : Nat)

/-- The variables of `poll_event_loop`. -/
structure PollState where
  backoff : ExponentialBackoff
  connected : Bool

namespace PollState

variable {ν : Type}

def step (state : PollState) : Poll ν → List (PollEffect ν) × PollState
  | .connected => ([.connected], { backoff := state.backoff.reset, connected := true })
  | .notice other => ([.notice other], state)
  | .nothing => ([], state)
  | .failed =>
    let (delay, backoff) := state.backoff.nextDelay
    ((if state.connected then [.disconnected] else []) ++ [.sleep delay],
      { backoff, connected := false })

/-- The loop until it is cancelled. -/
def pollEventLoop (state : PollState) : List (Poll ν) → List (PollEffect ν) × PollState
  | [] => ([], state)
  | poll :: later =>
    let (effects, next) := state.step poll
    let (others, last) := next.pollEventLoop later
    (effects ++ others, last)

end PollState

/-! ## The delays -/

variable {ν : Type}

/-- The failures since the last connection, after so many of them before. -/
def failuresSince (count : Nat) : List (Poll ν) → Nat
  | [] => count
  | .connected :: later => failuresSince 0 later
  | .failed :: later => failuresSince (count + 1) later
  | _ :: later => failuresSince count later

/-- The delay after so many failures. -/
def ReconnectConfig.delay (config : ReconnectConfig) (failures : Nat) : Nat :=
  min config.maxDelayMs (config.initialDelayMs * config.multiplier.toNat ^ failures)

/-- The arithmetic that the checks allow. -/
structure ReconnectConfig.Bounded (config : ReconnectConfig) : Prop where
  positive : config.initialDelayMs ≠ 0
  ordered : config.initialDelayMs ≤ config.maxDelayMs
  limited : config.maxDelayMs ≤ maxReconnectDelayMs
  grows : 2 ≤ config.multiplier

variable {config : ReconnectConfig}

theorem validateReconnect_ok : validateReconnect config = .ok () ↔ config.Bounded := by
  simp only [validateReconnect, check_ok, require_ok]
  exact ⟨fun ⟨positive, ordered, limited, grows⟩ => ⟨positive, ordered, limited, grows⟩,
    fun ⟨positive, ordered, limited, grows⟩ => ⟨positive, ordered, limited, grows⟩⟩

namespace ReconnectConfig.Bounded

variable (bounded : config.Bounded)

include bounded

theorem multiplier_pos : 1 ≤ config.multiplier.toNat := by
  have grows : (2 : UInt32).toNat ≤ config.multiplier.toNat := bounded.grows
  exact Nat.le_trans (by decide) grows

theorem new_ok :
    ExponentialBackoff.new config = .ok { config, nextDelayMs := config.initialDelayMs } := by
  have grows : ¬ config.multiplier < 2 := UInt32.not_lt.mpr bounded.grows
  rw [ExponentialBackoff.new, if_neg bounded.positive, if_neg (Nat.not_lt.mpr bounded.ordered),
    if_neg (Nat.not_lt.mpr bounded.limited), if_neg grows]

theorem delay_zero : config.delay 0 = config.initialDelayMs := by
  rw [delay, Nat.pow_zero, Nat.mul_one, Nat.min_eq_right bounded.ordered]

/-- The product of a delay and the multiplier is a `u64`. -/
theorem delay_mul_lt (failures : Nat) :
    config.delay failures * config.multiplier.toNat ≤ u64Max := by
  have small : config.delay failures ≤ maxReconnectDelayMs :=
    Nat.le_trans (Nat.min_le_left _ _) bounded.limited
  have narrow : config.multiplier.toNat ≤ 0xffffffff := Nat.le_of_lt_succ config.multiplier.toNat_lt
  exact Nat.le_trans (Nat.mul_le_mul small narrow) (by decide)

/-- One more failure. -/
theorem delay_succ (failures : Nat) :
    min (saturatingMul (config.delay failures) config.multiplier.toNat) config.maxDelayMs =
      config.delay (failures + 1) := by
  have once := bounded.multiplier_pos
  rw [saturatingMul, Nat.min_eq_left (bounded.delay_mul_lt failures), delay, delay, Nat.pow_succ,
    ← Nat.mul_assoc, Nat.min_comm]
  generalize config.initialDelayMs * config.multiplier.toNat ^ failures = power
  -- Once the maximum is reached, its multiples are not below it.
  rcases Nat.le_total config.maxDelayMs power with above | below
  · have larger : config.maxDelayMs ≤ power * config.multiplier.toNat :=
      Nat.le_trans above (Nat.le_mul_of_pos_right _ once)
    rw [Nat.min_eq_left above, Nat.min_eq_left larger]
    exact Nat.min_eq_left (Nat.le_mul_of_pos_right _ once)
  · rw [Nat.min_eq_right below]

theorem delay_mono {fewer more : Nat} (ordered : fewer ≤ more) :
    config.delay fewer ≤ config.delay more := by
  have grows := Nat.pow_le_pow_right bounded.multiplier_pos ordered
  have larger := Nat.mul_le_mul_left config.initialDelayMs grows
  rw [delay, delay]
  omega

theorem initial_le_delay (failures : Nat) : config.initialDelayMs ≤ config.delay failures := by
  rw [← bounded.delay_zero]
  exact bounded.delay_mono (Nat.zero_le failures)

/-- One poll keeps the generator at the delay for the failures so far. -/
theorem step_delay {state : PollState} {count : Nat}
    (here : state.backoff = ⟨config, config.delay count⟩) (poll : Poll ν) :
    (state.step poll).2.backoff = ⟨config, config.delay (failuresSince count [poll])⟩ := by
  cases poll with
  | connected =>
    rw [failuresSince, failuresSince, bounded.delay_zero]
    simp only [PollState.step, ExponentialBackoff.reset, here]
  | failed =>
    rw [failuresSince, failuresSince, ← bounded.delay_succ]
    simp only [PollState.step, ExponentialBackoff.nextDelay, here]
  | notice | nothing => exact here

theorem loop_delay {state : PollState} {count : Nat}
    (here : state.backoff = ⟨config, config.delay count⟩) (polls : List (Poll ν)) :
    (state.pollEventLoop polls).2.backoff = ⟨config, config.delay (failuresSince count polls)⟩ := by
  induction polls generalizing state count with
  | nil => exact here
  | cons poll later ih =>
    have next := ih (bounded.step_delay here poll)
    cases poll <;> exact next

end ReconnectConfig.Bounded

theorem failuresSince_append (count : Nat) (polls later : List (Poll ν)) :
    failuresSince count (polls ++ later) = failuresSince (failuresSince count polls) later := by
  induction polls generalizing count with
  | nil => rfl
  | cons poll rest ih => cases poll <;> exact ih _

/-- Between connections failures are only added. -/
theorem le_failuresSince {later : List (Poll ν)} (count : Nat) (lost : .connected ∉ later) :
    count ≤ failuresSince count later := by
  induction later generalizing count with
  | nil => exact Nat.le_refl _
  | cons poll rest ih =>
    have others := fun inside => lost (List.mem_cons_of_mem _ inside)
    cases poll with
    | connected => exact absurd List.mem_cons_self lost
    | failed => exact Nat.le_trans (Nat.le_succ count) (ih _ others)
    | notice | nothing => exact ih _ others

/-- For a configuration that was accepted: whatever polls the loop has seen, the next failure
sleeps for the initial delay times the multiplier to the number of failures since the last
connection, but at most the maximum. No product leaves the machine word, and until the next
connection the delays do not decrease. -/
theorem reconnect_delays (accepted : validateReconnect config = .ok ()) :
    ∃ backoff, ExponentialBackoff.new config = .ok backoff ∧
      ∀ polls : List (Poll ν),
        let reached := (PollState.pollEventLoop ⟨backoff, false⟩ polls).2
        let delay := min config.maxDelayMs
          (config.initialDelayMs * config.multiplier.toNat ^ failuresSince 0 polls)
        (∃ notices, (reached.step .failed : List (PollEffect ν) × PollState).1 =
          notices ++ [.sleep delay] ∧ ∀ delayMs, .sleep delayMs ∉ notices) ∧
        delay * config.multiplier.toNat ≤ u64Max ∧
        config.initialDelayMs ≤ delay ∧ delay ≤ config.maxDelayMs ∧
        ∀ later : List (Poll ν), .connected ∉ later → delay ≤
          (PollState.pollEventLoop ⟨backoff, false⟩ (polls ++ later)).2.backoff.nextDelay.1 := by
  have bounded := validateReconnect_ok.mp accepted
  refine ⟨_, bounded.new_ok, fun polls => ?_⟩
  have start : (⟨⟨config, config.initialDelayMs⟩, false⟩ : PollState).backoff =
      ⟨config, config.delay 0⟩ := by rw [bounded.delay_zero]
  have reached := bounded.loop_delay start polls
  refine ⟨?_, bounded.delay_mul_lt _, bounded.initial_le_delay _, Nat.min_le_left _ _, ?_⟩
  · refine ⟨_, by simp only [PollState.step, ExponentialBackoff.nextDelay, reached]; rfl, ?_⟩
    intro delayMs inside
    split at inside <;> simp at inside
  · intro later lost
    have next := bounded.loop_delay start (polls ++ later)
    rw [ExponentialBackoff.nextDelay, next, failuresSince_append]
    exact bounded.delay_mono (le_failuresSince _ lost)

theorem default_reconnect_delays :
    ∃ backoff, ExponentialBackoff.new {} = .ok backoff ∧
      ∃ notices : List (PollEffect Unit),
        ((PollState.pollEventLoop ⟨backoff, false⟩
          ([.failed, .nothing, .failed] : List (Poll Unit))).2.step .failed).1 =
          notices ++ [.sleep 1000] := by
  obtain ⟨backoff, made, delays⟩ := @reconnect_delays Unit {} rfl
  obtain ⟨⟨notices, slept, -⟩, -⟩ := delays [.failed, .nothing, .failed]
  exact ⟨backoff, made, notices, slept⟩

end Meshquill.Mqtt
