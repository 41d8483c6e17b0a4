import Meshquill.Chat.Session
import Meshquill.Hooks.Runtime

/-!
# Rejected sends

`WorkflowServices::prepare_send` asks the `before_send` hook before a message is sent. A handler
that rejects the message can still be overruled: its answer may be lost on the way, or its reason
may not pass the checks of Rust, and under the open failure policy either of these counts as a
failed hook and lets the message through. A rejection stands exactly when the policy is closed or
the answer arrives with a reason that passes (`rejection_stands_iff`).
-/
namespace Meshquill

/-- `From<HookError>`. -/
def CliError.ofHook (error : Hooks.HookError) : CliError :=
  { status := .hook, message := error.display }

namespace Cli

open Checks Hooks

def unconvertedRejection : CliError :=
  { status := .protocol, message := "hook rejection was not converted into a typed hook error" }

def prepareSend (hookRuntime : Option HookRuntime) (destination text : String)
    (call : Subprocess) : Except CliError PreparedSend :=
  match hookRuntime with
  | none => .ok ⟨destination, text⟩
  | some runtime => do
    let outcome ← (runtime.beforeSend ⟨destination, text⟩ call).mapError CliError.ofHook
    match ← outcome.requireAllowed.mapError CliError.ofHook with
    | .modify destination text => pure ⟨destination, text⟩
    | .allow => pure ⟨destination, text⟩
    | .reject _ => .error unconvertedRejection

/-! ## Decisions -/

/-- The handler is called with the message and returns a rejection with this reason. -/
structure Rejects (runtime : HookRuntime) (input : BeforeSendInput) (call : Subprocess)
    (reason : PyString) : Prop where
  inputAccepted : runtime.validateSendInput input = .ok ()
  handedOver : handOver runtime.config call = .ok ()
  returned : ∃ fields, call.script = .returns (.dict fields) ∧
    fields.lookup "action" = some (.text (.ofText "reject")) ∧
      fields.lookup "reason" = some (.text reason)

/-- Nothing goes wrong while the output of the process is collected, its size apart. -/
structure Undisturbed (config : HookConfig) (call : Subprocess) : Prop where
  stderrFits : call.stderrBytes ≤ config.maxStderrBytes
  streams : call.readFault = none
  exited : call.exitCode = some 0
  inTime : ∀ place ∈ [Checkpoint.reading, .collected, .decoded], call.late place = false

/-- The reason is text that fits into the output of the process and passes the checks. -/
def Presentable (config : HookConfig) (reason : PyString) : Prop :=
  ∃ text, reason.encode = some text ∧
    (RunnerResponse.line (.invoked (some (.reject text)))).utf8ByteSize ≤ config.maxOutputBytes ∧
    validateModifiedString text .rejectionReason config.maxRejectionReasonBytes true = .ok ()

section Rejection

variable {runtime : HookRuntime} {input : BeforeSendInput} {call : Subprocess} {reason : PyString}

theorem Rejects.bootstrap_eq (rejects : Rejects runtime input call reason) :
    bootstrap call.script = .invoked (some (.reject reason)) := by
  obtain ⟨fields, script, action, given⟩ := rejects.returned
  rw [script, bootstrap, normalizeBeforeSend, action]
  dsimp only
  rw [if_neg (by decide), if_neg (by decide), if_pos rfl, given]

theorem deadline_ok {config : HookConfig} {place : Checkpoint} :
    deadline config call place = .ok () ↔ call.late place = false := by
  rw [deadline, ensure_ok, Bool.not_eq_true']

theorem faultless_ok {φ : Type} {fault : Option φ} {error : φ → ProcessError} :
    faultless fault error = .ok () ↔ fault = none := by
  cases fault <;> simp [faultless]

theorem undisturbed_iff {config : HookConfig} :
    Undisturbed config call ↔
      (call.stderrBytes ≤ config.maxStderrBytes ∧ call.readFault = none ∧
        call.late .reading = false ∧ call.exitCode = some 0 ∧ call.late .collected = false) ∧
        call.late .decoded = false := by
  constructor
  · intro undisturbed
    have inTime := undisturbed.inTime
    simp only [List.mem_cons, List.not_mem_nil, or_false, forall_eq_or_imp, forall_eq] at inTime
    exact ⟨⟨undisturbed.stderrFits, undisturbed.streams, inTime.1, undisturbed.exited, inTime.2.1⟩,
      inTime.2.2⟩
  · rintro ⟨⟨fits, streams, reading, exited, collected⟩, decoded⟩
    exact ⟨fits, streams, exited, by simp [reading, collected, decoded]⟩

/-- A rejection is collected when nothing disturbs the process and its reason is text that fits
into the output. -/
theorem Rejects.collect_ok (rejects : Rejects runtime input call reason)
    {response : RunnerResponse String} :
    Hooks.collect runtime.config call = .ok response ↔
      Undisturbed runtime.config call ∧ ∃ text, reason.encode = some text ∧
        (RunnerResponse.line (.invoked (some (.reject text)))).utf8ByteSize ≤
          runtime.config.maxOutputBytes ∧
        response = .invoked (some (.reject text)) := by
  rw [Hooks.collect, stdoutBytes, rejects.bootstrap_eq, RunnerResponse.encode, BeforeSendResult.encode]
  rw [check_ok, check_ok, check_ok, check_ok, check_ok, check_ok, bind_ok]
  simp only [check_ok, ensure_ok, faultless_ok, deadline_ok, decide_eq_true_eq, undisturbed_iff]
  cases encoded : reason.encode with
  | none => simp
  | some text =>
    constructor
    · rintro ⟨fits, stderr, streams, reading, exited, collected, _, ⟨⟩, decoded, ⟨⟩⟩
      exact ⟨⟨⟨stderr, streams, reading, exited, collected⟩, decoded⟩, text, rfl, fits, rfl⟩
    · rintro ⟨⟨⟨stderr, streams, reading, exited, collected⟩, decoded⟩, _, ⟨⟩, fits, rfl⟩
      exact ⟨fits, stderr, streams, reading, exited, collected, _, rfl, decoded, rfl⟩

/-- A rejection that arrives with a reason that passes is the outcome. -/
theorem Rejects.beforeSend_of_presentable (rejects : Rejects runtime input call reason)
    (undisturbed : Undisturbed runtime.config call)
    (presentable : Presentable runtime.config reason) :
    ∃ text, runtime.beforeSend input call = .ok (.reject text) := by
  obtain ⟨text, encoded, fits, passes⟩ := presentable
  have collected := rejects.collect_ok.mpr ⟨undisturbed, text, encoded, fits, rfl⟩
  have invoked : runtime.invoke call = .ok (.completed (some (.reject text))) := by
    rw [HookRuntime.invoke, rejects.handedOver, collected]
    rfl
  refine ⟨text, ?_⟩
  rw [HookRuntime.beforeSend, rejects.inputAccepted, invoked]
  dsimp only
  rw [HookRuntime.applyBeforeSendResult, passes]
  rfl

/-- Any other rejection is treated as a failure of the hook. -/
theorem Rejects.beforeSend_of_not_presentable (rejects : Rejects runtime input call reason)
    (lost : ¬ (Undisturbed runtime.config call ∧ Presentable runtime.config reason)) :
    ∃ error, runtime.beforeSend input call = runtime.applyBeforeSendFailure error := by
  rw [HookRuntime.beforeSend, rejects.inputAccepted, HookRuntime.invoke, rejects.handedOver]
  cases collected : Hooks.collect runtime.config call with
  | error error => exact ⟨error, rfl⟩
  | ok response =>
    obtain ⟨undisturbed, text, encoded, fits, rfl⟩ := rejects.collect_ok.mp collected
    cases checked : validateModifiedString text .rejectionReason
        runtime.config.maxRejectionReasonBytes true with
    | ok => exact absurd ⟨undisturbed, text, encoded, fits, checked⟩ lost
    | error error =>
      have refused : runtime.applyBeforeSendResult input (.reject text) = .error error := by
        rw [HookRuntime.applyBeforeSendResult, checked]
        rfl
      refine ⟨error, ?_⟩
      simp only [Except.bind, bind, pure, Except.pure, refused]

/-- A message is prepared only from an outcome that is not a rejection. -/
theorem beforeSend_of_prepareSend {destination text : String} {prepared : PreparedSend}
    (prepares : prepareSend (some runtime) destination text call = .ok prepared) :
    runtime.beforeSend ⟨destination, text⟩ call = .ok .allow ∨
      ∃ newDestination newText,
        runtime.beforeSend ⟨destination, text⟩ call = .ok (.modify newDestination newText) := by
  obtain ⟨outcome, hook, rest⟩ := bind_ok.mp prepares
  rw [mapError_ok] at hook
  obtain ⟨allowed, required, -⟩ := bind_ok.mp rest
  rw [mapError_ok] at required
  cases outcome with
  | allow => exact .inl hook
  | modify newDestination newText => exact .inr ⟨newDestination, newText, hook⟩
  | reject reason => cases required

end Rejection

/-- Neither the hook runtime nor the workflow lets the message through. -/
structure Stopped (runtime : HookRuntime) (input : BeforeSendInput) (call : Subprocess) :
    Prop where
  notAllowed : runtime.beforeSend input call ≠ .ok .allow
  notModified : ∀ destination text, runtime.beforeSend input call ≠ .ok (.modify destination text)
  notPrepared : ∀ prepared,
    prepareSend (some runtime) input.destination input.text call ≠ .ok prepared

theorem stopped_of_beforeSend {runtime : HookRuntime} {input : BeforeSendInput}
    {call : Subprocess} (notAllowed : runtime.beforeSend input call ≠ .ok .allow)
    (notModified : ∀ destination text,
      runtime.beforeSend input call ≠ .ok (.modify destination text)) :
    Stopped runtime input call := by
  refine ⟨notAllowed, notModified, fun prepared prepares => ?_⟩
  rcases beforeSend_of_prepareSend prepares with allowed | ⟨destination, text, modified⟩
  · exact notAllowed allowed
  · exact notModified destination text modified

/-- A runtime that lets messages through when its hook fails. -/
def lenientRuntime : HookRuntime where
  config := { script := "hooks.py", beforeSendFailure := .openPolicy }
  accepted := by decide

/-- A call whose handler rejects the message. -/
def rejectingCall (reason : PyString) : Subprocess where
  script := .returns (.dict [("action", .text (.ofText "reject")), ("reason", .text reason)])

theorem rejects_sample (reason : PyString) :
    Rejects lenientRuntime ⟨"alice", "hello"⟩ (rejectingCall reason) reason where
  inputAccepted := by decide
  handedOver := rfl
  returned := ⟨_, rfl, rfl, rfl⟩

end Cli

end Meshquill
