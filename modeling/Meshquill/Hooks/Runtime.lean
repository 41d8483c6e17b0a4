import Meshquill.Store.Entry
import Meshquill.Text

/-!
# The hook runtime

`before_send` of `meshquill-hooks`: a fresh Python process loads the user's script, calls its
handler and prints one line of JSON, which Rust reads back and validates. Both sides are here:
`bootstrap` is the fixed Python program, `beforeSend` the Rust function.

`Subprocess` says what the operating system, the clock and the script do during one call. While
the output is read the source waits for several things at once; which of two faults it reports
first is fixed here and not in the source. The texts of the errors are theirs, with the debug
name of an `io::ErrorKind` as a string.
-/
namespace Meshquill.Hooks

open Checks

/-! ## Configuration -/

inductive FailurePolicy where
  | openPolicy
  | closedPolicy
deriving DecidableEq

inductive EnvironmentPolicy where
  | clear
  | safeInherited
  | allowList (names : List String)
deriving DecidableEq

structure HookConfig where
  script : String
  timeoutMs : Nat := 5000
  maxScriptBytes : Nat := 1048576
  maxInputBytes : Nat := 1048576
  maxOutputBytes : Nat := 65536
  maxStderrBytes : Nat := 65536
  maxConcurrency : Nat := 4
  maxDestinationBytes : Nat := 4096
  maxTextBytes : Nat := 65536
  maxRejectionReasonBytes : Nat := 4096
  environment : EnvironmentPolicy := .safeInherited
  observationalFailure : FailurePolicy := .openPolicy
  beforeSendFailure : FailurePolicy := .closedPolicy
deriving DecidableEq

inductive HookEventKind where
  | onConnect
  | onDisconnect
  | onMessage
  | beforeSend
  | afterSend
  | onAck
  | onTimeout
  | onContactUpdate
  | onError
deriving DecidableEq

def HookEventKind.handlerName : HookEventKind → String
  | .onConnect => "on_connect"
  | .onDisconnect => "on_disconnect"
  | .onMessage => "on_message"
  | .beforeSend => "before_send"
  | .afterSend => "after_send"
  | .onAck => "on_ack"
  | .onTimeout => "on_timeout"
  | .onContactUpdate => "on_contact_update"
  | .onError => "on_error"

/-! ## Errors -/

inductive ValidationIssue where
  | loadFailed
  | noHandlers
  | handlerNotCallable (handler : HookEventKind)
  | invalidSignature (handler : HookEventKind)
deriving DecidableEq

inductive ConfigurationError where
  | invalidLimit (field : String)
  | invalidConcurrency
  | invalidEnvironmentName
  | scriptNotFound
  | scriptMetadata (kind : String)
  | scriptNotRegularFile
  | scriptTooLarge (actual maximum : Nat)
  | validation (issue : ValidationIssue)
deriving DecidableEq

inductive StreamKind where
  | stdin
  | stdout
  | stderr
deriving DecidableEq

inductive ProcessError where
  | spawn (kind : String)
  | missingPipe (stream : StreamKind)
  | streamIo (stream : StreamKind) (kind : String)
  | streamTask (stream : StreamKind)
  | coordinatorStopped
  | wait (kind : String)
  | unsuccessfulExit (code : Option Int) (stderrBytes : Nat)
deriving DecidableEq

inductive ModificationField where
  | destination
  | text
  | rejectionReason
deriving DecidableEq

inductive ModificationIssue where
  | empty
  | tooLarge
  | containsNul
deriving DecidableEq

inductive ProtocolError where
  | inputTooLarge (observedAtLeast maximum : Nat)
  | outputTooLarge (stream : StreamKind) (maximum : Nat)
  | malformedOutput
  | unexpectedResponse
  | handlerFailed
  | runnerRejected
  | invalidModification (field : ModificationField) (issue : ModificationIssue)
deriving DecidableEq

inductive HookError where
  | configuration (error : ConfigurationError)
  | timeout (timeoutMs : Nat)
  | rejected (reason : String)
  | process (error : ProcessError)
  | protocol (error : ProtocolError)
deriving DecidableEq

section Display

def ValidationIssue.display : ValidationIssue → String
  | .loadFailed => "hook script could not be loaded"
  | .noHandlers => "hook script defines no supported handlers"
  | .handlerNotCallable handler => "hook handler " ++ handler.handlerName ++ " is not callable"
  | .invalidSignature handler =>
    "hook handler " ++ handler.handlerName ++ " must accept exactly one positional argument"

def ConfigurationError.display : ConfigurationError → String
  | .invalidLimit field => "invalid hook configuration limit: " ++ field
  | .invalidConcurrency => "invalid hook max_concurrency value"
  | .invalidEnvironmentName => "hook environment allow-list contains an invalid variable name"
  | .scriptNotFound => "hook script does not exist"
  | .scriptMetadata kind => "could not read hook script metadata (" ++ kind ++ ")"
  | .scriptNotRegularFile => "hook script path is not a regular file"
  | .scriptTooLarge actual maximum =>
    "hook script is " ++ toString actual ++ " bytes; maximum is " ++ toString maximum ++ " bytes"
  | .validation issue => issue.display

def StreamKind.debug : StreamKind → String
  | .stdin => "Stdin"
  | .stdout => "Stdout"
  | .stderr => "Stderr"

def ProcessError.display : ProcessError → String
  | .spawn kind => "could not start configured Python executable (" ++ kind ++ ")"
  | .missingPipe stream => "Python subprocess did not expose its " ++ stream.debug ++ " pipe"
  | .streamIo stream kind => "Python subprocess " ++ stream.debug ++ " I/O failed (" ++ kind ++ ")"
  | .streamTask stream =>
    "Python subprocess " ++ stream.debug ++ " reader stopped unexpectedly"
  | .coordinatorStopped => "hook subprocess coordinator stopped unexpectedly"
  | .wait kind => "could not wait for Python subprocess (" ++ kind ++ ")"
  | .unsuccessfulExit code stderrBytes =>
    "Python subprocess exited unsuccessfully (code " ++
      code.elim "None" (fun code => "Some(" ++ toString code ++ ")") ++ ", " ++
      toString stderrBytes ++ " stderr bytes discarded)"

def ModificationField.debug : ModificationField → String
  | .destination => "Destination"
  | .text => "Text"
  | .rejectionReason => "RejectionReason"

def ModificationIssue.debug : ModificationIssue → String
  | .empty => "Empty"
  | .tooLarge => "TooLarge"
  | .containsNul => "ContainsNul"

def ProtocolError.display : ProtocolError → String
  | .inputTooLarge observedAtLeast maximum =>
    "hook protocol input exceeded its " ++ toString maximum ++
      "-byte cap (observed at least " ++ toString observedAtLeast ++ " bytes)"
  | .outputTooLarge stream maximum =>
    "hook subprocess " ++ stream.debug ++ " exceeded its " ++ toString maximum ++ "-byte cap"
  | .malformedOutput => "hook subprocess produced malformed protocol output"
  | .unexpectedResponse => "hook subprocess returned an unexpected protocol response"
  | .handlerFailed => "hook handler failed"
  | .runnerRejected => "hook bootstrap rejected protocol data"
  | .invalidModification field issue =>
    "hook modification for " ++ field.debug ++ " is invalid (" ++ issue.debug ++ ")"

/-- The digits of a fraction of a second, without zeros at their end. -/
def fraction (ms : Nat) : String :=
  if ms % 1000 = 0 then ""
  else if ms % 100 = 0 then "." ++ toString (ms % 1000 / 100)
  else if ms % 10 = 0 then "." ++ toString (ms % 1000 / 100) ++ toString (ms % 100 / 10)
  else "." ++ toString (ms % 1000 / 100) ++ toString (ms % 100 / 10) ++ toString (ms % 10)

/-- The debug form of a `Duration` of whole milliseconds. -/
def debugDuration (ms : Nat) : String :=
  if ms = 0 then "0ns"
  else if ms < 1000 then toString ms ++ "ms"
  else toString (ms / 1000) ++ fraction ms ++ "s"

def HookError.display : HookError → String
  | .configuration error => error.display
  | .timeout timeoutMs => "hook execution exceeded its " ++ debugDuration timeoutMs ++ " timeout"
  | .rejected _ => "outbound message rejected by hook"
  | .process error => error.display
  | .protocol error => error.display

end Display

/-! ## Runtimes -/

def hardMaxBytes : Nat := 67108864

def hardMaxConcurrency : Nat := 1024

/-- 24 hours. -/
def maxOperationTimeoutMs : Nat := 86400000

/-- Pass, or report the error. -/
def ensure {ε : Type} (condition : Bool) (error : ε) : Except ε Unit :=
  if condition then .ok () else .error error

theorem ensure_ok {ε : Type} {condition : Bool} {error : ε} :
    ensure condition error = .ok () ↔ condition = true := by
  cases condition <;> simp [ensure]

def validateByteLimit (field : String) (value : Nat) : Except ConfigurationError Unit :=
  ensure (0 < value && value ≤ hardMaxBytes) (.invalidLimit field)

def EnvironmentPolicy.wellNamed : EnvironmentPolicy → Bool
  | .allowList names => names.all fun name =>
      name ≠ "" && '=' ∉ name.toList && Char.ofNat 0 ∉ name.toList
  | .clear | .safeInherited => true

def validateConfig (config : HookConfig) : Except ConfigurationError Unit := do
  validateByteLimit "max_script_bytes" config.maxScriptBytes
  validateByteLimit "max_input_bytes" config.maxInputBytes
  validateByteLimit "max_output_bytes" config.maxOutputBytes
  validateByteLimit "max_stderr_bytes" config.maxStderrBytes
  validateByteLimit "max_destination_bytes" config.maxDestinationBytes
  validateByteLimit "max_text_bytes" config.maxTextBytes
  validateByteLimit "max_rejection_reason_bytes" config.maxRejectionReasonBytes
  ensure (0 < config.timeoutMs && config.timeoutMs ≤ maxOperationTimeoutMs)
    (.invalidLimit "timeout")
  ensure (0 < config.maxConcurrency && config.maxConcurrency ≤ hardMaxConcurrency)
    .invalidConcurrency
  ensure config.environment.wellNamed .invalidEnvironmentName

/-- A runtime has a configuration that `HookRuntime::new` accepts. -/
structure HookRuntime where
  config : HookConfig
  accepted : validateConfig config = .ok ()

/-- Only a valid configuration makes a runtime. -/
def HookRuntime.new (config : HookConfig) : Except HookError HookRuntime :=
  match checked : validateConfig config with
  | .ok () => .ok ⟨config, checked⟩
  | .error error => .error (.configuration error)

/-! ## The Python side -/

/-- A code point of a Python string, which may be a lone surrogate. -/
inductive PyChar where
  | scalar (value : Char)
  | surrogate (code : Fin 2048)
deriving DecidableEq

abbrev PyString := List PyChar

def PyString.ofText (text : String) : PyString := text.toList.map .scalar

/-- The characters of a string that can be written as UTF-8. -/
def PyString.scalars : PyString → Option (List Char)
  | [] => some []
  | .scalar value :: rest => (scalars rest).map (value :: ·)
  | .surrogate _ :: _ => none

def PyString.encode (text : PyString) : Option String := (PyString.scalars text).map String.ofList

/-- What a handler returns, as far as the bootstrap looks at it. -/
inductive PyValue where
  | none
  | text (text : PyString)
  | dict (fields : List (String × PyValue))
  | other

/-- A decision of `before_send`, with the strings of either side. -/
inductive BeforeSendResult (σ : Type) where
  | allow
  | modify (destination text : Option σ)
  | reject (reason : σ)
deriving DecidableEq

/-- A field to replace: absent, or a string. -/
def replacement (fields : List (String × PyValue)) (name : String) : Option (Option PyString) :=
  match fields.lookup name with
  | .none => some .none
  | some (.text text) => some (some text)
  | some _ => .none

/-- `_normalize_before_send`; without a result it raises `ValueError`. -/
def normalizeBeforeSend : PyValue → Option (BeforeSendResult PyString)
  | .none => some .allow
  | .dict fields =>
    match fields.lookup "action" with
    | some (.text action) =>
      if action = .ofText "allow" then some .allow
      else if action = .ofText "modify" then
        match replacement fields "destination", replacement fields "text" with
        | some .none, some .none => .none
        | some destination, some text => some (.modify destination text)
        | _, _ => .none
      else if action = .ofText "reject" then
        match fields.lookup "reason" with
        | some (.text reason) => some (.reject reason)
        | _ => .none
      else .none
    | _ => .none
  | .text _ | .other => .none

/-- What the bootstrap finds in the script when it is to call `before_send`. -/
inductive Script where
  | unloadable
  | notCallable (handler : HookEventKind)
  | badSignature (handler : HookEventKind)
  | withoutHandler
  | raises
  | returns (value : PyValue)

inductive RunnerFaultKind where
  | loadError
  | noHandlers
  | notCallable
  | invalidSignature
  | hookException
  | invalidResult
  | invalidRequest
  | internalError
  | unknown
deriving DecidableEq

def RunnerFaultKind.name : RunnerFaultKind → String
  | .loadError => "load_error"
  | .noHandlers => "no_handlers"
  | .notCallable => "not_callable"
  | .invalidSignature => "invalid_signature"
  | .hookException => "hook_exception"
  | .invalidResult => "invalid_result"
  | .invalidRequest => "invalid_request"
  | .internalError => "internal_error"
  | .unknown => "unknown"

inductive RunnerResponse (σ : Type) where
  | validated (handlers : List HookEventKind)
  | invoked (result : Option (BeforeSendResult σ))
  | missing
  | error (kind : RunnerFaultKind) (handler : Option HookEventKind)
deriving DecidableEq

/-- `_run` for `before_send`. -/
def bootstrap : Script → RunnerResponse PyString
  | .unloadable => .error .loadError none
  | .notCallable handler => .error .notCallable (some handler)
  | .badSignature handler => .error .invalidSignature (some handler)
  | .withoutHandler => .missing
  | .raises => .error .hookException (some .beforeSend)
  | .returns value =>
    match normalizeBeforeSend value with
    | some result => .invoked (some result)
    | none => .error .invalidResult (some .beforeSend)

/-- A replaced string that can be written, or no replacement. -/
def encodeReplacement : Option PyString → Option (Option String)
  | none => some none
  | some text => text.encode.map some

def BeforeSendResult.encode : BeforeSendResult PyString → Option (BeforeSendResult String)
  | .allow => some .allow
  | .modify destination text =>
    match encodeReplacement destination, encodeReplacement text with
    | some destination, some text => some (.modify destination text)
    | _, _ => none
  | .reject reason => reason.encode.map .reject

/-- The response that reaches the other side; `json.dump` fails on a string that cannot be
written. -/
def RunnerResponse.encode : RunnerResponse PyString → Option (RunnerResponse String)
  | .validated handlers => some (.validated handlers)
  | .invoked none => some (.invoked none)
  | .invoked (some result) => result.encode.map fun result => .invoked (some result)
  | .missing => some .missing
  | .error kind handler => some (.error kind handler)

/-- A string literal of `json.dump` with `ensure_ascii=False`; it has the escapes of
`serde_json`. -/
def literal (text : String) : String := "\"" ++ Store.escapeText text ++ "\""

def memberText (name : String) (value : Option String) : String :=
  value.elim "" fun value => "," ++ literal name ++ ":" ++ literal value

def BeforeSendResult.json : BeforeSendResult String → String
  | .allow => "\x7b\"action\":\"allow\"\x7d"
  | .modify destination text =>
    "\x7b\"action\":\"modify\"" ++ memberText "destination" destination ++
      memberText "text" text ++ "\x7d"
  | .reject reason => "\x7b\"action\":\"reject\"" ++ memberText "reason" (some reason) ++ "\x7d"

/-- The line printed for a response. -/
def RunnerResponse.line (response : RunnerResponse String) : String :=
  "\x7b\"schema\":\"meshquill.hook/v1\",\"status\":" ++
    (match response with
      | .validated handlers =>
        "\"validated\",\"handlers\":[" ++
          ",".intercalate (handlers.map fun handler => literal handler.handlerName) ++ "]"
      | .invoked none => "\"invoked\""
      | .invoked (some result) => "\"invoked\",\"result\":" ++ result.json
      | .missing => "\"missing\""
      | .error kind handler =>
        "\"error\",\"error\":\x7b\"kind\":" ++ literal kind.name ++
          memberText "handler" (handler.map HookEventKind.handlerName) ++ "\x7d") ++
    "\x7d\n"

/-! ## One call -/

/-- The places at which the deadline is looked at. -/
inductive Checkpoint where
  | metadata
  | encoded
  | queued
  | admitted
  | spawned
  | writing
  | reading
  | collected
  | decoded
deriving DecidableEq

/-- What happens outside the runtime during one call. -/
structure Subprocess where
  /-- Whether the script is a regular file, and its size. -/
  metadata : Except String (Bool × Nat) := .ok (true, 0)
  /-- The size of the serialised request. -/
  requestBytes : Nat := 0
  /-- The deadline has passed there. -/
  late : Checkpoint → Bool := fun _ => false
  coordinatorStopped : Bool := false
  spawnFault : Option String := none
  missingPipe : Option StreamKind := none
  stdinFault : Option String := none
  script : Script
  /-- A fault of the streams or of waiting for the process. -/
  readFault : Option ProcessError := none
  stderrBytes : Nat := 0
  exitCode : Option Int := some 0

section Requests

variable (config : HookConfig) (call : Subprocess)

def deadline (place : Checkpoint) : Except HookError Unit :=
  ensure (!call.late place) (.timeout config.timeoutMs)

def validateScriptFile : Except HookError Unit :=
  match call.metadata with
  | .error kind =>
    if kind = "NotFound" then .error (.configuration .scriptNotFound)
    else .error (.configuration (.scriptMetadata kind))
  | .ok (regular, length) =>
    if !regular then .error (.configuration .scriptNotRegularFile)
    else if config.maxScriptBytes < length then
      .error (.configuration (.scriptTooLarge length config.maxScriptBytes))
    else .ok ()

/-- Pass, unless there is a fault. -/
def faultless {φ : Type} (fault : Option φ) (error : φ → ProcessError) : Except HookError Unit :=
  match fault with
  | none => .ok ()
  | some fault => .error (.process (error fault))

/-- The first part of `run_request`: up to the process having read the request. -/
def handOver : Except HookError Unit := do
  deadline config call .metadata
  validateScriptFile config call
  ensure (call.requestBytes ≤ config.maxInputBytes)
    (.protocol (.inputTooLarge call.requestBytes config.maxInputBytes))
  deadline config call .encoded
  deadline config call .queued
  ensure (!call.coordinatorStopped) (.process .coordinatorStopped)
  deadline config call .admitted
  faultless call.spawnFault .spawn
  deadline config call .spawned
  faultless call.missingPipe .missingPipe
  deadline config call .writing
  faultless call.stdinFault (.streamIo .stdin)

/-- The number of bytes printed; a response that cannot be written is cut off. -/
def stdoutBytes : Nat :=
  (bootstrap call.script).encode.elim 0 fun response => response.line.utf8ByteSize

/-- The rest of `run_request`: what the process printed, if all went well. -/
def collect : Except HookError (RunnerResponse String) := do
  ensure (stdoutBytes call ≤ config.maxOutputBytes)
    (.protocol (.outputTooLarge .stdout config.maxOutputBytes))
  ensure (call.stderrBytes ≤ config.maxStderrBytes)
    (.protocol (.outputTooLarge .stderr config.maxStderrBytes))
  faultless call.readFault id
  deadline config call .reading
  ensure (call.exitCode = some 0) (.process (.unsuccessfulExit call.exitCode call.stderrBytes))
  deadline config call .collected
  let response ← (bootstrap call.script).encode.elim (.error (.protocol .malformedOutput)) .ok
  deadline config call .decoded
  pure response

end Requests

/-! ## Sending -/

structure BeforeSendInput where
  destination : String
  text : String
deriving DecidableEq

inductive BeforeSendOutcome where
  | allow
  | modify (destination text : String)
  | reject (reason : String)
deriving DecidableEq

def BeforeSendOutcome.requireAllowed : BeforeSendOutcome → Except HookError BeforeSendOutcome
  | .reject reason => .error (.rejected reason)
  | .allow => .ok .allow
  | .modify destination text => .ok (.modify destination text)

def validateModifiedString (value : String) (field : ModificationField) (maximum : Nat)
    (requireNonempty : Bool) : Except HookError Unit := do
  ensure (value.utf8ByteSize ≤ maximum) (.protocol (.invalidModification field .tooLarge))
  ensure (!requireNonempty || trim value.toList ≠ [])
    (.protocol (.invalidModification field .empty))
  ensure (Char.ofNat 0 ∉ value.toList) (.protocol (.invalidModification field .containsNul))

/-- `map_runner_error` for an invocation. -/
def mapRunnerError (kind : RunnerFaultKind) (handler : Option HookEventKind) : HookError :=
  match kind, handler with
  | .loadError, _ => .configuration (.validation .loadFailed)
  | .noHandlers, _ => .configuration (.validation .noHandlers)
  | .notCallable, some handler => .configuration (.validation (.handlerNotCallable handler))
  | .invalidSignature, some handler => .configuration (.validation (.invalidSignature handler))
  | .notCallable, none | .invalidSignature, none => .protocol .unexpectedResponse
  | .hookException, _ => .protocol .handlerFailed
  | .invalidResult, _ | .invalidRequest, _ | .internalError, _ | .unknown, _ =>
    .protocol .runnerRejected

inductive Invocation where
  | completed (result : Option (BeforeSendResult String))
  | missing

namespace HookRuntime

variable (runtime : HookRuntime)

/-- `invoke` for `before_send`. -/
def invoke (call : Subprocess) : Except HookError Invocation := do
  handOver runtime.config call
  match ← collect runtime.config call with
  | .invoked result => pure (.completed result)
  | .missing => pure .missing
  | .error kind handler => .error (mapRunnerError kind handler)
  | .validated _ => .error (.protocol .unexpectedResponse)

def applyBeforeSendFailure (error : HookError) : Except HookError BeforeSendOutcome :=
  if runtime.config.beforeSendFailure = .openPolicy then .ok .allow else .error error

def validateSendInput (input : BeforeSendInput) : Except HookError Unit := do
  validateModifiedString input.destination .destination runtime.config.maxDestinationBytes true
  validateModifiedString input.text .text runtime.config.maxTextBytes false

def applyBeforeSendResult (original : BeforeSendInput) :
    BeforeSendResult String → Except HookError BeforeSendOutcome
  | .allow => .ok .allow
  | .modify none none => .error (.protocol .unexpectedResponse)
  | .modify destination text => do
    let destination := destination.getD original.destination
    let text := text.getD original.text
    validateModifiedString destination .destination runtime.config.maxDestinationBytes true
    validateModifiedString text .text runtime.config.maxTextBytes false
    pure (.modify destination text)
  | .reject reason => do
    validateModifiedString reason .rejectionReason runtime.config.maxRejectionReasonBytes true
    pure (.reject reason)

def beforeSend (input : BeforeSendInput) (call : Subprocess) : Except HookError BeforeSendOutcome :=
  match runtime.validateSendInput input with
  | .error error => runtime.applyBeforeSendFailure error
  | .ok () =>
    match runtime.invoke call with
    | .error error => runtime.applyBeforeSendFailure error
    | .ok .missing => .ok .allow
    | .ok (.completed none) => runtime.applyBeforeSendFailure (.protocol .unexpectedResponse)
    | .ok (.completed (some result)) =>
      match runtime.applyBeforeSendResult input result with
      | .ok outcome => .ok outcome
      | .error error => runtime.applyBeforeSendFailure error

end HookRuntime

end Meshquill.Hooks
