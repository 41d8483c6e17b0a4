import Meshquill.Chat.Session
import Meshquill.History

/-!
# The law of the log

Which lines make the device send, and what becomes of a draft whose sending failed. The law of
the log says of every entry what must stand before it: an attempt follows its own line, a draft
is retained right after a reconnection that follows the refusal of its attempt, and so on.
`Ledger` is what follows for whole logs: how many attempts a line makes, when a draft is
retained, and what is sent while it is.

The ledger of a chat concerns two components of its session: the log and the retained draft.
Most of what a chat does leaves both alone. `Marks` says from a given pair which pairs a
computation ends with, after a value and otherwise; its rules follow the program.
-/
namespace Meshquill

/-! ## What the parts of a chat record -/

/-- The log of a session and the draft it retains. -/
abbrev Mark := List ChatEntry × Option RetainedChatDraft

def Session.mark {δ : Type} (session : Session δ) : Mark := (session.log, session.retainedDraft)

namespace Chat

open Async

variable {δ α β : Type}

/-- The computation records nothing and leaves the retained draft alone. -/
def Quiet (body : ChatM δ α) : Prop := Moves (fun session reached => reached.mark = session.mark) body

/-- From this mark: the marks after a value, and those after an error or a drop. -/
def Marks (mark : Mark) (body : ChatM δ α) (after : α → Mark → Prop) (cut : Mark → Prop) : Prop :=
  Outcome (fun session => session.mark = mark) body (fun value session => after value session.mark)
    (fun _ session => cut session.mark) (fun session => cut session.mark)

section Rules

variable {mark : Mark} {after : α → Mark → Prop} {cut : Mark → Prop}

theorem quiet_pure (value : α) : Quiet (pure value : ChatM δ α) := fun _ => rfl

theorem quiet_fail (error : CliError) : Quiet (fail error : ChatM δ α) := fun _ => rfl

theorem quiet_get : Quiet (get : ChatM δ (Session δ)) := fun _ => rfl

theorem quiet_modify {update : Session δ → Session δ}
    (unmarked : ∀ session, (update session).mark = session.mark) :
    Quiet (modify update : ChatM δ Unit) := unmarked

variable {first yes no body : ChatM δ α} {next : α → ChatM δ β} {condition : Prop}
  {final : β → Mark → Prop}

theorem quiet_bind (head : Quiet first) (tail : ∀ value, Quiet (next value)) :
    Quiet (first >>= next) :=
  moves_bind (fun _ _ _ before later => later.trans before) head tail

theorem quiet_ite [Decidable condition] (first : Quiet yes) (second : Quiet no) :
    Quiet (if condition then yes else no) := by
  split
  · exact first
  · exact second

theorem quiet_whenever {body : ChatM δ Unit} (condition : Bool) (quiet : Quiet body) :
    Quiet (whenever condition body) :=
  quiet_ite quiet (quiet_pure ())

theorem quiet_ofExcept (result : Except CliError α) : Quiet (ofExcept result : ChatM δ α) := by
  cases result with
  | ok value => exact quiet_pure value
  | error error => exact quiet_fail error

theorem quiet_attempt (quiet : Quiet body) : Quiet (attempt body) :=
  moves_attempt quiet

theorem quiet_loop {body : β → ChatM δ (β ⊕ α)} (round : ∀ carried, Quiet (body carried))
    (carried : β) : Quiet (loop Session.remaining body carried) := by
  apply moves_loop
  · intro session
    rfl
  · intro session middle reached before later
    exact later.trans before
  · exact round

theorem marks_pure {value : α} (ready : after value mark) :
    Marks mark (pure value : ChatM δ α) after cut := by
  refine outcome_pure value fun session same => ?_
  rw [same]
  exact ready

theorem marks_bind (head : Marks mark first after cut)
    (tail : ∀ value reached, after value reached → Marks reached (next value) final cut) :
    Marks mark (first >>= next) final cut :=
  outcome_bind head fun value session ended => tail value session.mark ended session rfl

/-- A quiet computation ends with the mark it started from. -/
theorem marks_quiet (quiet : Quiet body) (covered : cut mark) :
    Marks mark body (fun _ reached => reached = mark) cut := by
  intro session same
  have unmarked : (body session).2.mark = mark := (quiet session).trans same
  have kept : cut (body session).2.mark := unmarked ▸ covered
  rcases ran : body session with ⟨value | error | _, reached⟩
  all_goals rw [ran] at unmarked kept
  · exact unmarked
  · exact kept
  · exact kept

/-- A quiet start. -/
theorem marks_after (quiet : Quiet first) (covered : cut mark)
    (tail : ∀ value, Marks mark (next value) final cut) :
    Marks mark (first >>= next) final cut := by
  apply marks_bind (marks_quiet quiet covered)
  rintro value reached rfl
  exact tail value

theorem marks_ite [Decidable condition] (first : condition → Marks mark yes after cut)
    (second : ¬ condition → Marks mark no after cut) :
    Marks mark (if condition then yes else no) after cut := by
  by_cases holds : condition
  · rw [if_pos holds]
    exact first holds
  · rw [if_neg holds]
    exact second holds

/-- A computation that only ends with an error. -/
theorem marks_fail (error : CliError) (covered : cut mark) :
    Marks mark (fail error : ChatM δ α) after cut := by
  refine outcome_fail error fun session same => ?_
  rw [same]
  exact covered

theorem Marks.weaken {final : α → Mark → Prop} {wider : Mark → Prop}
    (marks : Marks mark body after cut)
    (leave : ∀ value reached, after value reached → final value reached)
    (covered : ∀ reached, cut reached → wider reached) : Marks mark body final wider := by
  intro session same
  have ended := marks session same
  rcases ran : body session with ⟨value | error | _, reached⟩
  all_goals rw [ran] at ended
  · exact leave value reached.mark ended
  · exact covered reached.mark ended
  · exact covered reached.mark ended

/-- An observed error leaves what it would have left. -/
theorem marks_attempt (marks : Marks mark body after cut) :
    Marks mark (attempt body)
      (fun result reached => (∀ value, result = .ok value → after value reached) ∧
        ∀ error, result = .error error → cut reached) cut := by
  intro session same
  have ended := marks session same
  simp only [attempt]
  rcases ran : body session with ⟨value | error | _, reached⟩
  all_goals rw [ran] at ended
  · exact ⟨fun _ returned => Except.ok.inj returned ▸ ended, fun _ returned => by cases returned⟩
  · exact ⟨fun _ returned => (by cases returned), fun _ _ => ended⟩
  · exact ended

/-- An entry is recorded. -/
theorem marks_note {next : Unit → ChatM δ β} (entry : ChatEntry)
    (tail : Marks (entry :: mark.1, mark.2) (next ()) final cut) :
    Marks mark (note entry >>= next) final cut := by
  rintro session rfl
  exact tail { session with log := entry :: session.log } rfl

/-- The retained draft is replaced. -/
theorem marks_setRetained {next : Unit → ChatM δ β} (draft : Option RetainedChatDraft)
    (tail : Marks (mark.1, draft) (next ()) final cut) :
    Marks mark (setRetained draft >>= next) final cut := by
  rintro session rfl
  exact tail { session with retainedDraft := draft } rfl

/-- The session is read. -/
theorem marks_get {next : Session δ → ChatM δ β}
    (tail : ∀ session, session.mark = mark → Marks mark (next session) final cut) :
    Marks mark (get >>= next) final cut :=
  fun session same => tail session same session same

end Rules

/-! ## The quiet parts -/

theorem quiet_receive : Quiet (receive : ChatM δ Received) := by
  intro session
  unfold receive
  split
  · dsimp only [Session.mark]
  · split <;> rfl

theorem quiet_setTarget (target : ChatTarget) : Quiet (setTarget target : ChatM δ Unit) :=
  quiet_modify fun _ => rfl

theorem quiet_setPending (pending : Nat) : Quiet (setPending pending : ChatM δ Unit) :=
  quiet_modify fun _ => rfl

theorem quiet_setWorkflowConnected (connected : Bool) :
    Quiet (setWorkflowConnected connected : ChatM δ Unit) :=
  quiet_modify fun _ => rfl

variable [ChatEnvironment δ]

theorem quiet_ask (call : ChatCall α) : Quiet (ask call : ChatM δ α) := by
  intro session
  unfold ask
  split
  · rfl
  · rcases answered : ChatEnvironment.answer call session.environment with ⟨_ | value, _⟩ <;> rfl

theorem quiet_request (call : ChatCall (Except CliError α)) : Quiet (request call : ChatM δ α) :=
  quiet_bind (quiet_ask call) quiet_ofExcept

theorem quiet_emit (output : ChatOutput) : Quiet (emit output : ChatM δ Unit) :=
  quiet_request _

theorem quiet_emitChatIncoming (message : Message) (origin : IncomingOrigin) :
    Quiet (emitChatIncoming message origin : ChatM δ Unit) := by
  apply quiet_bind (quiet_request _)
  intro messageId
  cases messageId with
  | none => exact quiet_pure ()
  | some messageId => exact quiet_emit _

theorem quiet_interruptError : Quiet (interruptError : ChatM δ CliError) := by
  apply quiet_bind (quiet_ask _)
  intro failed
  exact quiet_ite (quiet_pure _) (quiet_pure _)

/-- Ending with the interrupt error. -/
theorem quiet_failInterrupted {wrap : CliError → CliError} :
    Quiet (interruptError >>= fun error => fail (wrap error) : ChatM δ α) :=
  quiet_bind quiet_interruptError fun _ => quiet_fail _

theorem marks_failInterrupted {wrap : CliError → CliError} {mark : Mark} {after : α → Mark → Prop}
    {cut : Mark → Prop} (covered : cut mark) :
    Marks mark (interruptError >>= fun error => fail (wrap error) : ChatM δ α) after cut :=
  marks_after quiet_interruptError covered fun _ => marks_fail _ covered

theorem marks_interrupt {mark : Mark} {after : α → Mark → Prop} {cut : Mark → Prop}
    (covered : cut mark) : Marks mark (interrupt : ChatM δ α) after cut :=
  marks_after (quiet_ask _) covered fun _ => marks_failInterrupted covered

theorem quiet_interrupt : Quiet (interrupt : ChatM δ α) :=
  quiet_bind (quiet_ask _) fun _ => quiet_failInterrupted

theorem quiet_raced (call : ChatCall (Option (Except CoreError α))) :
    Quiet (raced call : ChatM δ α) := by
  apply quiet_bind (quiet_ask call)
  intro result
  cases result with
  | none => exact quiet_interrupt
  | some result => exact quiet_ofExcept _

theorem quiet_resumeInput : Quiet (resumeInput : ChatM δ Unit) := by
  apply quiet_bind (quiet_ask _)
  intro cancelled
  exact quiet_ite quiet_failInterrupted (quiet_request _)

theorem quiet_reconnectAttempts (policy : ReconnectPolicy) (left attempt : Nat) :
    Quiet (reconnectAttempts policy left attempt : ChatM δ SelfInfo) := by
  induction left generalizing attempt with
  | zero => exact quiet_fail _
  | succ left ih =>
    unfold reconnectAttempts
    apply quiet_bind (quiet_ite (quiet_ask _) (quiet_pure _))
    intro slept
    apply quiet_ite
    · apply quiet_bind (quiet_ask _)
      rintro (_ | error | info)
      · exact quiet_bind (quiet_ask _) fun _ => quiet_fail _
      · exact quiet_ite (ih _) (quiet_fail _)
      · exact quiet_pure _
    · exact quiet_fail _

theorem quiet_activateWorkflow (peer failureReason : String) :
    Quiet (activateWorkflow peer failureReason : ChatM δ Unit) := by
  apply quiet_bind (quiet_ask _)
  intro result
  cases result with
  | ok => exact quiet_pure ()
  | error primary =>
    exact quiet_bind (quiet_ask _) fun _ => quiet_bind (quiet_ask _) fun _ => quiet_fail _

theorem quiet_sendChatMessage (target : ChatTarget) (text : String) :
    Quiet (sendChatMessage target text : ChatM δ (Except CoreError (Option CommandTracking))) := by
  unfold sendChatMessage
  cases target.channel with
  | none | some => exact quiet_bind (quiet_ask _) fun _ => quiet_pure _

theorem quiet_drainChatEvents (connectionActive : Bool) :
    Quiet (drainChatEvents connectionActive : ChatM δ Bool) := by
  refine quiet_loop (fun connectionActive => ?_) connectionActive
  apply quiet_bind (quiet_ask _)
  intro closed
  apply quiet_bind quiet_receive
  rintro (event | skipped | _)
  · cases event with
    | message message => exact quiet_bind (quiet_emitChatIncoming _ _) fun _ => quiet_pure _
    | protocolError | unknownPacket | loginFailed =>
      exact quiet_bind (quiet_request _) fun _ => quiet_pure _
    | _ => exact quiet_pure _
  · exact quiet_fail _
  · exact quiet_ite (quiet_fail _) (quiet_pure _)

theorem quiet_emitQueued (message : Option Message) :
    Quiet (emitQueued message : ChatM δ Unit) := by
  cases message with
  | none => exact quiet_pure ()
  | some message => exact quiet_emitChatIncoming _ _

theorem quiet_pollChatIncoming : Quiet (pollChatIncoming : ChatM δ Unit) := by
  refine quiet_loop (fun connectionActive => ?_) true
  apply quiet_bind (quiet_raced _)
  intro message
  apply quiet_bind (quiet_drainChatEvents connectionActive)
  intro active
  apply quiet_bind (quiet_emitQueued message)
  intro _
  exact quiet_ite (quiet_pure _) (quiet_fail _)

/-! ## Reconnecting and looking up -/

section

variable {log : List ChatEntry} {retained : Option RetainedChatDraft} (control : ChatSessionControl)

/-- A reconnection is recorded when it has succeeded. -/
theorem marks_reconnectChatSession (disconnectReason : String) :
    Marks (log, retained) (reconnectChatSession control disconnectReason : ChatM δ SelfInfo)
      (fun _ reached => reached = (.reconnected :: log, retained))
      (fun reached => reached = (log, retained)) := by
  let cut (reached : Mark) : Prop := reached = (log, retained)
  have start : cut (log, retained) := rfl
  apply marks_get
  intro session _
  apply marks_after (quiet_setWorkflowConnected _) start
  intro _
  apply marks_after (quiet_whenever _ (quiet_request _)) start
  intro _
  apply marks_after (quiet_reconnectAttempts _ _ _) start
  intro info
  apply marks_after (quiet_activateWorkflow _ _) start
  intro _
  apply marks_after (quiet_setWorkflowConnected _) start
  intro _
  exact marks_note _ (marks_pure rfl)

/-- What a lookup records before it returns. -/
def lookedUp (reconnected : Bool) (log : List ChatEntry) : List ChatEntry :=
  if reconnected then .reconnected :: log else log

/-- The log of a lookup that may have reconnected. -/
def MaybeReconnected (log : List ChatEntry) (retained : Option RetainedChatDraft) (mark : Mark) :
    Prop :=
  ∃ reconnected, mark = (lookedUp reconnected log, retained)

theorem marks_listChatContactsWithReconnect
    (disconnectReason : String) :
    Marks (log, retained)
      (listChatContactsWithReconnect control disconnectReason : ChatM δ (List Contact × Bool))
      (fun result reached => reached = (lookedUp result.2 log, retained))
      (MaybeReconnected log retained) := by
  have start : MaybeReconnected log retained (log, retained) := ⟨false, rfl⟩
  apply marks_after (quiet_ask _) start
  rintro (_ | error | contacts)
  · exact marks_interrupt start
  · apply marks_ite
    · intro _
      apply marks_bind ((marks_reconnectChatSession control disconnectReason).weaken
        (fun _ _ ended => ended) fun reached ended => ended ▸ start)
      rintro info reached rfl
      exact marks_after (quiet_raced _) ⟨true, rfl⟩ fun contacts => marks_pure rfl
    · intro _
      exact marks_fail _ start
  · exact marks_pure rfl

theorem marks_prepareChatTargetWithReconnect (destination : String)
    (disconnectReason : String) :
    Marks (log, retained)
      (prepareChatTargetWithReconnect control destination disconnectReason :
        ChatM δ (ChatTarget × Bool))
      (fun result reached => reached = (lookedUp result.2 log, retained))
      (MaybeReconnected log retained) := by
  unfold prepareChatTargetWithReconnect
  cases parseU8 destination with
  | some channel => exact marks_pure rfl
  | none =>
    apply marks_bind (marks_listChatContactsWithReconnect control disconnectReason)
    rintro ⟨contacts, reconnected⟩ reached rfl
    exact marks_after (quiet_ofExcept _) ⟨reconnected, rfl⟩ fun contact => marks_pure rfl

end

end Chat

open History

/-! ## The law of the log -/

/-- The draft that a session with this log retains. `/send` and `/discard` take it. -/
def draftOf : List ChatEntry → Option RetainedChatDraft
  | [] => none
  | .retained draft :: _ => some draft
  | .line .sendRetained _ :: _ => none
  | .line .discardRetained _ :: _ => none
  | _ :: earlier => draftOf earlier

/-- The line that causes an attempt stands right before it: a message while nothing is retained,
after which the lookup of the target may have reconnected, or `/send` while this draft is. -/
def Caused (draft : RetainedChatDraft) (earlier : List ChatEntry) : Prop :=
  (∃ text reconnected before,
    earlier = Chat.lookedUp reconnected (.line (.message text) none :: before)) ∨
  ∃ before, earlier = .line .sendRetained (some draft) :: before

/-- What must stand before an entry. -/
def ChatEntry.Fits (entry : ChatEntry) (earlier : List ChatEntry) : Prop :=
  match entry with
  | .line _ held => held = draftOf earlier
  | .attempt draft => Caused draft earlier
  | .accepted | .refused _ => ∃ draft before, earlier = .attempt draft :: before
  | .unacknowledged _ => ∃ before, earlier = .accepted :: before
  | .reconnected => True
  | .retained draft =>
    ∃ error before, earlier = .reconnected :: .refused error :: .attempt draft :: before ∧
      reconnectTrigger error = true
  | .discarded draft => ∃ before, earlier = .line .discardRetained (some draft) :: before

/-- The log obeys the law. -/
abbrev Lawful (log : List ChatEntry) : Prop := Always ChatEntry.Fits log

/-- The log obeys the law and the session retains the draft that the log says. -/
def AtRest (mark : Mark) : Prop := Lawful mark.1 ∧ mark.2 = draftOf mark.1

@[simp] theorem draftOf_lookedUp (reconnected : Bool) (log : List ChatEntry) :
    draftOf (Chat.lookedUp reconnected log) = draftOf log := by
  cases reconnected <;> rfl

theorem lawful_lookedUp {log : List ChatEntry} (lawful : Lawful log) (reconnected : Bool) :
    Lawful (Chat.lookedUp reconnected log) := by
  cases reconnected with
  | false => exact lawful
  | true => exact ⟨trivial, lawful⟩

/-! ## What the law says -/

def ChatEntry.isLine : ChatEntry → Bool
  | .line _ _ => true
  | _ => false

/-- The drafts that the device was asked to send. -/
def attempts (log : List ChatEntry) : List RetainedChatDraft :=
  log.filterMap fun
    | .attempt draft => some draft
    | _ => none

variable {handling earlier before : List ChatEntry} {parsed : ParsedChatLine}
  {draft : RetainedChatDraft}

section Handled

variable (within : ∀ entry ∈ handling, entry.isLine = false)

include within

/-- The newest line of a log. -/
theorem newest_line {other : ParsedChatLine} {retained held : Option RetainedChatDraft}
    (same : handling ++ .line parsed retained :: earlier = .line other held :: before) :
    handling = [] ∧ parsed = other ∧ retained = held := by
  cases handling with
  | nil =>
    obtain ⟨line, -⟩ := List.cons.inj same
    obtain ⟨parsedSame, retainedSame⟩ := ChatEntry.line.inj line
    exact ⟨rfl, parsedSame, retainedSame⟩
  | cons entry handling =>
    obtain ⟨line, -⟩ := List.cons.inj same
    have noLine := within entry List.mem_cons_self
    rw [line] at noLine
    cases noLine

/-- An attempt during the handling of a line is the first, and the line causes it. -/
theorem Caused.line {retained : Option RetainedChatDraft}
    (caused : Caused draft (handling ++ .line parsed retained :: earlier)) :
    attempts handling = [] ∧
      ((∃ text, parsed = .message text ∧ retained = none) ∨
        parsed = .sendRetained ∧ retained = some draft) := by
  rcases caused with ⟨text, reconnected, before, same⟩ | ⟨before, same⟩
  · cases reconnected with
    | false =>
      obtain ⟨rfl, rfl, rfl⟩ := newest_line within same
      exact ⟨rfl, .inl ⟨text, rfl, rfl⟩⟩
    | true =>
      cases handling with
      | nil => cases (List.cons.inj same).1
      | cons entry handling =>
        obtain ⟨rfl, rest⟩ := List.cons.inj same
        obtain ⟨rfl, rfl, rfl⟩ := newest_line
          (fun entry inside => within entry (List.mem_cons_of_mem _ inside)) rest
        exact ⟨rfl, .inl ⟨text, rfl, rfl⟩⟩
  · obtain ⟨rfl, rfl, rfl⟩ := newest_line within same
    exact ⟨rfl, .inr ⟨rfl, rfl⟩⟩

/-- The handling of a line makes at most one attempt. -/
theorem Lawful.attempts_handling {retained : Option RetainedChatDraft}
    (lawful : Lawful (handling ++ .line parsed retained :: earlier)) :
    attempts handling = [] ∨ ∃ draft, attempts handling = [draft] ∧
      ((∃ text, parsed = .message text ∧ retained = none) ∨
        parsed = .sendRetained ∧ retained = some draft) := by
  induction handling with
  | nil => exact .inl rfl
  | cons entry handling ih =>
    obtain ⟨fits, lawful⟩ := lawful
    have within' : ∀ entry ∈ handling, entry.isLine = false :=
      fun entry inside => within entry (List.mem_cons_of_mem _ inside)
    cases entry with
    | attempt draft =>
      obtain ⟨first, cause⟩ := Caused.line within' fits
      refine .inr ⟨draft, ?_, cause⟩
      show draft :: attempts handling = [draft]
      rw [first]
    | _ => exact ih within' lawful

end Handled

/-- Nothing is retained when an attempt is made. -/
theorem Caused.draftOf_eq_none (caused : Caused draft earlier) (lawful : Lawful earlier) :
    draftOf earlier = none := by
  rcases caused with ⟨text, reconnected, before, rfl⟩ | ⟨before, rfl⟩
  · rw [draftOf_lookedUp]
    have recorded : Lawful (.line (.message text) none :: before) := by
      cases reconnected with
      | false => exact lawful
      | true => exact lawful.2
    exact recorded.1.symm
  · rfl

/-- An attempt is made while a line is handled. -/
theorem Caused.during_line (caused : Caused draft earlier) :
    ∃ handling parsed retained before, earlier = handling ++ .line parsed retained :: before ∧
      ∀ entry ∈ handling, entry.isLine = false := by
  rcases caused with ⟨text, reconnected, before, rfl⟩ | ⟨before, rfl⟩
  · refine ⟨Chat.lookedUp reconnected [], .message text, none, before, ?_, ?_⟩
    · cases reconnected <;> rfl
    · cases reconnected <;> decide
  · exact ⟨[], .sendRetained, some draft, before, rfl, by simp⟩

/-- What a log says about its attempts and about the drafts that were retained. -/
structure Ledger (log : List ChatEntry) : Prop where
  /-- A line is taken up with the draft that is retained. Until the next line there is at most
  one attempt: a message while nothing is retained, or `/send` of the draft that is. -/
  single : ∀ later handling parsed retained earlier,
    log = later ++ handling ++ .line parsed retained :: earlier →
    (∀ entry ∈ handling, entry.isLine = false) →
    retained = draftOf earlier ∧
      (attempts handling = [] ∨ ∃ draft, attempts handling = [draft] ∧
        ((∃ text, parsed = .message text ∧ retained = none) ∨
          parsed = .sendRetained ∧ retained = some draft))
  /-- There is no attempt before the first line, and none while a draft is retained. -/
  attempted : ∀ later draft earlier, log = later ++ .attempt draft :: earlier →
    draftOf earlier = none ∧
      ∃ handling parsed retained before, earlier = handling ++ .line parsed retained :: before ∧
        ∀ entry ∈ handling, entry.isLine = false
  /-- A draft is retained, in the place of no other, right after its attempt was refused for want
  of a connection and the session was reconnected. -/
  retained : ∀ later draft earlier, log = later ++ .retained draft :: earlier →
    draftOf earlier = none ∧
      ∃ error before, earlier = .reconnected :: .refused error :: .attempt draft :: before ∧
        reconnectTrigger error = true
  /-- After a missing ACK, no draft is retained without an attempt of it after that. -/
  unacknowledged : ∀ later draft between error earlier,
    log = later ++ .retained draft :: (between ++ .unacknowledged error :: earlier) →
    .attempt draft ∈ between

/-- The entries between a refusal for want of a connection and the retained draft. -/
theorem attempt_mem_of_retained {error refusal : CoreError} {between : List ChatEntry}
    (same : between ++ .unacknowledged error :: earlier =
      .reconnected :: .refused refusal :: .attempt draft :: before) :
    .attempt draft ∈ between := by
  rcases between with _ | ⟨first, _ | ⟨second, _ | ⟨third, between⟩⟩⟩
  · cases (List.cons.inj same).1
  · cases (List.cons.inj (List.cons.inj same).2).1
  · cases (List.cons.inj (List.cons.inj (List.cons.inj same).2).2).1
  · obtain ⟨-, same⟩ := List.cons.inj same
    obtain ⟨-, same⟩ := List.cons.inj same
    obtain ⟨rfl, -⟩ := List.cons.inj same
    simp

theorem Lawful.ledger {log : List ChatEntry} (lawful : Lawful log) : Ledger log := by
  have fits := always_iff.mp lawful
  constructor
  · intro later handling parsed retained earlier split within
    have recent : Lawful (handling ++ .line parsed retained :: earlier) := by
      rw [split, List.append_assoc] at lawful
      exact lawful.earlier
    exact ⟨fits _ _ _ split, recent.attempts_handling within⟩
  · intro later draft earlier split
    have recent : Lawful (.attempt draft :: earlier) := by
      rw [split] at lawful
      exact lawful.earlier
    exact ⟨recent.1.draftOf_eq_none recent.2, recent.1.during_line⟩
  · intro later draft earlier split
    obtain ⟨error, before, rfl, trigger⟩ := fits _ _ _ split
    have recent : Lawful (.attempt draft :: before) := by
      rw [split] at lawful
      exact lawful.earlier.2.2.2
    exact ⟨recent.1.draftOf_eq_none recent.2, error, before, rfl, trigger⟩
  · intro later draft between error earlier split
    obtain ⟨refusal, before, same, -⟩ := fits _ _ _ split
    exact attempt_mem_of_retained same

end Meshquill
