import Meshquill.Chat.Law

/-!
# The ledger of a chat

Every session keeps the law of the log, whatever its environment answers and wherever it ends.
A submission goes through a few stages, which all obey the law if the submission has its cause.
The handlers of lines and events, the turns and whole sessions follow in the order of the
source: each starts settled and, if it returns, ends settled.
-/
namespace Meshquill

open History

/-! ## After an attempt -/

/-- What the wait for an ACK records: nothing, its failure, or its failure and a reconnection. -/
inductive AckTrail (log : List ChatEntry) : List ChatEntry → Prop
  | quiet : AckTrail log log
  | failed (error : CoreError) : AckTrail log (.unacknowledged error :: log)
  | reconnected (error : CoreError) :
      AckTrail log (.reconnected :: .unacknowledged error :: log)

/-- The stages of a submission from its attempt on. -/
inductive Submission (draft : RetainedChatDraft) (log : List ChatEntry) : Mark → Prop
  | attempted : Submission draft log (.attempt draft :: log, none)
  | accepted {trail : List ChatEntry}
      (waited : AckTrail (.accepted :: .attempt draft :: log) trail) :
      Submission draft log (trail, none)
  | refused (error : CoreError) :
      Submission draft log (.refused error :: .attempt draft :: log, none)
  | reconnected {error : CoreError} (trigger : reconnectTrigger error = true) :
      Submission draft log (.reconnected :: .refused error :: .attempt draft :: log, none)
  | kept {error : CoreError} (trigger : reconnectTrigger error = true) :
      Submission draft log (.reconnected :: .refused error :: .attempt draft :: log, some draft)
  | retained {error : CoreError} (trigger : reconnectTrigger error = true) :
      Submission draft log
        (.retained draft :: .reconnected :: .refused error :: .attempt draft :: log, some draft)

variable {draft : RetainedChatDraft} {log trail : List ChatEntry} {mark : Mark}
  {retained : Option RetainedChatDraft}

theorem AckTrail.lawful (waited : AckTrail (.accepted :: log) trail)
    (before : Lawful (.accepted :: log)) : Lawful trail := by
  cases waited with
  | quiet => exact before
  | failed error => exact ⟨⟨log, rfl⟩, before⟩
  | reconnected error => exact ⟨trivial, ⟨log, rfl⟩, before⟩

theorem AckTrail.draftOf (waited : AckTrail log trail) : draftOf trail = Meshquill.draftOf log := by
  cases waited <;> rfl

/-- Every stage obeys the law, if the attempt has its cause. -/
theorem Submission.lawful (stage : Submission draft log mark) (before : Lawful log)
    (caused : Caused draft log) : Lawful mark.1 := by
  have attempted : Lawful (.attempt draft :: log) := ⟨caused, before⟩
  have refused (error : CoreError) : Lawful (.refused error :: .attempt draft :: log) :=
    ⟨⟨draft, log, rfl⟩, attempted⟩
  cases stage with
  | attempted => exact attempted
  | accepted waited => exact waited.lawful ⟨⟨draft, log, rfl⟩, attempted⟩
  | refused error => exact refused error
  | reconnected | kept => exact ⟨trivial, refused _⟩
  | retained trigger => exact ⟨⟨_, log, rfl, trigger⟩, trivial, refused _⟩

namespace Chat

open Async

/-- A wait for an ACK has moved the session on from this mark. -/
def Waited (mark reached : Mark) : Prop :=
  ∃ trail, AckTrail mark.1 trail ∧ reached = (trail, mark.2)

theorem Waited.refl (mark : Mark) : Waited mark mark := ⟨_, .quiet, rfl⟩

variable {δ : Type} [ChatEnvironment δ] (control : ChatSessionControl)

theorem marks_waitForChatAck (target : ChatTarget) (messageId : String)
    (tracking : CommandTracking) :
    Marks (log, retained)
      (waitForChatAck control target messageId tracking : ChatM δ (ChatAckOutcome × Option CliError))
      (fun _ => Waited (log, retained)) (Waited (log, retained)) := by
  have start := Waited.refl (log, retained)
  apply marks_after (quiet_ask _) start
  rintro (_ | error | ack)
  · exact marks_interrupt start
  · have unacknowledged : Waited (log, retained) (.unacknowledged error :: log, retained) :=
      ⟨_, .failed error, rfl⟩
    apply marks_note
    apply marks_ite
    · intro _
      exact marks_after (quiet_ask _) unacknowledged fun _ => marks_pure unacknowledged
    · intro _
      apply marks_after (quiet_ask _) unacknowledged
      intro _
      apply marks_ite
      · intro _
        apply marks_bind ((marks_reconnectChatSession control _).weaken (fun _ _ ended => ended)
          fun reached ended => ended ▸ unacknowledged)
        rintro info reached rfl
        exact marks_pure ⟨_, .reconnected error, rfl⟩
      · intro _
        exact marks_fail _ unacknowledged
  · exact marks_after (quiet_ask _) start fun _ => marks_pure start

/-! ## Sending -/

theorem marks_followTracking (draft : RetainedChatDraft) (messageId : String)
    (tracking : Option CommandTracking) :
    Marks (log, retained)
      (followTracking control draft messageId tracking : ChatM δ (Bool × Option CliError))
      (fun _ => Waited (log, retained)) (Waited (log, retained)) := by
  cases tracking with
  | none => exact marks_pure (.refl _)
  | some tracking =>
    apply marks_bind (marks_waitForChatAck control draft.target messageId tracking)
    rintro ⟨outcome, late⟩ reached waited
    apply marks_after quiet_get waited
    intro session
    exact marks_after (quiet_emit _) waited fun _ => marks_pure waited

theorem marks_followAcceptedDraft (draft : RetainedChatDraft) (messageId : String)
    (tracking : Option CommandTracking) :
    Marks (log, retained)
      (followAcceptedDraft control draft messageId tracking : ChatM δ ChatLineFlow)
      (fun _ => Waited (log, retained)) (Waited (log, retained)) := by
  have start := Waited.refl (log, retained)
  apply marks_after (quiet_ask _) start
  intro recorded
  apply marks_after quiet_get start
  intro session
  apply marks_after (quiet_emit _) start
  intro _
  apply marks_after (quiet_ask _) start
  intro cancelled
  apply marks_ite
  · intro _
    exact marks_failInterrupted start
  · intro _
    apply marks_bind (marks_followTracking control draft messageId tracking)
    rintro ⟨reconnected, late⟩ reached ended
    cases recorded with
    | error error => exact marks_fail _ ended
    | ok =>
      cases late with
      | some error => exact marks_fail _ ended
      | none => exact marks_pure ended

/-- How a submission ends that returns. -/
def Submitted (draft : RetainedChatDraft) (log : List ChatEntry) (mark : Mark) : Prop :=
  Waited (.accepted :: .attempt draft :: log, none) mark ∨
  ∃ error, reconnectTrigger error = true ∧
    mark = (.retained draft :: .reconnected :: .refused error :: .attempt draft :: log, some draft)

theorem marks_sendDraft (draft : RetainedChatDraft) (messageId : String) :
    Marks (log, none) (sendDraft control draft messageId : ChatM δ ChatLineFlow)
      (fun _ => Submitted draft log) (Submission draft log) := by
  apply marks_note
  apply marks_after (quiet_sendChatMessage _ _) .attempted
  rintro (error | tracking)
  · have refused : Submission draft log (.refused error :: .attempt draft :: log, none) :=
      .refused error
    apply marks_note
    apply marks_after (quiet_ask _) refused
    intro _
    apply marks_ite
    · intro trigger
      apply marks_after (quiet_ask _) refused
      intro cancelled
      apply marks_ite
      · intro _
        exact marks_failInterrupted refused
      · intro _
        apply marks_bind ((marks_reconnectChatSession control _).weaken (fun _ _ ended => ended)
          fun reached ended => ended ▸ refused)
        rintro info reached rfl
        apply marks_setRetained
        apply marks_note
        exact marks_after (quiet_emit _) (.retained trigger) fun _ =>
          marks_pure (.inr ⟨error, trigger, rfl⟩)
    · intro _
      exact marks_fail _ refused
  · apply marks_note
    refine (marks_followAcceptedDraft control draft messageId tracking).weaken ?_ ?_
    · intro flow reached ended
      exact .inl ended
    · rintro reached ⟨trail, waited, rfl⟩
      exact .accepted waited

/-- A submission that returns leaves its draft retained exactly if its log says so. -/
theorem Submitted.settled (submitted : Submitted draft log mark) (before : Lawful log)
    (caused : Caused draft log) (nothing : draftOf log = none) : AtRest mark := by
  rcases submitted with ⟨trail, waited, rfl⟩ | ⟨error, trigger, rfl⟩
  · constructor
    · exact (Submission.accepted waited).lawful before caused
    · rw [waited.draftOf]
      exact nothing.symm
  · constructor
    · exact (Submission.retained trigger).lawful before caused
    · rfl

/-- From this mark the computation keeps the law and, if it returns, ends settled. -/
abbrev KeepsLaw {α : Type} (mark : Mark) (body : ChatM δ α) : Prop :=
  Marks mark body (fun _ => AtRest) fun reached => Lawful reached.1

/-- A draft that a line has caused to be submitted. -/
theorem marks_submission (draft : RetainedChatDraft) (before : Lawful log)
    (caused : Caused draft log) (nothing : draftOf log = none) :
    KeepsLaw (log, none) (submitChatDraft control draft : ChatM δ ChatLineFlow) := by
  apply marks_after (quiet_request _) before
  intro messageId
  refine (marks_sendDraft control draft messageId).weaken ?_ ?_
  · intro flow reached submitted
    exact submitted.settled before caused nothing
  · intro reached stage
    exact stage.lawful before caused

/-! ## Lines -/

section Lines

omit [ChatEnvironment δ] in
/-- A quiet computation leaves a settled session settled. -/
theorem marks_settled {α : Type} {body : ChatM δ α} (quiet : Quiet body) (settled : AtRest mark) :
    KeepsLaw mark body :=
  (marks_quiet quiet settled.1).weaken (fun _ _ same => same ▸ settled) fun _ held => held

theorem quiet_emitChatDestinationChanged : Quiet (emitChatDestinationChanged : ChatM δ Unit) :=
  quiet_bind quiet_get fun _ => quiet_emit _

theorem quiet_retarget (contacts : List Contact) (query : String) :
    Quiet (retarget contacts query : ChatM δ Unit) := by
  unfold retarget
  cases resolveContact (ChatEnvironment.lowercase δ) contacts query with
  | ok contact =>
    exact quiet_bind (quiet_setTarget _) fun _ => quiet_emitChatDestinationChanged
  | error error => exact quiet_bind quiet_get fun _ => quiet_emit _

variable (settled : AtRest (log, retained))

include settled

/-- A lookup keeps a settled session settled. -/
theorem settled_lookedUp (reconnected : Bool) : AtRest (lookedUp reconnected log, retained) := by
  constructor
  · exact lawful_lookedUp settled.1 reconnected
  · rw [draftOf_lookedUp]
    exact settled.2

theorem marks_listed {α : Type} (disconnectReason : String)
    {next : List Contact × Bool → ChatM δ α} (quiet : ∀ listed, Quiet (next listed)) :
    KeepsLaw (log, retained) (listChatContactsWithReconnect control disconnectReason >>= next) := by
  apply marks_bind ((marks_listChatContactsWithReconnect control disconnectReason).weaken
    (fun _ _ ended => ended) ?_)
  · rintro listed reached rfl
    exact marks_settled (quiet listed) (settled_lookedUp settled _)
  · rintro reached ⟨reconnected, rfl⟩
    exact (settled_lookedUp settled reconnected).1

theorem marks_handleContacts (query : Option String) :
    KeepsLaw (log, retained) (handleContacts control query : ChatM δ ChatLineFlow) := by
  apply marks_get
  intro session _
  refine marks_listed control settled _ fun listed => ?_
  exact quiet_bind (quiet_whenever _ (quiet_emit _)) fun _ =>
    quiet_bind (quiet_emit _) fun _ => quiet_pure _

theorem marks_handleTo (query : String) :
    KeepsLaw (log, retained) (handleTo control query : ChatM δ ChatLineFlow) := by
  apply marks_get
  intro session _
  refine marks_listed control settled _ fun listed => ?_
  exact quiet_bind (quiet_whenever _ (quiet_emit _)) fun _ =>
    quiet_bind (quiet_retarget _ _) fun _ => quiet_pure _

theorem marks_handleSendRetained :
    KeepsLaw (.line .sendRetained retained :: log, retained)
      (handleSendRetained control : ChatM δ ChatLineFlow) := by
  have lawful : Lawful (.line .sendRetained retained :: log) := ⟨settled.2, settled.1⟩
  apply marks_get
  intro session same
  apply marks_setRetained
  rw [(Prod.mk.inj same).2]
  cases retained with
  | none => exact marks_settled (quiet_bind (quiet_emit _) fun _ => quiet_pure _) ⟨lawful, rfl⟩
  | some draft => exact marks_submission control draft lawful (.inr ⟨log, rfl⟩) rfl

theorem marks_handleDiscardRetained :
    KeepsLaw (.line .discardRetained retained :: log, retained)
      (handleDiscardRetained : ChatM δ ChatLineFlow) := by
  have lawful : Lawful (.line .discardRetained retained :: log) := ⟨settled.2, settled.1⟩
  apply marks_get
  intro session same
  apply marks_setRetained
  rw [(Prod.mk.inj same).2]
  cases retained with
  | none => exact marks_settled (quiet_bind (quiet_emit _) fun _ => quiet_pure _) ⟨lawful, rfl⟩
  | some draft =>
    apply marks_note
    exact marks_settled (quiet_bind (quiet_emit _) fun _ => quiet_pure _)
      ⟨⟨⟨log, rfl⟩, lawful⟩, rfl⟩

theorem marks_handleMessage (text : String) :
    KeepsLaw (.line (.message text) retained :: log, retained)
      (handleMessage control text : ChatM δ ChatLineFlow) := by
  have lawful : Lawful (.line (.message text) retained :: log) := ⟨settled.2, settled.1⟩
  apply marks_get
  intro session same
  rw [(Prod.mk.inj same).2]
  cases retained with
  | some draft =>
    exact marks_settled (quiet_bind (quiet_emit _) fun _ => quiet_pure _) ⟨lawful, settled.2⟩
  | none =>
    apply marks_after (quiet_request _) lawful
    intro prepared
    apply marks_bind ((marks_prepareChatTargetWithReconnect control prepared.destination _).weaken
      (fun _ _ ended => ended) ?_)
    · rintro ⟨sendTarget, targetReconnected⟩ reached rfl
      have looked := lawful_lookedUp lawful targetReconnected
      apply marks_after (quiet_whenever _ (quiet_emit _)) looked
      intro _
      apply marks_bind (marks_submission control _ looked
        (.inl ⟨text, targetReconnected, log, rfl⟩) ?_)
      · intro flow reached ended
        exact marks_pure ended
      · rw [draftOf_lookedUp]
        exact settled.2.symm
    · rintro reached ⟨reconnected, rfl⟩
      exact lawful_lookedUp lawful reconnected

/-- A line is recorded with the retained draft, and whatever it causes keeps the law. -/
theorem marks_handleChatLine (line : String) :
    KeepsLaw (log, retained) (handleChatLine control line : ChatM δ ChatLineFlow) := by
  apply marks_get
  intro session same
  obtain ⟨-, draft⟩ := Prod.mk.inj same
  rw [draft]
  apply marks_note
  generalize parseChatLine (ChatEnvironment.lowercase δ) line = parsed
  have lawful : Lawful (.line parsed retained :: log) := ⟨settled.2, settled.1⟩
  cases parsed with
  | sendRetained => exact marks_handleSendRetained control settled
  | discardRetained => exact marks_handleDiscardRetained settled
  | message text => exact marks_handleMessage control settled text
  | contacts query => exact marks_handleContacts control ⟨lawful, settled.2⟩ query
  | «to» query => exact marks_handleTo control ⟨lawful, settled.2⟩ query
  | empty => exact marks_settled (quiet_pure _) ⟨lawful, settled.2⟩
  | quit => exact marks_settled (quiet_pure _) ⟨lawful, settled.2⟩
  | channel channel =>
    exact marks_settled (quiet_bind (quiet_setTarget _) fun _ =>
      quiet_bind quiet_emitChatDestinationChanged fun _ => quiet_pure _) ⟨lawful, settled.2⟩
  | help | history | commandError =>
    exact marks_settled (quiet_bind (quiet_request _) fun _ => quiet_pure _) ⟨lawful, settled.2⟩

/-! ## Events -/

/-- A reconnection keeps a settled session settled. -/
theorem marks_reconnection (disconnectReason : String) :
    Marks (log, retained) (reconnectChatSession control disconnectReason : ChatM δ SelfInfo)
      (fun _ => AtRest) AtRest :=
  (marks_reconnectChatSession control disconnectReason).weaken
    (fun _ _ ended => ended ▸ settled_lookedUp settled true) fun _ ended => ended ▸ settled

theorem marks_handleChatEvent (event : Event) :
    KeepsLaw (log, retained) (handleChatEvent control event : ChatM δ Unit) := by
  apply marks_get
  intro session _
  cases event with
  | disconnected =>
    apply marks_ite
    · intro _
      exact marks_settled (quiet_pure _) settled
    · intro _
      apply marks_bind (marks_attempt ((marks_reconnection control settled _).weaken
        (fun _ _ held => held) fun _ held => held.1))
      rintro (error | info) ⟨log, retained⟩ ended
      · apply marks_after (quiet_ask _) (ended.2 error rfl)
        intro cancelled
        apply marks_ite
        · intro _
          exact marks_failInterrupted (ended.2 error rfl)
        · intro _
          exact marks_fail _ (ended.2 error rfl)
      · exact marks_settled (quiet_bind (quiet_setPending _) fun _ => quiet_emit _)
          (ended.1 info rfl)
  | connected => exact marks_settled (quiet_ite (quiet_setPending _) (quiet_pure _)) settled
  | message message => exact marks_settled (quiet_emitChatIncoming _ _) settled
  | protocolError | unknownPacket | loginFailed => exact marks_settled (quiet_request _) settled
  | _ => exact marks_settled (quiet_pure _) settled

/-! ## Whole sessions -/

theorem marks_handleWoken (woken : ChatWake) :
    KeepsLaw (log, retained) (handleWoken control woken : ChatM δ (Unit ⊕ Unit)) := by
  rcases woken with _ | _ | _ | (error | _ | line)
  · exact marks_settled (quiet_pure _) settled
  · exact marks_settled (quiet_pure _) settled
  · exact marks_settled (quiet_fail _) settled
  · exact marks_settled (quiet_fail _) settled
  · exact marks_settled (quiet_pure _) settled
  · apply marks_bind (marks_handleChatLine control settled line)
    rintro (_ | _ | count) reached handled
    · exact marks_settled (quiet_bind quiet_resumeInput fun _ => quiet_pure _) handled
    · exact marks_settled (quiet_pure _) handled
    · exact marks_settled (quiet_bind quiet_get fun _ => quiet_bind (quiet_setPending _) fun _ =>
        quiet_bind quiet_resumeInput fun _ => quiet_pure _) handled

theorem marks_chatTurn : KeepsLaw (log, retained) (chatTurn control : ChatM δ (Unit ⊕ Unit)) := by
  have taken (woken : ChatWake) :
      KeepsLaw (log, retained)
        (receive >>= handleReceived control woken : ChatM δ (Unit ⊕ Unit)) := by
    apply marks_after quiet_receive settled.1
    rintro (event | skipped | _)
    · apply marks_bind (marks_handleChatEvent control settled event)
      intro _ reached handled
      exact marks_pure handled
    · exact marks_settled (quiet_bind (quiet_setPending _) fun _ => quiet_bind quiet_get fun _ =>
        quiet_bind (quiet_emit _) fun _ => quiet_pure _) settled
    · exact marks_handleWoken control settled woken
  apply marks_after (quiet_ask _) settled.1
  intro woken
  cases woken with
  | interrupted => exact marks_failInterrupted settled.1
  | _ => exact taken _

omit settled in
/-- What precedes the loop records at most a reconnection. -/
theorem marks_openChat : KeepsLaw ([], retained) (openChat control : ChatM δ Unit) := by
  have empty : Lawful [] := trivial
  have lawful (reconnected : Bool) : Lawful (lookedUp reconnected []) :=
    lawful_lookedUp empty reconnected
  have drained : Marks ([], retained) (drainChatInboxWithReconnect control : ChatM δ Unit)
      (fun _ reached => ∃ reconnected, reached.1 = lookedUp reconnected [])
      (fun reached => Lawful reached.1) := by
    apply marks_after (quiet_attempt quiet_pollChatIncoming) (lawful false)
    rintro (error | _)
    · apply marks_ite
      · intro _
        apply marks_bind ((marks_reconnectChatSession control _).weaken (fun _ _ ended => ended)
          fun _ ended => ended ▸ lawful false)
        rintro info reached rfl
        apply marks_after quiet_get (lawful true)
        intro session
        apply marks_after (quiet_emit _) (lawful true)
        intro _
        refine (marks_quiet quiet_pollChatIncoming (lawful true)).weaken ?_ fun _ held => held
        rintro _ reached rfl
        exact ⟨true, rfl⟩
      · intro _
        exact marks_fail _ (lawful false)
    · exact marks_pure ⟨false, rfl⟩
  apply marks_bind drained
  rintro _ ⟨log, retained⟩ ⟨reconnected, rfl⟩
  apply marks_after (quiet_request _) (lawful reconnected)
  intro _
  apply marks_setRetained
  exact marks_settled (quiet_setPending _) ⟨lawful reconnected, by rw [draftOf_lookedUp]; rfl⟩

end Lines

variable {session start : Session δ}

/-- At the start of every turn the session is settled. -/
theorem settled_turnStart (fresh : session.log = [])
    (turn : TurnStart control session start) : AtRest start.mark := by
  obtain ⟨opened, ran, visited⟩ := turn
  apply visited.invariant fun _ reached => AtRest reached.mark
  · have begun : session.mark = ([], session.retainedDraft) := by rw [← fresh]; rfl
    have ended := marks_openChat control session begun
    rw [ran] at ended
    exact ended
  · intro _ between _ reached settled ended
    have turned := marks_chatTurn control settled between rfl
    rw [ended] at turned
    exact turned

omit [ChatEnvironment δ] in
/-- Wherever a computation ends, its mark is one of those it may end with. -/
theorem KeepsLaw.lawful {α : Type} {body : ChatM δ α} (marks : KeepsLaw mark body)
    (same : start.mark = mark) : Lawful (body start).2.log := by
  have ended := marks start same
  rcases ran : body start with ⟨value | error | _, reached⟩
  all_goals rw [ran] at ended
  · exact ended.1
  · exact ended
  · exact ended

/-- The log of every session obeys the law, wherever the session ends. -/
theorem lawful_runChatLines (fresh : session.log = []) :
    Lawful (runChatLines control session).2.log := by
  have begun : session.mark = ([], session.retainedDraft) := by rw [← fresh]; rfl
  have opening := (marks_openChat control).lawful begun
  unfold runChatLines
  rw [bind_apply]
  rcases ran : openChat control session with ⟨_ | error | _, opened⟩
  · -- the loop ends with one of its turns, each of which starts settled
    obtain ⟨_, start, visited, ended⟩ :=
      loop_ends Session.remaining (fun _ : Unit => chatTurn control) () opened
    have settled := settled_turnStart control fresh ⟨opened, ran, visited⟩
    rcases ended with last | last
    · rw [last]
      exact (marks_chatTurn control settled).lawful rfl
    · rw [last]
      exact settled.1
  · rw [ran] at opening
    exact opening
  · rw [ran] at opening
    exact opening

end Chat

/-- Every session keeps its ledger, whatever is typed and whatever the device, the hooks and the
reconnections do, and at the start of every turn it retains the draft that the ledger says. -/
theorem Chat.runChatLines_ledger {δ : Type} [ChatEnvironment δ] (control : ChatSessionControl)
    (session : Session δ) (fresh : session.log = []) :
    Ledger (runChatLines control session).2.log ∧
      ∀ start, TurnStart control session start → start.retainedDraft = draftOf start.log :=
  ⟨(lawful_runChatLines control fresh).ledger,
    fun _ turn => (settled_turnStart control fresh turn).2⟩

/-- A message whose send fails, a second one, another channel, and `/send`. -/
def sampleSession : Session Script :=
  { environment :=
      { sends := [.error .disconnected], lines := ["hi", "more", "/channel 3", "/send"] }
    remaining := 60
    target := chatChannelTarget 0 }

/-- The draft of the first message is retained, keeps its channel, and is sent once more. -/
theorem Chat.sampleSession_ledger :
    let draft : RetainedChatDraft := { target := chatChannelTarget 0, text := "hi" }
    let log := (runChatLines sampleControl sampleSession).2.log
    log = [.accepted, .attempt draft, .line .sendRetained (some draft),
      .line (.channel 3) (some draft), .line (.message "more") (some draft), .retained draft,
      .reconnected, .refused .disconnected, .attempt draft, .line (.message "hi") none] ∧
    Ledger log :=
  ⟨by decide +kernel, (runChatLines_ledger sampleControl sampleSession rfl).1⟩

end Meshquill
