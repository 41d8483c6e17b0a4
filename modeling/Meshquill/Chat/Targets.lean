import Meshquill.Chat.Ledger

/-!
# Where a message goes

A direct target is selected as a contact, but a message line is sent to whatever its destination
text names at that moment: a channel, if the text is a number, and otherwise the contact that
`resolve_contact` finds under it. The text is the advertised name of the selected contact. So a
message reaches the selected contact exactly when that name is no channel number and no other
contact has it, however the contact itself was selected.
-/
namespace Meshquill

open Async

namespace Chat

variable {δ α : Type} [ChatEnvironment δ]

/-! ## Answered questions -/

variable {value : α} {events : List Event} {next : δ}

theorem ask_of_answer {call : ChatCall α} {session : Session δ}
    (answered : ChatEnvironment.answer call session.environment = (some value, events, next))
    (left : 0 < session.remaining) :
    ask call session = (.done value,
      { session with
        environment := next
        remaining := session.remaining - 1
        unread := session.unread ++ events }) := by
  unfold ask
  cases count : session.remaining with
  | zero => omega
  | succ remaining =>
    simp only [answered]
    rfl

theorem request_of_answer {call : ChatCall (Except CliError α)} {session : Session δ}
    (answered : ChatEnvironment.answer call session.environment = (some (.ok value), events, next))
    (left : 0 < session.remaining) :
    request call session = (.done value,
      { session with
        environment := next
        remaining := session.remaining - 1
        unread := session.unread ++ events }) := by
  unfold request
  rw [bind_apply, ask_of_answer answered left]
  rfl

end Chat

open Chat

/-- The history begins every message and the output takes every record. -/
structure Chat.Obliging (δ : Type) [ChatEnvironment δ] : Prop where
  begins : ∀ peer channel text (environment : δ), ∃ messageId events next,
    ChatEnvironment.answer (.beginOutgoing peer channel text) environment =
      (some (.ok messageId), events, next)
  writes : ∀ output (environment : δ), ∃ events next,
    ChatEnvironment.answer (.write output) environment = (some (.ok ()), events, next)

/-- The session once it has taken up a line. -/
def Session.taking {δ : Type} (session : Session δ) (parsed : ParsedChatLine) : Session δ :=
  { session with log := .line parsed session.retainedDraft :: session.log }

/-- No hook rewrites the message, and the lookup of its target finds these contacts, perhaps after
a reconnection. -/
structure Chat.Undisturbed {δ : Type} [ChatEnvironment δ] (control : ChatSessionControl)
    (contacts : List Contact) (reconnected : Bool) (text : String)
    (session prepared listed : Session δ) : Prop where
  hook : request (.prepareSend session.target.destination text) session =
    (.done { destination := session.target.destination, text }, prepared)
  prepared_left : 0 < prepared.remaining
  lookup : listChatContactsWithReconnect control "chat send target lookup transport failed"
    prepared = (.done (contacts, reconnected), listed)
  listed_left : 1 < listed.remaining

/-! ## Attempts -/

variable {draft : RetainedChatDraft} {log : List ChatEntry} {mark : Mark}

/-- From its attempt on, a submission is one attempt of its draft. -/
theorem Submission.attempts_eq (stage : Submission draft log mark) :
    attempts mark.1 = draft :: attempts log := by
  cases stage with
  | accepted waited => cases waited <;> rfl
  | _ => rfl

theorem Chat.Submitted.submission (submitted : Submitted draft log mark) :
    Submission draft log mark := by
  rcases submitted with ⟨trail, waited, rfl⟩ | ⟨error, trigger, rfl⟩
  · exact .accepted waited
  · exact .retained trigger

@[simp] theorem attempts_lookedUp (reconnected : Bool) (log : List ChatEntry) :
    attempts (lookedUp reconnected log) = attempts log := by
  cases reconnected <;> rfl

namespace Chat

variable {δ : Type} [ChatEnvironment δ]

/-- A submission that the history begins is one attempt of its draft, however it goes on. -/
theorem attempts_submitChatDraft (obliging : Obliging δ) (control : ChatSessionControl)
    (draft : RetainedChatDraft) {session : Session δ} (free : session.retainedDraft = none)
    (left : 0 < session.remaining) :
    attempts (submitChatDraft control draft session).2.log = draft :: attempts session.log := by
  obtain ⟨messageId, events, next, begun⟩ := obliging.begins draft.target.destination
    draft.target.channel draft.text session.environment
  unfold submitChatDraft
  rw [bind_apply, request_of_answer begun left]
  generalize started : Session.mk next _ _ _ _ _ _ _ = begunSession
  have same : begunSession.mark = (session.log, none) := by
    rw [← started, ← free]
    rfl
  have ended := marks_sendDraft control draft messageId begunSession same
  show attempts (sendDraft control draft messageId begunSession).2.log = _
  rcases ran : sendDraft control draft messageId begunSession with ⟨flow | error | _, reached⟩
  all_goals rw [ran] at ended
  · exact (Submitted.submission ended).attempts_eq
  · exact Submission.attempts_eq ended
  · exact Submission.attempts_eq ended

variable {control : ChatSessionControl} {contacts : List Contact} {reconnected : Bool}
  {text : String} {session prepared listed : Session δ}

/-- What follows a submission sends nothing. -/
theorem attempts_submitted (obliging : Obliging δ) (control : ChatSessionControl)
    (draft : RetainedChatDraft) (reconnected : Bool) {session : Session δ}
    (free : session.retainedDraft = none) (left : 0 < session.remaining) :
    attempts ((submitChatDraft control draft >>= fun flow =>
      pure (flow.after reconnected)) session).2.log = draft :: attempts session.log := by
  have still (flow : ChatLineFlow) (session : Session δ) :
      ((pure (flow.after reconnected) : ChatM δ ChatLineFlow) session).2 = session := rfl
  rw [bind_reaches still]
  exact attempts_submitChatDraft obliging control draft free left

/-- What the lookup of a destination that is no number resolves to. -/
theorem prepareChatTarget_eq {destination reason : String}
    (lookup : listChatContactsWithReconnect control reason session =
      (.done (contacts, reconnected), listed)) (noNumber : parseU8 destination = none) :
    prepareChatTargetWithReconnect control destination reason session =
      (do
        let contact ← ofExcept (resolveContact (ChatEnvironment.lowercase δ) contacts destination)
        pure (chatContactTarget contact, reconnected)) listed := by
  unfold prepareChatTargetWithReconnect
  rw [noNumber]
  simp only
  rw [bind_apply, lookup]

section Targeted

variable (undisturbed : Undisturbed control contacts reconnected text session prepared listed)

include undisturbed

theorem Undisturbed.prepared_mark : prepared.mark = session.mark := by
  have quiet := quiet_request (.prepareSend session.target.destination text) session
  rw [undisturbed.hook] at quiet
  exact quiet

theorem Undisturbed.listed_mark :
    listed.mark = (lookedUp reconnected session.log, session.retainedDraft) := by
  have marked := marks_listChatContactsWithReconnect control
    "chat send target lookup transport failed" prepared undisturbed.prepared_mark
  rw [undisturbed.lookup] at marked
  exact marked

variable (free : session.retainedDraft = none)

include free

/-- The branch for a message, from the point where its hook has returned. -/
theorem handleMessage_eq :
    handleMessage control text session =
      (do
        let (sendTarget, targetReconnected) ← prepareChatTargetWithReconnect control
          session.target.destination "chat send target lookup transport failed"
        whenever targetReconnected (emitChatState session.target "reconnected" false
          ("Reconnected while resolving the unsent draft; " ++
            "its text was retained and no message was replayed."))
        let flow ← submitChatDraft control { target := sendTarget, text }
        pure (flow.after targetReconnected)) prepared := by
  unfold handleMessage
  rw [bind_apply, get_apply]
  simp only [free]
  rw [bind_apply, undisturbed.hook]

/-- A destination that is a number is a channel, whatever was selected. -/
theorem attempts_handleMessage_channel (obliging : Obliging δ) {channel : UInt8}
    (number : parseU8 session.target.destination = some channel) :
    attempts (handleMessage control text session).2.log =
      { target := chatChannelTarget channel, text } :: attempts session.log := by
  obtain ⟨sameLog, sameDraft⟩ := Prod.mk.inj undisturbed.prepared_mark
  rw [handleMessage_eq undisturbed free, ← sameLog]
  unfold prepareChatTargetWithReconnect
  rw [number]
  exact attempts_submitted obliging control _ false (sameDraft.trans free) undisturbed.prepared_left

/-- A destination that names one contact is that contact. -/
theorem attempts_handleMessage_contact (obliging : Obliging δ) {contact : Contact}
    (noNumber : parseU8 session.target.destination = none)
    (resolved : resolveContact (ChatEnvironment.lowercase δ) contacts
      session.target.destination = .ok contact) :
    attempts (handleMessage control text session).2.log =
      { target := chatContactTarget contact, text } :: attempts session.log := by
  obtain ⟨sameLog, sameDraft⟩ := Prod.mk.inj undisturbed.listed_mark
  have sameAttempts : attempts session.log = attempts listed.log := by
    rw [sameLog, attempts_lookedUp]
  rw [handleMessage_eq undisturbed free, bind_apply, prepareChatTarget_eq undisturbed.lookup
    noNumber, resolved, sameAttempts]
  have left := undisturbed.listed_left
  cases reconnected with
  | false => exact attempts_submitted obliging control _ false (sameDraft.trans free) (by omega)
  | true =>
    obtain ⟨events, next, written⟩ := obliging.writes (.state session.target "reconnected" false
      ("Reconnected while resolving the unsent draft; " ++
        "its text was retained and no message was replayed.")) listed.environment
    show attempts ((emitChatState session.target "reconnected" false _ >>= fun _ =>
      submitChatDraft control { target := chatContactTarget contact, text } >>= fun flow =>
        pure (flow.after true)) listed).2.log = _
    unfold emitChatState emit
    rw [bind_apply, request_of_answer written (by omega)]
    refine attempts_submitted obliging control _ true ?_ ?_
    · exact sameDraft.trans free
    · show 0 < listed.remaining - 1
      omega

/-- A destination that resolves to nothing is refused, and nothing is sent. -/
theorem handleMessage_refused {error : CliError}
    (noNumber : parseU8 session.target.destination = none)
    (refused : resolveContact (ChatEnvironment.lowercase δ) contacts
      session.target.destination = .error error) :
    handleMessage control text session = (.failed error, listed) := by
  rw [handleMessage_eq undisturbed free, bind_apply, prepareChatTarget_eq undisturbed.lookup
    noNumber, refused]
  rfl

end Targeted

/-- A message line is taken up and handled as its text. -/
theorem handleChatLine_message (control : ChatSessionControl) {line : String} {session : Session δ}
    (parsed : parseChatLine (ChatEnvironment.lowercase δ) line = .message text) :
    handleChatLine control line session =
      handleMessage control text (session.taking (.message text)) := by
  unfold handleChatLine
  rw [bind_apply, get_apply]
  simp only [parsed]
  rfl

/-- A channel is never a direct target. -/
theorem chatChannelTarget_ne (channel : UInt8) (contact : Contact) :
    chatChannelTarget channel ≠ chatContactTarget contact := by
  intro same
  cases congrArg ChatTarget.channel same

/-- A draft for a contact is sent to the first six bytes of its key. -/
theorem sendChatMessage_contact (contact : Contact) (text : String) :
    (sendChatMessage (chatContactTarget contact) text : ChatM δ _) =
      (do pure ((← ask (.sendDirectText (contact.publicKey.val.take 6) 0 text)).map some)) := rfl

section Selecting

variable {query reason : String} {contact : Contact}
  (lookup : listChatContactsWithReconnect control reason session =
    (.done (contacts, reconnected), listed))
  (resolved : resolveContact (ChatEnvironment.lowercase δ) contacts query = .ok contact)

include resolved

include lookup in
/-- The contact that a chat starts with, or that a message is sent to. -/
theorem prepareChatTarget_selects (noNumber : parseU8 query = none) :
    prepareChatTargetWithReconnect control query reason session =
      (.done (chatContactTarget contact, reconnected), listed) := by
  rw [prepareChatTarget_eq lookup noNumber, resolved]
  rfl

omit resolved in
/-- Output leaves the target alone. -/
theorem target_emit (output : ChatOutput) (session : Session δ) :
    (emit output session).2.target = session.target := by
  have asked : (ask (.write output) session).2.target = session.target := by
    unfold ask
    split
    · rfl
    · dsimp only
      split <;> rfl
  rw [← asked]
  refine congrArg Session.target (bind_reaches (fun result _ => ?_) session)
  rw [ofExcept_eq_exit]
  rfl

theorem target_retarget (session : Session δ) :
    (retarget contacts query session).2.target = chatContactTarget contact := by
  unfold retarget
  rw [resolved]
  exact target_emit ..

/-- `/to` selects the contact. -/
theorem target_handleTo {flow : ChatLineFlow}
    (lookup : listChatContactsWithReconnect control "chat destination lookup transport failed"
      session = (.done (contacts, reconnected), listed))
    (ended : (handleTo control query session).1 = .done flow) :
    (handleTo control query session).2.target = chatContactTarget contact := by
  have tail (told : ChatM δ Unit) : Returns (fun _ => True)
      (do told; retarget contacts query; pure (ChatLineFlow.ofReconnected reconnected))
      (fun _ reached => reached.target = chatContactTarget contact) :=
    returns_then fun _ => returns_bind (fun reached _ _ _ => target_retarget resolved reached)
      fun _ => returns_pure _ fun _ same => same
  unfold handleTo at ended ⊢
  rw [bind_apply, get_apply] at ended ⊢
  dsimp only at ended ⊢
  rw [bind_apply, lookup] at ended ⊢
  exact tail _ listed trivial flow ended

end Selecting

/-! ## Samples -/

/-- The script begins and writes everything. -/
theorem obliging_script : Obliging Script where
  begins _ _ _ environment := ⟨"message", [], environment, rfl⟩
  writes _ environment := ⟨[], environment, rfl⟩

/-- A chat contact with this name and a key of one repeated byte. -/
def sampleChatContact (name : String) (key : UInt8) : Contact :=
  { publicKey := ⟨List.replicate 32 key, List.length_replicate⟩, contactType := .chat, flags := 0
    route := .flood, outPath := ⟨[], by decide⟩, advName := name, lastAdvert := 0, advLat := 0
    advLon := 0, lastmod := 0 }

/-- A chat over these contacts. -/
def sampleChat (contacts : List Contact) (target : ChatTarget) (lines : List String) :
    Session Script :=
  { environment := { contacts, lines }, remaining := 40, target }

end Chat

end Meshquill
