import Meshquill.Client.Listening

/-!
# Who gets a packet that is read while an operation waits

The contact listing keeps the contacts and remote requests keep the response that belongs to
them. Everything else that is read in the meantime is published and tracked, as it is when
nothing is waited for.
-/
namespace Meshquill

/-- The contact that a packet of a listing carries. -/
def Packet.contact? : Packet → Option Contact
  | .contact row => some row
  | _ => none

/-- A packet after which a listing is not read on. -/
def Packet.endsListing : Packet → Bool
  | .contactEnd _ | .noMoreMsgs | .error _ => true
  | _ => false

namespace Client

open Async

variable {τ ε α β : Type}

/-! ## The contact listing -/

variable {read : ClientM τ ε Packet} {carried last : List Contact} {reached : World τ ε}
  {packets : List Packet}

/-- The contacts that a listing has collected are those of its packets, in order. -/
theorem Listened.contacts {world : World τ ε}
    (listened : Listened read contactsJudge carried world packets last reached) :
    last = carried ++ packets.filterMap Packet.contact? := by
  induction listened with
  | done => simp
  | @kept _ _ _ _ _ _ packet _ reads judged later ih =>
    cases packet <;> cases judged
    rw [ih, List.append_assoc]
    rfl
  | @passed _ _ _ _ _ packet _ reads judged later ih =>
    have other : packet.contact? = none := by
      cases packet <;> first
        | rfl
        | cases judged
    rw [ih, List.filterMap_cons_none other]

/-- A listing keeps what the parser has accepted. -/
theorem Listened.accepted (reading : Reading read) {world : World τ ε}
    (listened : Listened read contactsJudge carried world packets last reached)
    {contact : Contact} (inside : .contact contact ∈ packets) :
    ∃ raw, Packet.parse raw = .ok (.contact contact) := by
  induction listened with
  | done => cases inside
  | kept reads judged later ih | passed reads judged later ih =>
    rcases List.mem_cons.mp inside with rfl | inside
    · obtain ⟨raw, parsed, accepted, numbered, -⟩ := reading.accepts reads
      obtain rfl := Trace.eq_of_number numbered.symm rfl
      exact ⟨raw, accepted⟩
    · exact ih inside

theorem follows_contactsJudge : Follows .getContacts contactsJudge := by
  intro carried packet
  cases packet <;> rfl

theorem role_getContacts_part (packet : Packet) :
    decide (CommandCode.getContacts.role packet = .part) = packet.contact?.isSome := by
  cases packet <;> rfl

theorem endsListing_of_role {packet : Packet} (goesOn : CommandCode.getContacts.role packet ≠ .last) :
    packet.endsListing = false := by
  cases packet <;> first
    | rfl
    | exact absurd rfl goesOn

section Transported

variable [Transport τ ε]

/-- How a listing ends that has collected these contacts. -/
inductive ListingEnd (contacts : List Contact) (middle : World τ ε) :
    Exit CoreError ContactCollection × World τ ε → Prop
  | ended {lastmod : UInt32} {reached : World τ ε}
    (reads : readNextPacketWithTimeout middle = (.done (.contactEnd lastmod), reached)) :
    ListingEnd contacts middle (.done { contacts, lastmod := some lastmod }, reached)
  | exhausted {reached : World τ ε}
    (reads : readNextPacketWithTimeout middle = (.done .noMoreMsgs, reached)) :
    ListingEnd contacts middle (.done { contacts, lastmod := none }, reached)
  | refused {code : Option UInt8} {reached : World τ ε}
    (reads : readNextPacketWithTimeout middle = (.done (.error code), reached)) :
    ListingEnd contacts middle
      (.failed (.protocolInvariant "contact request returned an error"), reached)
  | unread {halt : Option CoreError} {reached : World τ ε}
    (reads : readNextPacketWithTimeout middle = (.halted halt, reached)) :
    ListingEnd contacts middle (.halted halt, reached)

theorem LoopEnd.listing {contacts : List Contact} {middle : World τ ε}
    {outcome : Exit CoreError ContactCollection × World τ ε}
    (ends : LoopEnd readNextPacketWithTimeout contactsJudge contacts middle outcome) :
    ListingEnd contacts middle outcome := by
  cases ends with
  | @ready packet value reached reads judged =>
    cases packet <;> cases judged
    · exact .ended reads
    · exact .exhausted reads
  | @refused packet error reached reads judged =>
    cases packet <;> cases judged
    exact .refused reads
  | unread reads => exact .unread reads

/-- A command that was sent has left the client able to send. -/
theorem ready_of_sent {command : Command} {world sent : World τ ε}
    (sends : sendOnly command world = (.done (), sent)) :
    world.client.Ready ∧ sent.trace = world.trace.note (.wrote command.intoEncoded) := by
  have ends := sendOnly_ends command world
  rw [sends] at ends
  simp only at ends
  generalize moved : sent.trace = trace at ends
  generalize exited : (Exit.done () : Exit CoreError Unit) = exit at ends
  cases ends with
  | disconnected | refused => cases exited
  | tried connected answered writes =>
    cases writes <;> cases exited
    exact ⟨⟨connected, SyncState.idle_of_ne answered⟩, rfl⟩

theorem collectContacts_eq (lastmod : Option UInt32) :
    (collectContacts lastmod : ClientM τ ε ContactCollection) = (do
      sendOnly (Command.getContacts lastmod)
      awaitResponse readNextPacketWithTimeout contactsJudge []) := by
  funext world
  simp only [collectContacts, sendOnly, ensureConnected, Async.bind_apply]
  cases connected : world.client.connected with
  | false => rfl
  | true => simp [connected]

end Transported

end Client

open Client in
/-- A listing whose request was sent returns the contacts of the packets that are read before the
first one that ends it, in order, with the marker of a packet that ends it well. Every other
packet read before is published once if it has an event, and tracked. -/
theorem contacts_listed_in_order {τ ε : Type} [Transport τ ε] (lastmod : Option UInt32)
    (world : World τ ε) :
    (∃ halt reached, sendOnly (Command.getContacts lastmod) world = (.halted halt, reached) ∧
      (collectContacts lastmod : ClientM τ ε ContactCollection) world = (.halted halt, reached)) ∨
    ∃ sent packets middle observed,
      sendOnly (Command.getContacts lastmod) world = (.done (), sent) ∧
      Listened readNextPacketWithTimeout contactsJudge [] sent packets
        (packets.filterMap Packet.contact?) middle ∧
      (∀ packet ∈ packets, packet.endsListing = false) ∧
      Overheard (·.contact?.isSome) sent.trace middle.trace packets observed ∧
      ListingEnd (packets.filterMap Packet.contact?) middle
        ((collectContacts lastmod : ClientM τ ε ContactCollection) world) := by
  rw [collectContacts_eq, Async.bind_apply]
  rcases sends : sendOnly (Command.getContacts lastmod) world with ⟨_ | error | _, sent⟩
  · right
    obtain ⟨ready, wrote⟩ := ready_of_sent sends
    have can : sent.client.Ready := by
      rw [World.client, wrote]
      exact ⟨ready.connected, ready.idle⟩
    obtain ⟨packets, last, middle, listened, ends⟩ :=
      awaitResponse_listens contactsJudge spends_readNextPacketWithTimeout [] sent
    obtain ⟨goesOn, observed, heard⟩ :=
      listened.heard reading_readNextPacketWithTimeout follows_contactsJudge can
    simp only [role_getContacts_part] at heard
    obtain rfl := listened.contacts
    exact ⟨sent, packets, middle, observed, rfl, listened,
      fun packet inside => endsListing_of_role (goesOn packet inside), heard, ends.listing⟩
  · exact .inl ⟨some error, sent, rfl, rfl⟩
  · exact .inl ⟨none, sent, rfl, rfl⟩

/-! ## Remote requests -/

/-- A packet that answers the sending of a request. -/
def Packet.answersSend : Packet → Bool
  | .msgSent .. | .error _ => true
  | _ => false

/-- A packet with which a device turns down a request. -/
def Packet.isRefusal : Packet → Bool
  | .error _ | .disabled => true
  | _ => false

def Packet.binaryResponse? : Packet → Option BinaryResponse
  | .binaryResponse response => some response
  | _ => none

def Packet.remoteStatus? : Packet → Option RemoteStatus
  | .remoteStatus status => some status
  | _ => none

def Packet.pathDiscovery? : Packet → Option PathDiscovery
  | .pathDiscovery path => some path
  | _ => none

/-- The key prefix with which a packet answers a login. -/
def Packet.loginPrefix? : Packet → Option KeyPrefix
  | .loginSuccess session => some session.pubkeyPrefix
  | .loginFailed pubkeyPrefix => some pubkeyPrefix
  | _ => none

namespace Client

open Async

variable {τ ε α β : Type}

/-- The request was written and accepted: other packets were passed on, and its own `MsgSent`
was read, which no tracker gets to know. -/
inductive Accepted (trace : Trace) (tracking : CommandTracking) : Trace → Prop
  | intro {payload : Bytes} {middle : Trace} {packets : List Packet}
    {observed : List Observation} {destinationType : UInt8}
    (heard : Overheard (fun _ => false) (trace.note (.wrote payload)) middle packets observed)
    (others : ∀ packet ∈ packets, packet.answersSend = false)
    (untracked : (middle.decode
        (.msgSent destinationType tracking.ackCode tracking.timeoutMs)).client = middle.client) :
    Accepted trace tracking
      (middle.decode (.msgSent destinationType tracking.ackCode tracking.timeoutMs))

/-- A wait ends without a value: with one of these packets, or with a read that gives none. -/
inductive Stops (stopping : Packet → Prop) (trace : Trace) (halt : Option CoreError) : Trace → Prop
  | refused {parsed : Packet} (stops : stopping (trace.number parsed)) :
    Stops stopping trace halt (trace.decode parsed)
  | unread {reached : Trace} (fails : ReadFails trace halt reached) :
    Stops stopping trace halt reached

/-- How a remote request goes, of whose `own` packets one of `answers` is the value. -/
inductive RemoteEnd (own : CommandTracking → Packet → Bool)
    (answers : CommandTracking → Packet → α → Prop) (trace : Trace) :
    Exit CoreError α → Trace → Prop
  | unsent {halt : Option CoreError} {reached : Trace} {observed : List Observation}
    (observes : trace.Observes reached observed)
    (unread : observed.filterMap Observation.decoded? = []) :
    RemoteEnd own answers trace (.halted halt) reached
  | unaccepted {halt : Option CoreError} {payload : Bytes} {middle reached : Trace}
    {packets : List Packet} {observed : List Observation}
    (heard : Overheard (fun _ => false) (trace.note (.wrote payload)) middle packets observed)
    (others : ∀ packet ∈ packets, packet.answersSend = false)
    (stops : Stops (·.isRefusal = true) middle halt reached) :
    RemoteEnd own answers trace (.halted halt) reached
  | unanswered {halt : Option CoreError} {tracking : CommandTracking}
    {accepted middle reached : Trace} {packets : List Packet} {observed : List Observation}
    (accepts : Accepted trace tracking accepted)
    (heard : Overheard (fun _ => false) accepted middle packets observed)
    (others : ∀ packet ∈ packets, own tracking packet = false)
    (stops : Stops (fun packet => packet.isRefusal = true ∨ own tracking packet = true) middle halt
      reached) :
    RemoteEnd own answers trace (.halted halt) reached
  | answered {value : α} {tracking : CommandTracking} {accepted middle : Trace} {parsed : Packet}
    {packets : List Packet} {observed : List Observation}
    (accepts : Accepted trace tracking accepted)
    (heard : Overheard (fun _ => false) accepted middle packets observed)
    (others : ∀ packet ∈ packets, own tracking packet = false)
    (answer : answers tracking (middle.number parsed) value) :
    RemoteEnd own answers trace (.done value) (middle.decode parsed)

/-- What an operation makes of a packet that it waits for: a value, a failure over a packet of
its own, or nothing, because the packet is not its own. -/
def Extracts (extract : Packet → PacketWait Unit α) (own : Packet → Bool)
    (answers : Packet → α → Prop) : Prop :=
  ∀ packet, (∃ value, extract packet = .ready value ∧ answers packet value) ∨
    (∃ error, extract packet = .fail error ∧ own packet = true) ∨
    (extract packet = .proceed ∧ own packet = false)

theorem answersSend_of_role {packet : Packet} (goesOn : (msgSentJudge () packet).role ≠ .last) :
    packet.answersSend = false := by
  cases packet <;> first
    | rfl
    | exact absurd rfl goesOn

theorem role_msgSentJudge_part (packet : Packet) :
    decide ((msgSentJudge () packet).role = .part) = false := by
  cases packet <;> rfl

section Waiting

variable {extract : Packet → PacketWait Unit α} {own : Packet → Bool}
  {answers : Packet → α → Prop} {operation : String} {packet : Packet}

variable (extracts : Extracts extract own answers)

include extracts

/-- What the wait makes of it: the device may also refuse. -/
theorem Extracts.judges (operation : String)
    (packet : Packet) :
    (∃ value, waitJudge operation extract () packet = .ready value ∧ answers packet value) ∨
    (∃ error, waitJudge operation extract () packet = .fail error ∧
      (packet.isRefusal = true ∨ own packet = true)) ∨
    (waitJudge operation extract () packet = .proceed ∧ own packet = false) := by
  rcases extracts packet with ⟨value, ready, answer⟩ | ⟨error, fails, mine⟩ | ⟨proceeds, foreign⟩
  · exact .inl ⟨value, by simp only [waitJudge, ready], answer⟩
  · exact .inr (.inl ⟨error, by simp only [waitJudge, fails], .inr mine⟩)
  · cases refusal : packet.isRefusal with
    | true =>
      cases packet with
      | error code =>
        refine .inr (.inl ⟨.deviceRejected operation code, ?_, .inl rfl⟩)
        simp only [waitJudge, proceeds]
      | disabled =>
        refine .inr (.inl ⟨.featureDisabled operation, ?_, .inl rfl⟩)
        simp only [waitJudge, proceeds]
      | _ => cases refusal
    | false =>
      refine .inr (.inr ⟨?_, foreign⟩)
      simp only [waitJudge, proceeds]
      cases packet <;> first
        | rfl
        | cases refusal

theorem Extracts.role_part (packet : Packet) :
    decide ((waitJudge operation extract () packet).role = .part) = false := by
  rcases extracts.judges operation packet with ⟨_, judged, -⟩ | ⟨_, judged, -⟩ | ⟨judged, -⟩
  all_goals
    rw [judged]
    rfl

theorem Extracts.other_of_role
    (goesOn : (waitJudge operation extract () packet).role ≠ .last) : own packet = false := by
  rcases extracts.judges operation packet with ⟨_, judged, -⟩ | ⟨_, judged, -⟩ | ⟨-, foreign⟩
  · rw [judged] at goesOn
    exact absurd rfl goesOn
  · rw [judged] at goesOn
    exact absurd rfl goesOn
  · exact foreign

theorem Extracts.answer {value : α}
    (ready : waitJudge operation extract () packet = .ready value) : answers packet value := by
  rcases extracts.judges operation packet with ⟨_, judged, answer⟩ | ⟨_, judged, -⟩ | ⟨judged, -⟩
  · cases judged.symm.trans ready
    exact answer
  · cases judged.symm.trans ready
  · cases judged.symm.trans ready

theorem Extracts.stops {error : CoreError}
    (fails : waitJudge operation extract () packet = .fail error) :
    packet.isRefusal = true ∨ own packet = true := by
  rcases extracts.judges operation packet with ⟨_, judged, -⟩ | ⟨_, -, stops⟩ | ⟨judged, -⟩
  · cases judged.symm.trans fails
  · exact stops
  · cases judged.symm.trans fails

end Waiting

/-- Sending a command reads nothing. -/
theorem SendEnd.observes {payload : Bytes} {trace reached : Trace} {exit : Exit CoreError Unit}
    (ends : SendEnd payload trace exit reached) :
    ∃ observed, trace.Observes reached observed ∧
      observed.filterMap Observation.decoded? = [] := by
  cases ends with
  | disconnected closed => exact ⟨[], rfl, rfl⟩
  | refused unanswered => exact ⟨_, Trace.note_observes .., rfl⟩
  | tried connected answered writes =>
    cases writes with
    | written | unsendable | late | broken | dropped => exact ⟨_, Trace.note_observes .., rfl⟩
    | closed =>
      obtain ⟨observed, observes, -, unread⟩ :=
        (trace.note (.wrote payload)).markDisconnected_observes
      exact ⟨_, (Trace.note_observes ..).cons observes, unread⟩

section Transported

variable [Transport τ ε] (command : Command)

/-- The two loops of every remote request. -/
def remoteRequest (operation : String)
    (extract : CommandTracking → Packet → PacketWait Unit α) : ClientM τ ε α := do
  let tracking ← sendCommandExpectMsgSentUntracked command
  waitForPacket (← remoteResponseTimeout tracking.timeoutMs) operation (extract tracking)

/-- The first loop. -/
theorem sendUntracked_ends (world : World τ ε) :
    (∃ tracking accepted,
      sendCommandExpectMsgSentUntracked command world = (.done tracking, accepted) ∧
        Accepted world.trace tracking accepted.trace ∧ accepted.client.Ready) ∨
    ∃ halt reached, sendCommandExpectMsgSentUntracked command world = (.halted halt, reached) ∧
      ∀ (value : Type) own (answers : CommandTracking → Packet → value → Prop),
        RemoteEnd own answers world.trace (.halted halt) reached.trace := by
  have ends := sendOnly_ends command world
  simp only [sendCommandExpectMsgSentUntracked, sendCommandExpectMsgSentInner, Async.bind_apply]
  rcases sends : sendOnly command world with ⟨_ | error | _, sent⟩
  · obtain ⟨ready, wrote⟩ := ready_of_sent sends
    have can : sent.client.Ready := by
      rw [World.client, wrote]
      exact ⟨ready.connected, ready.idle⟩
    obtain ⟨packets, last, middle, listened, ends⟩ :=
      awaitResponse_listens msgSentJudge spends_readNextPacketWithTimeout () sent
    have follows : ∀ carried packet,
      (msgSentJudge carried packet).role = (msgSentJudge () packet).role := fun _ _ => rfl
    obtain ⟨goesOn, observed, heard⟩ := listened.heard reading_readNextPacketWithTimeout follows can
    simp only [role_msgSentJudge_part] at heard
    rw [wrote] at heard
    have others : ∀ packet ∈ packets, packet.answersSend = false :=
      fun packet inside => answersSend_of_role (goesOn packet inside)
    simp only
    generalize awaitResponse readNextPacketWithTimeout msgSentJudge () sent = outcome at ends
    cases ends with
    | @ready packet value reached reads judged =>
      obtain ⟨parsed, numbered, decodes⟩ := reading_readNextPacketWithTimeout.decodes reads
      cases packet <;> cases judged
      obtain rfl := Trace.eq_of_number numbered.symm rfl
      have still : reached.client.Ready := by
        rw [World.client, decodes]
        exact Trace.ready_decode heard.ready _
      refine .inl ⟨_, reached, rfl, ?_, still⟩
      rw [decodes]
      exact .intro heard others rfl
    | @refused packet error reached reads judged =>
      have refusal : packet.isRefusal = true := by
        cases packet <;> cases judged
        rfl
      obtain ⟨parsed, rfl, decodes⟩ := reading_readNextPacketWithTimeout.decodes reads
      refine .inr ⟨some error, reached, rfl, fun _ _ _ => .unaccepted heard others ?_⟩
      rw [decodes]
      exact .refused refusal
    | @unread halt reached reads =>
      have fails := reading_readNextPacketWithTimeout.fails reads
      refine .inr ⟨halt, reached, ?_, fun _ _ _ => .unaccepted heard others (.unread fails)⟩
      cases halt <;> rfl
  · rw [sends] at ends
    obtain ⟨observed, observes, unread⟩ := ends.observes
    exact .inr ⟨some error, sent, rfl, fun _ _ _ => .unsent observes unread⟩
  · rw [sends] at ends
    obtain ⟨observed, observes, unread⟩ := ends.observes
    exact .inr ⟨none, sent, rfl, fun _ _ _ => .unsent observes unread⟩

/-- The second loop. -/
theorem waitForPacket_ends {extract : Packet → PacketWait Unit α}
    {own : CommandTracking → Packet → Bool} {answers : CommandTracking → Packet → α → Prop}
    {trace : Trace} {tracking : CommandTracking} (duration : Duration) (operation : String)
    (extracts : Extracts extract (own tracking) (answers tracking)) (world : World τ ε)
    (accepts : Accepted trace tracking world.trace) (ready : world.client.Ready) :
    RemoteEnd own answers trace (waitForPacket duration operation extract world).1
      (waitForPacket duration operation extract world).2.trace := by
  have same : (waitForPacket duration operation extract world).1 =
        (awaitResponse readNextPacket (waitJudge operation extract) ()
          { world with deadline := true }).1 ∧
      (waitForPacket duration operation extract world).2.trace =
        (awaitResponse readNextPacket (waitJudge operation extract) ()
          { world with deadline := true }).2.trace := ⟨rfl, rfl⟩
  rw [same.1, same.2]
  obtain ⟨packets, last, middle, listened, ends⟩ := awaitResponse_listens
    (waitJudge operation extract) spends_readNextPacket () { world with deadline := true }
  have follows : ∀ carried packet, (waitJudge operation extract carried packet).role =
    (waitJudge operation extract () packet).role := fun _ _ => rfl
  obtain ⟨goesOn, observed, heard⟩ := listened.heard reading_readNextPacket follows ready
  simp only [extracts.role_part] at heard
  have others : ∀ packet ∈ packets, own tracking packet = false :=
    fun packet inside => extracts.other_of_role (goesOn packet inside)
  generalize awaitResponse readNextPacket (waitJudge operation extract) ()
    { world with deadline := true } = outcome at ends
  cases ends with
  | ready reads judged =>
    obtain ⟨parsed, rfl, decodes⟩ := reading_readNextPacket.decodes reads
    rw [decodes]
    exact .answered accepts heard others (extracts.answer judged)
  | @refused _ error _ reads judged =>
    obtain ⟨parsed, rfl, decodes⟩ := reading_readNextPacket.decodes reads
    rw [decodes]
    have stops : Stops (fun packet => packet.isRefusal = true ∨ own tracking packet = true)
      middle.trace (some error) (middle.trace.decode parsed) := .refused (extracts.stops judged)
    exact .unanswered accepts heard others stops
  | unread reads =>
    exact .unanswered accepts heard others (.unread (reading_readNextPacket.fails reads))

theorem remoteRequest_ends {own : CommandTracking → Packet → Bool}
    {answers : CommandTracking → Packet → α → Prop} (operation : String)
    {extract : CommandTracking → Packet → PacketWait Unit α}
    (extracts : ∀ tracking, Extracts (extract tracking) (own tracking) (answers tracking))
    (world : World τ ε) :
    RemoteEnd own answers world.trace (remoteRequest command operation extract world).1
      (remoteRequest command operation extract world).2.trace := by
  simp only [remoteRequest, Async.bind_apply]
  rcases sendUntracked_ends command world with
    ⟨tracking, accepted, sent, accepts, ready⟩ | ⟨halt, reached, halted, ends⟩
  · simp only [sent]
    exact waitForPacket_ends _ operation (extracts tracking) accepted accepts ready
  · cases halt with
    | none | some => simp only [halted]; exact ends α own answers

end Transported

/-! ### The requests -/

/-- An extractor that takes the values of one kind of packet that pass a test. -/
theorem extracts_of_select {extract : Packet → PacketWait Unit α} {select : Packet → Option α}
    {test : α → Prop} [DecidablePred test]
    (found : ∀ packet value, select packet = some value →
      extract packet = if test value then .ready value else .proceed)
    (missing : ∀ packet, select packet = none → extract packet = .proceed) :
    Extracts extract (fun packet => (select packet).any (test ·)) fun packet value =>
      select packet = some value ∧ test value := by
  intro packet
  cases selected : select packet with
  | none => exact .inr (.inr ⟨missing packet selected, by simp [selected]⟩)
  | some value =>
    rw [found packet value selected]
    by_cases passes : test value
    · exact .inl ⟨value, if_pos passes, selected, passes⟩
    · exact .inr (.inr ⟨if_neg passes, by simp [selected, passes]⟩)

theorem extracts_binary (code : Octets 4) :
    Extracts (binaryExtract code) (fun packet => packet.binaryResponse?.any (·.tag = code))
      fun packet value => packet.binaryResponse? = some value ∧ value.tag = code := by
  refine extracts_of_select ?_ ?_
  · intro packet value selected
    cases packet <;> cases selected
    rfl
  · intro packet selected
    cases packet <;> first
      | rfl
      | cases selected

section Prefixed

variable {expected : KeyPrefix} {bytes : Bytes} (same : expected.val = bytes)

include same

theorem extracts_remoteStatus :
    Extracts (remoteStatusExtract expected)
      (fun packet => packet.remoteStatus?.any (·.pubkeyPrefix.val = bytes))
      fun packet value => packet.remoteStatus? = some value ∧ value.pubkeyPrefix.val = bytes := by
  subst same
  refine extracts_of_select ?_ ?_
  · intro packet value selected
    cases packet <;> cases selected
    simp only [remoteStatusExtract, Subtype.ext_iff]
  · intro packet selected
    cases packet <;> first
      | rfl
      | cases selected

theorem extracts_pathDiscovery :
    Extracts (pathDiscoveryExtract expected)
      (fun packet => packet.pathDiscovery?.any (·.pubkeyPrefix.val = bytes))
      fun packet value => packet.pathDiscovery? = some value ∧ value.pubkeyPrefix.val = bytes := by
  subst same
  refine extracts_of_select ?_ ?_
  · intro packet value selected
    cases packet <;> cases selected
    simp only [pathDiscoveryExtract, Subtype.ext_iff]
  · intro packet selected
    cases packet <;> first
      | rfl
      | cases selected

theorem extracts_login :
    Extracts (loginExtract expected) (fun packet => packet.loginPrefix?.any (·.val = bytes))
      fun packet value => packet = .loginSuccess value ∧ value.pubkeyPrefix.val = bytes := by
  subst same
  intro packet
  cases packet with
  | loginSuccess session =>
    by_cases equal : session.pubkeyPrefix = expected
    · exact .inl ⟨session, if_pos equal, rfl, congrArg _ equal⟩
    · refine .inr (.inr ⟨if_neg equal, ?_⟩)
      simpa [Packet.loginPrefix?, Subtype.ext_iff] using equal
  | loginFailed pubkeyPrefix =>
    by_cases equal : pubkeyPrefix = expected
    · refine .inr (.inl ⟨_, if_pos equal, ?_⟩)
      simpa [Packet.loginPrefix?, Subtype.ext_iff] using equal
    · refine .inr (.inr ⟨if_neg equal, ?_⟩)
      simpa [Packet.loginPrefix?, Subtype.ext_iff] using equal
  | _ => exact .inr (.inr ⟨rfl, rfl⟩)

end Prefixed

section Transported

variable [Transport τ ε] {own : CommandTracking → Packet → Bool}
  {answers : CommandTracking → Packet → α → Prop} {world : World τ ε}

omit [Transport τ ε] in
/-- A request whose arguments are turned away is not sent. -/
theorem remoteEnd_ofExcept {checked : Except CoreError β} {next : β → ClientM τ ε α}
    (ends : ∀ value, checked = .ok value →
      RemoteEnd own answers world.trace (next value world).1 (next value world).2.trace) :
    RemoteEnd own answers world.trace ((ofExcept checked >>= next) world).1
      ((ofExcept checked >>= next) world).2.trace := by
  cases checked with
  | ok value => exact ends value rfl
  | error error =>
    have nothing : world.trace.Observes world.trace [] := rfl
    have unsent : RemoteEnd own answers world.trace (.halted (some error)) world.trace :=
      .unsent nothing rfl
    exact unsent

end Transported

end Client

/-- A response to a remote request. -/
def Packet.isRemoteResponse : Packet → Bool
  | .binaryResponse _ | .loginSuccess _ | .loginFailed _ | .remoteStatus _ | .pathDiscovery _ => true
  | _ => false

theorem take_of_keyPrefix {publicKey : Bytes} {expected : KeyPrefix}
    (found : keyPrefix publicKey = .ok expected) : expected.val = publicKey.take 6 := by
  unfold keyPrefix at found
  split at found <;> cases found
  rfl

open Client in
/-- A remote request that returns a value returns the response that belongs to it: the one with
the code of its own `MsgSent`, or with the first six bytes of the key that was asked. Its own
`MsgSent` changes no tracker. Whatever else is read, before and after that `MsgSent` and also by
a request that fails, is passed on, and a response always has an event to publish. -/
theorem remote_responses_attributed {τ ε : Type} [Transport τ ε] (world : World τ ε) :
    (∀ publicKey requestType data,
      RemoteEnd (fun tracking packet => packet.binaryResponse?.any (·.tag = tracking.ackCode))
        (fun tracking packet value =>
          packet.binaryResponse? = some value ∧ value.tag = tracking.ackCode)
        world.trace (binaryRequest publicKey requestType data world).1
        (binaryRequest publicKey requestType data world).2.trace) ∧
    (∀ publicKey requestType replyRoute replyPath,
      RemoteEnd (fun tracking packet => packet.binaryResponse?.any (·.tag = tracking.ackCode))
        (fun tracking packet value =>
          packet.binaryResponse? = some value ∧ value.tag = tracking.ackCode)
        world.trace (anonymousRequest publicKey requestType replyRoute replyPath world).1
        (anonymousRequest publicKey requestType replyRoute replyPath world).2.trace) ∧
    (∀ publicKey password,
      RemoteEnd (fun _ packet => packet.loginPrefix?.any (·.val = publicKey.take 6))
        (fun _ packet session =>
          packet = .loginSuccess session ∧ session.pubkeyPrefix.val = publicKey.take 6)
        world.trace (login publicKey password world).1 (login publicKey password world).2.trace) ∧
    (∀ publicKey,
      RemoteEnd (fun _ packet => packet.remoteStatus?.any (·.pubkeyPrefix.val = publicKey.take 6))
        (fun _ packet status =>
          packet.remoteStatus? = some status ∧ status.pubkeyPrefix.val = publicKey.take 6)
        world.trace (remoteStatus publicKey world).1 (remoteStatus publicKey world).2.trace) ∧
    (∀ publicKey,
      RemoteEnd (fun _ packet => packet.pathDiscovery?.any (·.pubkeyPrefix.val = publicKey.take 6))
        (fun _ packet path =>
          packet.pathDiscovery? = some path ∧ path.pubkeyPrefix.val = publicKey.take 6)
        world.trace (discoverPath publicKey world).1 (discoverPath publicKey world).2.trace) ∧
    ∀ packet : Packet, packet.isRemoteResponse = true → packet.intoEvent.isSome = true := by
  refine ⟨?_, ?_, ?_, ?_, ?_, ?_⟩
  · intro publicKey requestType data
    refine remoteEnd_ofExcept fun command _ => ?_
    exact remoteRequest_ends command "binary request"
      (fun tracking => extracts_binary tracking.ackCode) world
  · intro publicKey requestType replyRoute replyPath
    refine remoteEnd_ofExcept fun command _ => ?_
    exact remoteRequest_ends command "anonymous request"
      (fun tracking => extracts_binary tracking.ackCode) world
  · intro publicKey password
    refine remoteEnd_ofExcept fun expected found => remoteEnd_ofExcept fun command _ => ?_
    exact remoteRequest_ends command "remote login"
      (fun _ => extracts_login (take_of_keyPrefix found)) world
  · intro publicKey
    refine remoteEnd_ofExcept fun expected found => remoteEnd_ofExcept fun command _ => ?_
    exact remoteRequest_ends command "remote status"
      (fun _ => extracts_remoteStatus (take_of_keyPrefix found)) world
  · intro publicKey
    refine remoteEnd_ofExcept fun expected found => remoteEnd_ofExcept fun command _ => ?_
    exact remoteRequest_ends command "path discovery"
      (fun _ => extracts_pathDiscovery (take_of_keyPrefix found)) world
  · intro packet response
    cases packet <;> first
      | rfl
      | cases response

end Meshquill
