import Meshquill.Client.Connect
import Meshquill.Client.Inbox
import Meshquill.Client.Outcomes

/-!
# At most one synchronisation

Three properties of the inbox. `Serial`: while a synchronisation is outstanding nothing is
written, and none is written while an answer is retained; this holds in runs that connect
only while not connected. `Reconciled`: every awaited answer is returned or retained and
unblocks the client, except for an error packet that a wait for an ACK dismisses. `Wedged`:
bytes that do not parse leave the client blocked, whatever is called next, until another
answer arrives or the session ends.
-/
namespace Meshquill

open History

/-- A packet of a kind that answers a synchronisation. -/
def InboxEvent.isAnswer : InboxEvent → Bool
  | .decoded packet => packet.readySync.isSome
  | _ => false

def InboxEvent.endsSession : InboxEvent → Bool
  | .opened | .closed => true
  | _ => false

/-- A `SYNC_NEXT_MESSAGE` was written in this session and no answer was consumed since. -/
def Outstanding : List InboxEntry → Prop :=
  Since (fun entry => entry.event = .wrote syncPayload)
    fun entry => entry.event.isAnswer = true ∨ entry.event.endsSession = true

/-- This answer was retained in this session and not returned since. -/
def Keeping (ready : ReadySync) : List InboxEntry → Prop :=
  Since (fun entry => entry.event = .retained ready)
    fun entry => entry.event = .handed ready ∨ entry.event.endsSession = true

variable {event : InboxEvent} {sync : SyncState} {log : List InboxEntry}

theorem outstanding_cons :
    Outstanding (⟨event, sync⟩ :: log) ↔
      event = .wrote syncPayload ∨
        (¬ (event.isAnswer = true ∨ event.endsSession = true) ∧ Outstanding log) := Iff.rfl

theorem keeping_cons {ready : ReadySync} :
    Keeping ready (⟨event, sync⟩ :: log) ↔
      event = .retained ready ∨
        (¬ (event = .handed ready ∨ event.endsSession = true) ∧ Keeping ready log) := Iff.rfl

/-- Only an answer that is retained comes to be kept. -/
theorem keeping_of_cons {ready : ReadySync} (unkept : ∀ ready, event ≠ .retained ready)
    (keeping : Keeping ready (⟨event, sync⟩ :: log)) : Keeping ready log := by
  rcases keeping_cons.mp keeping with retained | ⟨-, earlier⟩
  · exact absurd retained (unkept _)
  · exact earlier

/-! ## Nothing is written while a synchronisation is outstanding -/

variable (entry : InboxEntry) (earlier : List InboxEntry)

/-- A write fits its past: nothing is outstanding, and for a synchronisation nothing is
retained. -/
def WriteFits : Prop :=
  ∀ payload, entry.event = .wrote payload →
    ¬ Outstanding earlier ∧ (payload = syncPayload → ∀ ready, ¬ Keeping ready earlier)

theorem writeFits_of_other {earlier : List InboxEntry}
    (unwritten : ∀ payload, event ≠ .wrote payload) : WriteFits ⟨event, sync⟩ earlier :=
  fun payload written => absurd written (unwritten payload)

structure Serial (inbox : Inbox) : Prop where
  awaits : Outstanding inbox.log → inbox.sync = .awaitingResponse
  keeps : ∀ ready, Keeping ready inbox.log → inbox.deferred = some ready
  writes : Always WriteFits inbox.log

namespace Serial

variable {inbox : Inbox}

/-- A note that is no write and starts or ends nothing. -/
theorem note (serial : Serial inbox)
    (unwritten : ∀ payload, event ≠ .wrote payload) (unkept : ∀ ready, event ≠ .retained ready) :
    Serial (inbox.note event) where
  awaits outstanding := by
    rcases outstanding_cons.mp outstanding with written | ⟨-, earlier⟩
    · exact absurd written (unwritten _)
    · exact serial.awaits earlier
  keeps ready keeping := serial.keeps ready (keeping_of_cons unkept keeping)
  writes := ⟨writeFits_of_other unwritten, serial.writes⟩

theorem decode (serial : Serial inbox) (parsed : Packet) : Serial (inbox.decode parsed) := by
  have renumbered : Serial { inbox with nextId := parsed.nextObservationId inbox.nextId } :=
    ⟨serial.awaits, serial.keeps, serial.writes⟩
  exact renumbered.note (by simp) (by simp)

theorem display (serial : Serial inbox) (packet : Packet) : Serial (inbox.display packet) := by
  unfold Inbox.display
  split
  · exact serial.note (by simp) (by simp)
  · exact serial

/-- While the client is idle, nothing is outstanding. -/
theorem free (serial : Serial inbox) (idle : inbox.sync = .idle) : ¬ Outstanding inbox.log := by
  intro outstanding
  cases idle.symm.trans (serial.awaits outstanding)

/-- The client goes idle, with nothing outstanding. -/
theorem settle (serial : Serial inbox) (answered : ¬ Outstanding inbox.log) :
    Serial inbox.settle where
  awaits outstanding := absurd outstanding answered
  keeps := serial.keeps
  writes := serial.writes

/-- An awaited answer is retained once it has been decoded. -/
theorem retain (serial : Serial inbox) {packet : Packet}
    (nothing : inbox.sync = .awaitingResponse → inbox.deferred = none)
    (answered : packet.readySync.isSome = true → ¬ Outstanding inbox.log) :
    Serial (inbox.retain packet) := by
  unfold Inbox.retain
  split
  · rename_i ready awaiting answer
    refine ⟨?_, ?_, ⟨writeFits_of_other (by simp), serial.writes⟩⟩
    · intro outstanding
      rcases outstanding_cons.mp outstanding with written | ⟨-, earlier⟩
      · cases written
      · exact absurd earlier (answered (by rw [answer]; rfl))
    · intro other keeping
      rcases keeping_cons.mp keeping with retained | ⟨-, earlier⟩
      · cases retained
        rfl
      · cases (serial.keeps other earlier).symm.trans (nothing awaiting)
  · exact serial

/-- After an answer has been decoded nothing is outstanding. -/
theorem not_outstanding_decode {parsed : Packet}
    (answer : (inbox.number parsed).readySync.isSome = true) :
    ¬ Outstanding (inbox.decode parsed).log := by
  intro outstanding
  rcases outstanding_cons.mp outstanding with written | ⟨running, -⟩
  · cases written
  · exact running (.inl answer)

end Serial

variable {next : Inbox} {ready : ReadySync} {packet : Packet} {allowed : Bool → Prop}

/-- Every step keeps the inbox serial, if `connect` is only called while not connected. -/
theorem step_serial {inbox : Inbox}
    (step : Inbox.Step (fun connected => connected = false) inbox next)
    (coherent : inbox.Coherent) (serial : Serial inbox) : Serial next := by
  cases step with
  | forgot called =>
    obtain ⟨idle, nothing⟩ := coherent.closed called
    have same : inbox.settle.release = inbox := by
      simp [Inbox.settle, Inbox.release, ← idle, ← nothing]
    rw [same]
    exact serial.note (by simp) (by simp)
  | opened idle nothing =>
    have opened : Serial { inbox with connected := true } :=
      ⟨serial.awaits, serial.keeps, serial.writes⟩
    exact opened.note (by simp) (by simp)
  | closed =>
    refine ⟨?_, ?_, ⟨writeFits_of_other (by simp), serial.writes⟩⟩
    · rintro (written | ⟨running, -⟩)
      · cases written
      · exact absurd (.inr rfl) running
    · rintro ready (retained | ⟨running, -⟩)
      · cases retained
      · exact absurd (.inr rfl) running
  | wrote payload connected idle command =>
    refine ⟨?_, fun ready keeping => serial.keeps ready (keeping_of_cons (by simp) keeping),
      ⟨?_, serial.writes⟩⟩
    · rintro (written | ⟨-, earlier⟩)
      · exact absurd (InboxEvent.wrote.inj written) command
      · exact serial.awaits earlier
    · intro other written
      obtain rfl := InboxEvent.wrote.inj written
      exact ⟨serial.free idle, fun same => absurd same command⟩
  | synchronised connected idle nothing =>
    refine ⟨fun _ => rfl, fun ready keeping => serial.keeps ready
      (keeping_of_cons (by simp) keeping), ⟨?_, serial.writes⟩⟩
    intro payload _
    refine ⟨serial.free idle, fun _ ready keeping => ?_⟩
    cases (serial.keeps ready keeping).symm.trans nothing
  | refused | rejected => exact serial.note (by simp) (by simp)
  | passed parsed connected =>
    exact ((serial.decode parsed).retain coherent.nothing_of_awaiting
      Serial.not_outstanding_decode).display _
  | handed parsed ready connected answer =>
    have answered : ¬ Outstanding (inbox.decode parsed).log :=
      Serial.not_outstanding_decode (by rw [answer]; rfl)
    exact (((serial.decode parsed).settle answered).display _).note (by simp) (by simp)
  | consumed parsed connected plain other => exact serial.decode parsed
  | dismissed code connected => exact (serial.decode _).note (by simp) (by simp)
  | took ready connected kept =>
    refine ⟨?_, ?_, ⟨writeFits_of_other (by simp), serial.writes⟩⟩
    · rintro (written | ⟨-, earlier⟩)
      · cases written
      · exact serial.awaits earlier
    · rintro other (retained | ⟨running, earlier⟩)
      · cases retained
      · have same : ready = other := Option.some.inj (kept.symm.trans (serial.keeps other earlier))
        exact absurd (.inl (by rw [same])) running

theorem serial_initial : Serial Inbox.initial where
  awaits := by simp [Inbox.initial, Outstanding]
  keeps := by simp [Inbox.initial, Keeping]
  writes := trivial

/-- In every run that connects only while not connected: nothing is written while a
synchronisation is outstanding; a client that has retained an answer is idle; and no
synchronisation is written before a retained answer has been returned or its session has
ended. -/
theorem World.run_serial {τ ε : Type} [Transport τ ε] (transport : τ) (requestTimeout : Duration)
    (invocations : List (Invocation ε))
    (connects : (World.initial transport requestTimeout).ConnectsOn
      (fun client => client.connected = false) invocations) :
    let inbox := ((World.initial transport requestTimeout).run invocations).inbox
    (∀ later entry earlier payload, inbox.log = later ++ entry :: earlier →
      entry.event = .wrote payload → ¬ Outstanding earlier) ∧
    (inbox.deferred ≠ none → inbox.sync = .idle) ∧
    (∀ later entry earlier ready, inbox.log = later ++ entry :: earlier →
      entry.event = .wrote syncPayload → ¬ Keeping ready earlier) := by
  intro inbox
  have kept : ∀ inbox next : Inbox, Inbox.Step (fun connected => connected = false) inbox next →
      inbox.Coherent ∧ Serial inbox → next.Coherent ∧ Serial next :=
    fun inbox next step holds =>
      ⟨Inbox.step_coherent inbox next step holds.1, step_serial step holds.1 holds.2⟩
  obtain ⟨coherent, serial⟩ : inbox.Coherent ∧ Serial inbox :=
    World.run_inbox transport requestTimeout connects kept ⟨Inbox.coherent_initial, serial_initial⟩
  have fits := always_iff.mp serial.writes
  refine ⟨?_, coherent.settled, ?_⟩
  · intro later entry earlier payload split written
    exact (fits later entry earlier split payload written).1
  · intro later entry earlier ready split written
    exact (fits later entry earlier split syncPayload written).2 rfl ready

/-- A session with an outstanding synchronisation is such a run. -/
theorem World.dropped_sync_serial :
    let inbox := ((World.initial tcpTransport 5000000000).run [opening, droppedSync]).inbox
    inbox.sync = .awaitingResponse ∧
      ∀ later entry earlier payload, inbox.log = later ++ entry :: earlier →
        entry.event = .wrote payload → ¬ Outstanding earlier :=
  ⟨by decide +kernel,
    (World.run_serial tcpTransport 5000000000 [opening, droppedSync] (by decide +kernel)).1⟩

/-! ## An awaited answer unblocks the client -/

/-- This answer was decoded while it was awaited, and since then it has neither been
returned nor retained with the client idle again. -/
def Unreconciled (ready : ReadySync) : List InboxEntry → Prop :=
  Since
    (fun entry => (∃ packet, entry.event = .decoded packet ∧ packet.readySync = some ready) ∧
      entry.sync = .awaitingResponse)
    (fun entry => (entry.event = .handed ready ∨ entry.event = .retained ready) ∧
      entry.sync = .idle)

/-- A refusal fits its past: a synchronisation is outstanding. -/
def RefusalFits : Prop :=
  ∀ payload, entry.event = .refused payload → Outstanding earlier

def InboxEvent.isDismissal : InboxEvent → Bool
  | .dismissed => true
  | _ => false

/-- No wait for an ACK has dismissed an error packet while an answer was awaited. -/
def Polite (log : List InboxEntry) : Prop :=
  ∀ entry ∈ log, entry.event.isDismissal = true → entry.sync = .idle

instance (log : List InboxEntry) : Decidable (Polite log) :=
  inferInstanceAs (Decidable (∀ entry ∈ log, _))

structure Reconciled (inbox : Inbox) : Prop where
  answers : ∀ ready, ¬ Unreconciled ready inbox.log
  awaits : inbox.sync = .awaitingResponse → Outstanding inbox.log
  refusals : Always RefusalFits inbox.log

theorem unreconciled_cons :
    Unreconciled ready (⟨event, sync⟩ :: log) ↔
      ((∃ packet, event = .decoded packet ∧ packet.readySync = some ready) ∧
          sync = .awaitingResponse) ∨
        (¬ ((event = .handed ready ∨ event = .retained ready) ∧ sync = .idle) ∧
          Unreconciled ready log) := Iff.rfl

/-- Only a packet that was decoded comes to be unreconciled. -/
theorem unreconciled_of_cons
    (undecoded : ∀ packet, event ≠ .decoded packet)
    (unreconciled : Unreconciled ready (⟨event, sync⟩ :: log)) : Unreconciled ready log := by
  rcases unreconciled_cons.mp unreconciled with ⟨⟨packet, decoded, -⟩, -⟩ | ⟨-, earlier⟩
  · exact absurd decoded (undecoded packet)
  · exact earlier

namespace Reconciled

variable {inbox : Inbox}

theorem answers_cons (reconciled : Reconciled inbox)
    (undecoded : ∀ packet, event ≠ .decoded packet) (ready : ReadySync) :
    ¬ Unreconciled ready (⟨event, sync⟩ :: inbox.log) :=
  fun unreconciled => reconciled.answers ready (unreconciled_of_cons undecoded unreconciled)

/-- A note that is neither a packet nor a refusal and ends nothing. -/
theorem note (reconciled : Reconciled inbox)
    (undecoded : ∀ packet, event ≠ .decoded packet) (running : event.endsSession = false)
    (unrefused : ∀ payload, event ≠ .refused payload) : Reconciled (inbox.note event) where
  answers := reconciled.answers_cons undecoded
  awaits awaiting := by
    refine outstanding_cons.mpr (.inr ⟨?_, reconciled.awaits awaiting⟩)
    rintro (answer | ends)
    · cases event <;> first
        | exact absurd rfl (undecoded _)
        | cases answer
    · rw [running] at ends
      cases ends
  refusals := ⟨fun payload refused => absurd refused (unrefused payload), reconciled.refusals⟩

theorem display (reconciled : Reconciled inbox) (packet : Packet) :
    Reconciled (inbox.display packet) := by
  unfold Inbox.display
  split
  · exact reconciled.note (by simp) rfl (by simp)
  · exact reconciled

/-- An idle client: nothing is asked of it but what its log says. -/
theorem of_idle (idle : inbox.sync = .idle) (answers : ∀ ready, ¬ Unreconciled ready inbox.log)
    (refusals : Always RefusalFits inbox.log) : Reconciled inbox where
  answers := answers
  awaits awaiting := by
    rw [idle] at awaiting
    cases awaiting
  refusals := refusals

/-- A packet that is not an awaited answer. -/
theorem decode (reconciled : Reconciled inbox) {parsed : Packet}
    (other : inbox.sync = .idle ∨ (inbox.number parsed).readySync = none) :
    Reconciled (inbox.decode parsed) where
  answers ready unreconciled := by
    rcases unreconciled_cons.mp unreconciled with ⟨⟨packet, decoded, answer⟩, awaiting⟩ | earlier
    · cases decoded
      rcases other with idle | none
      · exact absurd (idle.symm.trans awaiting) (by simp)
      · rw [none] at answer
        cases answer
    · exact reconciled.answers ready earlier.2
  awaits awaiting := by
    refine outstanding_cons.mpr (.inr ⟨?_, reconciled.awaits awaiting⟩)
    rintro (answer | ends)
    · rcases other with idle | none
      · exact absurd (idle.symm.trans awaiting) (by simp)
      · simp [InboxEvent.isAnswer, none] at answer
    · cases ends
  refusals := ⟨by simp [RefusalFits], reconciled.refusals⟩

/-- An answer is on its way: decoded, and not yet passed on. -/
theorem unreconciled_decode (reconciled : Reconciled inbox) {parsed : Packet} {ready other : ReadySync}
    (answer : (inbox.number parsed).readySync = some ready)
    (unreconciled : Unreconciled other (inbox.decode parsed).log) : other = ready := by
  rcases unreconciled_cons.mp unreconciled with ⟨⟨packet, decoded, same⟩, -⟩ | earlier
  · cases decoded
    exact Option.some.inj (same.symm.trans answer)
  · exact absurd earlier.2 (reconciled.answers other)

end Reconciled

theorem unreconciled_display {inbox : Inbox}
    (unreconciled : Unreconciled ready (inbox.display packet).log) :
    Unreconciled ready inbox.log := by
  unfold Inbox.display at unreconciled
  split at unreconciled
  · exact unreconciled_of_cons (by simp) unreconciled
  · exact unreconciled

theorem refusals_display {inbox : Inbox} (refusals : Always RefusalFits inbox.log) :
    Always RefusalFits (inbox.display packet).log := by
  unfold Inbox.display
  split
  · exact ⟨by simp [RefusalFits], refusals⟩
  · exact refusals

/-- Every step but an impolite dismissal keeps the inbox reconciled. -/
theorem step_reconciled {inbox : Inbox} (step : Inbox.Step allowed inbox next)
    (polite : Polite next.log) (reconciled : Reconciled inbox) : Reconciled next := by
  cases step with
  | forgot | closed =>
    exact .of_idle rfl (reconciled.answers_cons (by simp))
      ⟨by simp [RefusalFits], reconciled.refusals⟩
  | opened idle nothing =>
    exact .of_idle idle (reconciled.answers_cons (by simp))
      ⟨by simp [RefusalFits], reconciled.refusals⟩
  | wrote | rejected => exact reconciled.note (by simp) rfl (by simp)
  | synchronised connected idle nothing =>
    exact ⟨reconciled.answers_cons (by simp), fun _ => .inl rfl,
      ⟨by simp [RefusalFits], reconciled.refusals⟩⟩
  | refused payload awaiting =>
    have outstanding := reconciled.awaits awaiting
    exact ⟨reconciled.answers_cons (by simp),
      fun _ => .inr ⟨by simp [InboxEvent.isAnswer, InboxEvent.endsSession], outstanding⟩,
      ⟨fun _ _ => outstanding, reconciled.refusals⟩⟩
  | passed parsed connected =>
    by_cases other : inbox.sync = .idle ∨ (inbox.number parsed).readySync = none
    · have unretained : (inbox.decode parsed).retain (inbox.number parsed) = inbox.decode parsed :=
        Inbox.retain_of_other other
      rw [unretained]
      exact (reconciled.decode other).display _
    · obtain ⟨notIdle, some⟩ := not_or.mp other
      obtain ⟨ready, answer⟩ := Option.ne_none_iff_exists'.mp some
      have awaiting : (inbox.decode parsed).sync = .awaitingResponse := by
        cases state : inbox.sync with
        | idle => exact absurd state notIdle
        | awaitingResponse => exact state
      rw [Inbox.retain_of_awaiting awaiting answer]
      have refusals : Always RefusalFits (inbox.decode parsed).log :=
        ⟨by simp [RefusalFits], reconciled.refusals⟩
      refine Reconciled.display ?_ _
      refine .of_idle rfl ?_ ⟨by simp [RefusalFits], refusals⟩
      rintro kept (⟨⟨packet, decoded, -⟩, -⟩ | ⟨unstopped, earlier⟩)
      · cases decoded
      · obtain rfl := reconciled.unreconciled_decode answer earlier
        exact unstopped ⟨.inr rfl, rfl⟩
  | handed parsed ready connected answer =>
    have refusals : Always RefusalFits (inbox.decode parsed).settle.log :=
      ⟨by simp [RefusalFits], reconciled.refusals⟩
    refine .of_idle (Inbox.display_sync ..) ?_ ⟨by simp [RefusalFits], refusals_display refusals⟩
    rintro kept (⟨⟨packet, decoded, -⟩, -⟩ | ⟨unstopped, earlier⟩)
    · cases decoded
    · have decoded : Unreconciled kept (inbox.decode parsed).settle.log :=
        unreconciled_display earlier
      obtain rfl := reconciled.unreconciled_decode answer decoded
      exact unstopped ⟨.inl rfl, Inbox.display_sync ..⟩
  | consumed parsed connected plain other =>
    refine reconciled.decode ?_
    rwa [Inbox.number_of_message_none plain]
  | dismissed code connected =>
    have idle : inbox.sync = .idle := polite _ List.mem_cons_self rfl
    exact (reconciled.decode (.inl idle)).note (by simp) rfl (by simp)
  | took ready connected kept =>
    have released : Reconciled inbox.release :=
      ⟨reconciled.answers, reconciled.awaits, reconciled.refusals⟩
    exact released.note (by simp) rfl (by simp)

/-- In every run in which no wait for an ACK dismisses an error packet while an answer is
awaited: every awaited answer has been returned or retained and has made the client idle,
and a command is only refused while a synchronisation is outstanding. -/
theorem World.run_reconciled {τ ε : Type} [Transport τ ε] (transport : τ)
    (requestTimeout : Duration) (invocations : List (Invocation ε)) :
    let inbox := ((World.initial transport requestTimeout).run invocations).inbox
    Polite inbox.log →
      (∀ ready, ¬ Unreconciled ready inbox.log) ∧
      (∀ later entry earlier payload, inbox.log = later ++ entry :: earlier →
        entry.event = .refused payload → Outstanding earlier) := by
  intro inbox polite
  have kept : ∀ inbox next : Inbox, Inbox.Step (fun _ => True) inbox next →
      (Polite inbox.log → Reconciled inbox) → Polite next.log → Reconciled next := by
    intro inbox next step reconciled polite
    exact step_reconciled step polite (reconciled fun entry inside =>
      polite entry (step.extends.mem inside))
  have reconciled : Reconciled inbox :=
    World.run_inbox_any transport requestTimeout invocations kept
      (fun _ => .of_idle rfl (fun _ => not_since_nil) trivial) polite
  exact ⟨reconciled.answers, fun later entry earlier payload split refused =>
    always_iff.mp reconciled.refusals later entry earlier split payload refused⟩

/-- The answer to a dropped synchronisation, read by the next one. -/
def laterSync : Invocation StreamIo :=
  { request := .syncNextMessage, turns := [{ io := {} }, { io := .receiving [0x0a] }] }

theorem World.later_sync_reconciled :
    let inbox := ((World.initial tcpTransport 5000000000).run
      [opening, droppedSync, laterSync]).inbox
    inbox.sync = .idle ∧ ∀ ready, ¬ Unreconciled ready inbox.log :=
  ⟨by decide +kernel,
    (World.run_reconciled tcpTransport 5000000000 [opening, droppedSync, laterSync]
      (by decide +kernel)).1⟩

/-- A wait for an ACK that dismisses the answer. -/
def dismissingWait : Invocation StreamIo :=
  { request := .waitForAck (.ofBytes 1 2 3 4) none
    turns := [{ io := .receiving [0x01, 0x05] }] }

/-- The device answers an outstanding synchronisation with an error while the client waits
for an ACK: the answer is lost, and every later command is refused. -/
theorem World.dismissed_answer_blocks :
    let world := (World.initial tcpTransport 5000000000).run [opening, droppedSync, dismissingWait]
    world.client.connected = true ∧ world.transport.stream = true ∧
      world.client.syncState = .awaitingResponse ∧ world.client.deferredSync.isNone = true ∧
      (Client.getTime (world.granted [{ io := {} }])).1 = .failed Client.unreconciledSync := by
  decide +kernel

/-! ## Bytes that do not parse -/

/-- What frees a client that awaits an answer. -/
def InboxEvent.frees (event : InboxEvent) : Bool :=
  match event with
  | .forgot => true
  | other => other.isAnswer || other.endsSession

/-- Bytes that did not parse were read while an answer was awaited, and nothing has freed
the client since. -/
def Wedged : List InboxEntry → Prop :=
  Since
    (fun entry => (∃ raw, entry.event = .rejected raw) ∧ entry.sync = .awaitingResponse)
    (fun entry => entry.event.frees = true)

/-- A write fits its past: the client was not wedged. -/
def SilenceFits : Prop :=
  ∀ payload, entry.event = .wrote payload → ¬ Wedged earlier

/-- A wedged client is connected and waits for an answer, and has written nothing since. -/
structure Stuck (inbox : Inbox) : Prop where
  waits : Wedged inbox.log → inbox.connected = true ∧ inbox.sync = .awaitingResponse
  silent : Always SilenceFits inbox.log

theorem wedged_cons :
    Wedged (⟨event, sync⟩ :: log) ↔
      ((∃ raw, event = .rejected raw) ∧ sync = .awaitingResponse) ∨
        (¬ event.frees = true ∧ Wedged log) := Iff.rfl

theorem not_wedged_of_frees (frees : event.frees = true) : ¬ Wedged (⟨event, sync⟩ :: log) := by
  intro wedged
  rcases wedged_cons.mp wedged with ⟨⟨raw, rejected⟩, -⟩ | ⟨bound, -⟩
  · rw [rejected] at frees
    cases frees
  · exact bound frees

theorem wedged_of_cons
    (accepted : ∀ raw, event ≠ .rejected raw) (wedged : Wedged (⟨event, sync⟩ :: log)) :
    Wedged log := by
  rcases wedged_cons.mp wedged with ⟨⟨raw, rejected⟩, -⟩ | ⟨-, earlier⟩
  · exact absurd rejected (accepted raw)
  · exact earlier

namespace Stuck

variable {inbox : Inbox}

theorem not_wedged_of_idle (stuck : Stuck inbox) (idle : inbox.sync = .idle) :
    ¬ Wedged inbox.log := by
  intro wedged
  cases idle.symm.trans (stuck.waits wedged).2

theorem of_free (free : ¬ Wedged inbox.log) (silent : Always SilenceFits inbox.log) : Stuck inbox :=
  ⟨fun wedged => absurd wedged free, silent⟩

theorem note (stuck : Stuck inbox)
    (accepted : ∀ raw, event ≠ .rejected raw) (unwritten : ∀ payload, event ≠ .wrote payload) :
    Stuck (inbox.note event) where
  waits wedged := stuck.waits (wedged_of_cons accepted wedged)
  silent := ⟨fun payload written => absurd written (unwritten payload), stuck.silent⟩

/-- An event that frees the client, whatever it then does. -/
theorem freed (stuck : Stuck inbox) {next : Inbox}
    (log : next.log = ⟨event, sync⟩ :: inbox.log) (frees : event.frees = true) : Stuck next := by
  refine .of_free ?_ ?_
  · rw [log]
    exact not_wedged_of_frees frees
  · rw [log]
    refine ⟨fun payload written => ?_, stuck.silent⟩
    rw [show event = .wrote payload from written] at frees
    cases frees

theorem display (stuck : Stuck inbox) (packet : Packet) : Stuck (inbox.display packet) := by
  unfold Inbox.display
  split
  · exact stuck.note (by simp) (by simp)
  · exact stuck

theorem decode (stuck : Stuck inbox) (parsed : Packet) : Stuck (inbox.decode parsed) where
  waits wedged := stuck.waits (wedged_of_cons (by simp) wedged)
  silent := ⟨by simp [SilenceFits], stuck.silent⟩

theorem not_wedged_decode {parsed : Packet} {ready : ReadySync}
    (answer : (inbox.number parsed).readySync = some ready) :
    ¬ Wedged (inbox.decode parsed).log :=
  not_wedged_of_frees (by simp [InboxEvent.frees, InboxEvent.isAnswer, answer])

theorem settle (stuck : Stuck inbox) (free : ¬ Wedged inbox.log) : Stuck inbox.settle :=
  .of_free free stuck.silent

theorem retain (stuck : Stuck inbox) {packet : Packet}
    (free : ∀ ready, packet.readySync = some ready → ¬ Wedged inbox.log) :
    Stuck (inbox.retain packet) := by
  unfold Inbox.retain
  split
  · rename_i ready awaiting answer
    refine .of_free ?_ ⟨by simp [SilenceFits], stuck.silent⟩
    exact fun wedged => free ready answer (wedged_of_cons (by simp) wedged)
  · exact stuck

end Stuck

theorem step_stuck (inbox next : Inbox) (step : Inbox.Step allowed inbox next)
    (stuck : Stuck inbox) : Stuck next := by
  cases step with
  | forgot | opened | closed => exact stuck.freed rfl rfl
  | wrote payload connected idle command | synchronised connected idle nothing =>
    have free := stuck.not_wedged_of_idle idle
    exact .of_free (fun wedged => free (wedged_of_cons (by simp) wedged))
      ⟨fun _ _ => free, stuck.silent⟩
  | refused payload awaiting => exact stuck.note (by simp) (by simp)
  | rejected raw connected =>
    refine ⟨?_, ⟨by simp [SilenceFits], stuck.silent⟩⟩
    rintro (⟨-, awaiting⟩ | ⟨-, earlier⟩)
    · exact ⟨connected, awaiting⟩
    · exact stuck.waits earlier
  | passed parsed connected =>
    exact ((stuck.decode parsed).retain fun _ answer => Stuck.not_wedged_decode answer).display _
  | handed parsed ready connected answer =>
    have free : ¬ Wedged (inbox.decode parsed).log := Stuck.not_wedged_decode answer
    exact (((stuck.decode parsed).settle free).display _).note (by simp) (by simp)
  | consumed parsed connected plain other => exact stuck.decode parsed
  | dismissed code connected => exact (stuck.decode _).note (by simp) (by simp)
  | took ready connected kept =>
    have released : Stuck inbox.release := ⟨stuck.waits, stuck.silent⟩
    exact released.note (by simp) (by simp)

namespace Client

open Async

variable {τ ε : Type} [Transport τ ε]

variable {world : World τ ε} {turns : List (Turn ε)} {raw : Bytes} {error : ParseError}

/-- Bytes that do not parse end the read with the parse error, whatever was awaited. -/
theorem readNextPacketWithTimeout_of_rejected {turn : Turn ε} {transport : τ}
    (granted : world.turns = turn :: turns)
    (arrives : Transport.read turn.io world.transport = (some (.ok (some raw)), transport))
    (malformed : Packet.parse raw = .error (.rejected error)) :
    readNextPacketWithTimeout world =
      (.failed (.parse error),
        { world with trace := world.trace.note (.rejected raw), transport, turns }) := by
  simp [readNextPacketWithTimeout, self, timeout, readNextPacket, await, granted, arrives,
    parsePacket, Trace.parsePacket, malformed]

/-- With nothing ready, the drain finds no answer. -/
theorem drainReadyPackets_of_pending {reached : World τ ε}
    (pending : tryRead world = (.done (.ok .pending), reached)) (left : Nat) :
    drainReadyPackets left world = (.done none, reached) := by
  cases left <;> simp [drainReadyPackets, drainReadyPacket, pending]

/-- A synchronisation that awaits an answer and reads bytes that do not parse reports the
parse error and changes nothing else. -/
theorem syncNextMessage_of_rejected {first second : Turn ε} {early late : τ}
    (connected : world.trace.client.connected = true)
    (awaiting : world.trace.client.syncState = .awaitingResponse)
    (nothing : world.trace.client.deferredSync = none)
    (granted : world.turns = first :: second :: turns)
    (quiet : Transport.tryRead first.io world.transport = (.ok .pending, early))
    (arrives : Transport.read second.io early = (some (.ok (some raw)), late))
    (malformed : Packet.parse raw = .error (.rejected error)) :
    syncNextMessage world =
      (.failed (.parse error),
        { world with trace := world.trace.note (.rejected raw), transport := late, turns }) := by
  let drained := { world with transport := early, turns := second :: turns }
  have pending : tryRead world = (.done (.ok .pending), drained) := by
    simp [tryRead, granted, quiet, drained]
  have kept : world.trace.takeDeferredSync = world.trace := by
    simp [Trace.takeDeferredSync, nothing]
  have read : readNextPacketWithTimeout drained =
      (.failed (.parse error),
        { world with trace := world.trace.note (.rejected raw), transport := late, turns }) :=
    readNextPacketWithTimeout_of_rejected rfl arrives malformed
  have waited : waitForSyncResponse drained =
      (.failed (.parse error),
        { world with trace := world.trace.note (.rejected raw), transport := late, turns }) := by
    rw [waitForSyncResponse_unfold]
    simp [read]
  simp [syncNextMessage, ensureConnected, World.client, connected, takeDeferredSync, self, locally,
    kept, nothing, drainReadyPacketsBeforeSync, drainReadyPackets_of_pending pending, drained,
    awaiting]
  exact waited

/-- A command of a client that awaits an answer is refused and reaches no transport. -/
theorem sendOnly_of_awaiting (connected : world.client.connected = true)
    (awaiting : world.client.syncState = .awaitingResponse) (command : Command) :
    sendOnly command world =
      (.failed unreconciledSync,
        { world with trace := world.trace.note (.refused command.intoEncoded) }) := by
  simp [sendOnly, ensureConnected, connected, sendRaw, self, awaiting, locally]

end Client

/-- Bytes that do not parse, read while an answer is awaited, block the session. Whichever
operation read them, nothing is written after them, and every command is refused, until
another packet of an answering kind is decoded or the session is given up. A synchronisation
that reads them reports the parse error and is such an operation. -/
theorem World.run_wedged {τ ε : Type} [Transport τ ε] (transport : τ) (requestTimeout : Duration)
    (invocations : List (Invocation ε)) :
    let world := (World.initial transport requestTimeout).run invocations
    (∀ later entry earlier raw, world.inbox.log = later ++ entry :: earlier →
      entry.event = .rejected raw → entry.sync = .awaitingResponse →
      (∀ newer ∈ later, newer.event.frees = false) →
      (∀ newer ∈ later, ∀ payload, newer.event ≠ .wrote payload) ∧
      world.client.connected = true ∧ world.client.syncState = .awaitingResponse ∧
      ∀ command turns, (Client.sendOnly command (world.granted turns)).1 =
          .failed Client.unreconciledSync ∧
        (Client.sendOnly command (world.granted turns)).2.transport = world.transport) ∧
    (∀ (first second : Turn ε) (turns : List (Turn ε)) (early late : τ) (raw : Bytes)
      (error : ParseError), world.client.syncState = .awaitingResponse →
      Transport.tryRead first.io world.transport = (.ok .pending, early) →
      Transport.read second.io early = (some (.ok (some raw)), late) →
      Packet.parse raw = .error (.rejected error) →
      let ended := Client.syncNextMessage (world.granted (first :: second :: turns))
      ended.1 = .failed (.parse error) ∧
        ended.2.inbox.log = ⟨.rejected raw, .awaitingResponse⟩ :: world.inbox.log) := by
  intro world
  have stuck : Stuck world.inbox :=
    World.run_inbox_any transport requestTimeout invocations step_stuck
      ⟨fun wedged => wedged.elim, trivial⟩
  have coherent : world.inbox.Coherent :=
    World.run_inbox_any transport requestTimeout invocations Inbox.step_coherent
      Inbox.coherent_initial
  constructor
  · intro later entry earlier raw split rejected awaited bound
    have wedged : ∀ newest, (∀ newer ∈ newest, newer.event.frees = false) →
        Wedged (newest ++ entry :: earlier) := fun newest bound =>
      Since.append (fun newer inside => by simp [bound newer inside])
        (.inl ⟨⟨raw, rejected⟩, awaited⟩)
    obtain ⟨connected, awaiting⟩ := stuck.waits (split ▸ wedged later bound)
    refine ⟨?_, connected, awaiting, ?_⟩
    · intro newer inside payload written
      obtain ⟨newest, between, rfl⟩ := List.append_of_mem inside
      refine always_iff.mp stuck.silent newest newer (between ++ entry :: earlier) ?_ payload
        written (wedged between fun other within => bound other ?_)
      · rw [split, List.append_assoc, List.cons_append]
      · exact List.mem_append_right _ (List.mem_cons_of_mem _ within)
    · intro command turns
      have stillConnected : (world.granted turns).client.connected = true := connected
      rw [Client.sendOnly_of_awaiting stillConnected awaiting command]
      exact ⟨rfl, rfl⟩
  · intro first second turns early late raw error awaiting quiet arrives malformed
    have ended : Client.syncNextMessage (world.granted (first :: second :: turns)) =
        (.failed (.parse error), { world.granted (first :: second :: turns) with
          trace := world.trace.note (.rejected raw), transport := late, turns }) :=
      Client.syncNextMessage_of_rejected (coherent.connected_of_awaiting awaiting) awaiting
        (coherent.nothing_of_awaiting awaiting) rfl quiet arrives malformed
    rw [ended]
    refine ⟨rfl, ?_⟩
    rw [← awaiting]
    rfl

/-- A contact message whose text is not UTF-8. -/
def malformedMessage : Bytes := [0x07, 1, 2, 3, 4, 5, 6, 0, 0, 0, 0, 0, 0, 0xff]

/-- The next synchronisation reads the malformed answer. -/
def malformedSync : Invocation StreamIo :=
  { request := .syncNextMessage, turns := [{ io := {} }, { io := .receiving malformedMessage }] }

/-- The session in which the malformed message is the answer. -/
theorem World.malformed_message_wedges :
    let world := (World.initial tcpTransport 5000000000).run [opening, droppedSync, malformedSync]
    world.client.connected = true ∧ world.client.syncState = .awaitingResponse ∧
      ∀ command turns, (Client.sendOnly command (world.granted turns)).1 =
        .failed Client.unreconciledSync := by
  intro world
  obtain ⟨-, connected, awaiting, refused⟩ :=
    (World.run_wedged tcpTransport 5000000000 [opening, droppedSync, malformedSync]).1 []
      ⟨.rejected malformedMessage, .awaitingResponse⟩ world.inbox.log.tail malformedMessage
      (by rfl) rfl rfl (by simp)
  exact ⟨connected, awaiting, fun command turns => (refused command turns).1⟩

/-- A remote sender blocks the session: the malformed answer is consumed, and neither a
command nor another synchronisation writes anything any more. -/
theorem World.malformed_message_blocks :
    let before := (World.initial tcpTransport 5000000000).run [opening, droppedSync]
    let world := before.invoke malformedSync
    before.client.syncState = .awaitingResponse ∧
      (Request.syncNextMessage.perform (before.granted malformedSync.turns)).1 =
        .failed (.parse (.invalidUtf8Payload "ContactMsg.text")) ∧
      world.client.connected = true ∧ world.transport.stream = true ∧
      (Client.getTime (world.granted [{ io := {} }])).1 = .failed Client.unreconciledSync ∧
      ((world.invoke droppedSync).history.filterMap (·.seen.written?) =
        [syncPayload, Command.appStart.intoEncoded]) := by
  decide +kernel

end Meshquill
