import Meshquill.Client.Listening
import Meshquill.Client.Writes

/-!
# What signing writes

`sign` is a script of writes: the start, the data in chunks of at most 120 bytes, and the finish.
Each write is followed by what the client observes until the next one. A step is only followed by
another one if the device has accepted it: the answer to the start has to announce room for the
data, and every chunk has to be answered with `Ok`. So the packets written are an initial part of
the script, whatever the device does.
-/
namespace Meshquill

/-- A step of the script. -/
inductive SignStep where
  | start
  | data (chunk : Bytes)
  | finish
deriving DecidableEq

namespace SignStep

/-- The packet that is written. -/
def payload : SignStep → Bytes
  | .start => Command.signStart.intoEncoded
  | .data chunk => CommandCode.signData.toU8 :: chunk
  | .finish => Command.signFinish.intoEncoded

/-- The data that the packet carries. -/
def carried : SignStep → Bytes
  | .data chunk => chunk
  | _ => []

/-- The device answers the step with this packet, or refuses it. -/
def ends : SignStep → Packet → Bool
  | _, .disabled => true
  | _, .error _ => true
  | .start, .signStart _ => true
  | .data _, .ok _ => true
  | .finish, .signature _ => true
  | _, _ => false

/-- The packet accepts the step of signing this data. -/
def accepts (all : Bytes) : SignStep → Packet → Bool
  | .start, .signStart maxDataBytes => all.length ≤ maxDataBytes.toNat
  | .data _, .ok _ => true
  | .finish, .signature _ => true
  | _, _ => false

end SignStep

/-- The steps of signing this data. -/
def signScript (all : Bytes) : List SignStep :=
  [.start] ++ ((chunks signingChunkBytes all).map .data ++ [.finish])

/-- A write and what was observed after it. -/
structure SignExchange where
  step : SignStep
  after : List Observation

namespace SignExchange

def observed (exchange : SignExchange) : List Observation :=
  .wrote exchange.step.payload :: exchange.after

/-- Only the write was a write. -/
def Single (exchange : SignExchange) : Prop := ∀ seen ∈ exchange.after, seen.written? = none

/-- The step was accepted: other packets came first, and the last one is the answer. -/
def Accepted (all : Bytes) (exchange : SignExchange) : Prop :=
  ∃ waiting answer, exchange.after = waiting ++ [.decoded answer] ∧
    exchange.step.accepts all answer = true ∧
    ∀ seen ∈ waiting, seen.isWaiting = true ∧
      ∀ packet, seen = .decoded packet → exchange.step.ends packet = false

end SignExchange

/-! ## Chunks -/

variable {data chunk : Bytes} {steps : List SignStep}

theorem length_of_mem_chunks {size : Nat} (positive : 0 < size)
    (inside : chunk ∈ chunks size data) : 1 ≤ chunk.length ∧ chunk.length ≤ size := by
  obtain ⟨index, within, rfl⟩ := List.mem_map.mp inside
  have before : size * (index + 1) ≤ data.length + size - 1 :=
    Nat.le_trans (Nat.mul_le_mul_left size (List.mem_range.mp within)) (Nat.mul_div_le _ _)
  rw [Nat.mul_succ] at before
  rw [List.length_take, List.length_drop]
  omega

theorem carried_signScript (all : Bytes) : (signScript all).flatMap SignStep.carried = all := by
  have middle : ((chunks signingChunkBytes all).map SignStep.data).flatMap SignStep.carried =
      (chunks signingChunkBytes all).flatten := by
    rw [List.flatMap_map]
    exact List.flatMap_id
  simp only [signScript, List.cons_append, List.flatMap_cons, List.flatMap_append, middle,
    SignStep.carried, List.nil_append, List.flatMap_nil, List.append_nil]
  exact flatten_chunks (by decide) all

/-! ## Exchanges -/

namespace Client

open Async

variable {τ ε α β : Type}

theorem ReadFails.observes {trace reached : Trace} {halt : Option CoreError}
    (fails : ReadFails trace halt reached) :
    ∃ observed, trace.Observes reached observed ∧ ∀ seen ∈ observed, seen.written? = none := by
  cases fails with
  | dropped | broken => exact ⟨[], rfl, by simp⟩
  | garbled raw error => exact ⟨_, Trace.note_observes .., by simp [Observation.written?]⟩
  | closed =>
    obtain ⟨observed, observes, unwritten, -⟩ := trace.markDisconnected_observes
    exact ⟨observed, observes, unwritten⟩

/-- How an exchange has gone: its step was written once, and if it has returned a value then the
last packet was the answer. -/
structure Exchanged (step : SignStep) (judge : Unit → Packet → PacketWait Unit α) (trace : Trace)
    (exit : Exit CoreError α) (reached : Trace) (exchange : SignExchange) : Prop where
  step : exchange.step = step
  single : exchange.Single
  observes : trace.Observes reached exchange.observed
  answered : ∀ value, exit = .done value → reached.client.Ready ∧
    ∃ waiting answer, exchange.after = waiting ++ [.decoded answer] ∧
      judge () answer = .ready value ∧
      ∀ seen ∈ waiting, seen.isWaiting = true ∧
        ∀ packet, seen = .decoded packet → (judge () packet).role ≠ .last

variable {waiting : List Observation} {step : SignStep} {judge : Unit → Packet → PacketWait Unit α}
  {accept : α → Prop}

theorem single_of_waiting (step : SignStep) (all : ∀ seen ∈ waiting, seen.isWaiting = true) :
    (SignExchange.mk step waiting).Single :=
  fun seen inside => Observation.written?_of_isWaiting (all seen inside)

theorem single_append {last : List Observation} (before : (SignExchange.mk step waiting).Single)
    (after : ∀ seen ∈ last, seen.written? = none) :
    (SignExchange.mk step (waiting ++ last)).Single := by
  intro seen inside
  rcases List.mem_append.mp inside with earlier | later
  · exact before seen earlier
  · exact after seen later

/-- The loop after a write. -/
theorem LoopEnd.exchanged {read : ClientM τ ε Packet} (reading : Reading read) {trace : Trace}
    {sent middle : World τ ε} {outcome : Exit CoreError α × World τ ε} {packets : List Packet}
    (ready : trace.client.Ready) (wrote : sent.trace = trace.note (.wrote step.payload))
    (listened : Listened read judge () sent packets () middle)
    (ends : LoopEnd read judge () middle outcome) :
    ∃ exchange, Exchanged step judge trace outcome.1 outcome.2.trace exchange := by
  have can : sent.client.Ready := by rw [World.client, wrote]; exact ⟨ready.connected, ready.idle⟩
  have follows : ∀ carried packet, (judge carried packet).role = (judge () packet).role :=
    fun _ _ => rfl
  obtain ⟨goesOn, waiting, heard⟩ := listened.heard reading follows can
  have waited := single_of_waiting step heard.waits
  have observes := heard.observes
  rw [wrote] at observes
  replace observes := (Trace.note_observes ..).cons observes
  have unwritten : ∀ packet, ∀ seen ∈ [Observation.decoded packet], seen.written? = none := by
    simp [Observation.written?]
  have waits : ∀ seen ∈ waiting, seen.isWaiting = true ∧
      ∀ packet, seen = .decoded packet → (judge () packet).role ≠ .last := by
    intro seen inside
    refine ⟨heard.waits seen inside, ?_⟩
    rintro packet rfl
    refine goesOn packet ?_
    rw [← heard.decoded]
    exact List.mem_filterMap.mpr ⟨_, inside, rfl⟩
  cases ends with
  | ready reads judged =>
    obtain ⟨parsed, rfl, decodes⟩ := reading.decodes reads
    have still := Trace.ready_decode heard.ready parsed
    rw [← decodes] at still
    refine ⟨⟨step, _⟩, rfl, single_append waited (unwritten _),
      observes.trans (decodes ▸ Trace.decode_observes ..), ?_⟩
    rintro _ ⟨⟩
    exact ⟨still, waiting, _, rfl, judged, waits⟩
  | refused reads judged =>
    obtain ⟨parsed, rfl, decodes⟩ := reading.decodes reads
    refine ⟨⟨step, _⟩, rfl, single_append waited (unwritten _),
      observes.trans (decodes ▸ Trace.decode_observes ..), ?_⟩
    rintro _ ⟨⟩
  | @unread halt _ reads =>
    obtain ⟨last, observesLast, unwritten⟩ := (reading.fails reads).observes
    refine ⟨⟨step, _⟩, rfl, single_append waited unwritten, observes.trans observesLast, ?_⟩
    cases halt <;> rintro _ ⟨⟩

/-- A write that fails ends the exchange. -/
theorem exchanged_of_failed {trace reached : Trace} {after : List Observation}
    (halt : Option CoreError)
    (observes : (trace.note (.wrote step.payload)).Observes reached after)
    (unwritten : ∀ seen ∈ after, seen.written? = none) :
    ∃ exchange, Exchanged step judge trace (.halted halt) reached exchange := by
  refine ⟨⟨step, after⟩, rfl, unwritten, .cons (Trace.note_observes ..) observes, ?_⟩
  cases halt <;> exact nofun

section Transported

variable [Transport τ ε]

/-- A command and the wait for its response, as `send_command_expect` and
`send_command_expect_ok` are made. -/
def exchange (command : Command) (judge : Unit → Packet → PacketWait Unit α) : ClientM τ ε α := do
  sendOnly command
  awaitResponse readNextPacketWithTimeout judge ()

theorem exchange_exchanged {step : SignStep} {command : Command}
    (encodes : command.intoEncoded = step.payload)
    (small : step.payload ≠ [] ∧ step.payload.length ≤ maxInnerPayload)
    (judge : Unit → Packet → PacketWait Unit α) (world : World τ ε)
    (ready : world.client.Ready) :
    ∃ exchanged, Exchanged step judge world.trace (exchange command judge world).1
      (exchange command judge world).2.trace exchanged := by
  have sends := sendOnly_ends command world
  simp only [exchange, Async.bind_apply]
  rcases ran : sendOnly command world with ⟨exit, sent⟩
  rw [ran, encodes] at sends
  simp only at sends
  generalize moved : sent.trace = trace at sends
  cases sends with
  | disconnected closed => exact absurd (ready.connected.symm.trans closed) (by simp)
  | refused unanswered => exact absurd (ready.idle.symm.trans unanswered) (by simp)
  | tried connected answered ends =>
    cases ends with
    | written =>
      obtain ⟨packets, last, middle, listened, ends⟩ :=
        awaitResponse_listens judge spends_readNextPacketWithTimeout () sent
      exact ends.exchanged reading_readNextPacketWithTimeout ready moved listened
    | unsendable error unfit =>
      rcases unfit with empty | long
      · exact absurd empty small.1
      · exact absurd long (Nat.not_lt.mpr small.2)
    | late =>
      have observes : (world.trace.note (.wrote step.payload)).Observes sent.trace [] := moved ▸ rfl
      exact exchanged_of_failed (some .timeout) observes (by simp)
    | broken error spares =>
      have observes : (world.trace.note (.wrote step.payload)).Observes sent.trace [] := moved ▸ rfl
      exact exchanged_of_failed (some (.transport error)) observes (by simp)
    | closed error terminal =>
      obtain ⟨observed, observes, unwritten, -⟩ :=
        (world.trace.note (.wrote step.payload)).markDisconnected_observes
      exact exchanged_of_failed (some (.transport error)) (moved ▸ observes) unwritten
    | dropped =>
      have observes : (world.trace.note (.wrote step.payload)).Observes sent.trace [] := moved ▸ rfl
      exact exchanged_of_failed none observes (by simp)

end Transported

/-! ## Scripts -/

/-- These exchanges follow the script as far as it was accepted. -/
structure Scripted (all : Bytes) (script : List SignStep) (trace reached : Trace)
    (finished : Prop) (exchanges : List SignExchange) : Prop where
  observes : trace.Observes reached (exchanges.flatMap SignExchange.observed)
  single : ∀ exchange ∈ exchanges, exchange.Single
  steps : exchanges.map SignExchange.step <+: script
  accepted : ∀ exchange ∈ exchanges.dropLast, exchange.Accepted all
  begins : exchanges = [] → script = [] ∧ finished
  finishes : finished → exchanges.map SignExchange.step = script ∧
    (∀ exchange ∈ exchanges, exchange.Accepted all) ∧ reached.client.Ready

namespace Scripted

variable {all : Bytes} {first second : List SignStep} {trace middle reached : Trace}
  {finished : Prop} {earlier later : List SignExchange}

theorem nil (ready : trace.client.Ready) (reaches : finished) :
    Scripted all [] trace trace finished [] :=
  ⟨rfl, nofun, List.nil_prefix, nofun, fun _ => ⟨rfl, reaches⟩, fun _ => ⟨rfl, nofun, ready⟩⟩

/-- A script that has stopped is a part of every longer one. -/
theorem stop {goal : Prop} (unfinished : ¬ finished) (never : ¬ goal)
    (scripted : Scripted all first trace reached finished earlier) :
    Scripted all (first ++ second) trace reached goal earlier where
  observes := scripted.observes
  single := scripted.single
  steps := scripted.steps.trans (List.prefix_append first second)
  accepted := scripted.accepted
  begins := fun empty => absurd (scripted.begins empty).2 unfinished
  finishes := fun reaches => absurd reaches never

theorem append {reaches : Prop} (before : Scripted all first trace middle reaches earlier)
    (reachedMiddle : reaches) (after : Scripted all second middle reached finished later) :
    Scripted all (first ++ second) trace reached finished (earlier ++ later) := by
  obtain ⟨whole, accepted, -⟩ := before.finishes reachedMiddle
  constructor
  · rw [List.flatMap_append]
    exact before.observes.trans after.observes
  · intro exchange inside
    rcases List.mem_append.mp inside with inside | inside
    · exact before.single exchange inside
    · exact after.single exchange inside
  · rw [List.map_append, whole]
    exact (List.prefix_append_right_inj first).mpr after.steps
  · intro exchange inside
    cases later with
    | nil =>
      rw [List.append_nil] at inside
      exact before.accepted exchange inside
    | cons head tail =>
      rw [List.dropLast_append_cons] at inside
      rcases List.mem_append.mp inside with inside | inside
      · exact accepted exchange inside
      · exact after.accepted exchange inside
  · intro empty
    obtain ⟨none, nothing⟩ := List.append_eq_nil_iff.mp empty
    refine ⟨?_, (after.begins nothing).2⟩
    rw [(before.begins none).1, (after.begins nothing).1, List.nil_append]
  · intro done
    obtain ⟨rest, acceptedRest, ready⟩ := after.finishes done
    refine ⟨by rw [List.map_append, whole, rest], fun exchange inside => ?_, ready⟩
    rcases List.mem_append.mp inside with inside | inside
    · exact accepted exchange inside
    · exact acceptedRest exchange inside

end Scripted

/-- From any client that can send, the computation follows the script; with a value that is
accepted, to its end. -/
def Plays (all : Bytes) (script : List SignStep) (accept : α → Prop) (body : ClientM τ ε α) :
    Prop :=
  ∀ world, world.client.Ready → ∃ exchanges, Scripted all script world.trace
    (body world).2.trace (∃ value, (body world).1 = .done value ∧ accept value) exchanges

theorem plays_pure {all : Bytes} {value : α} (accepted : accept value) :
    Plays all [] accept (pure value : ClientM τ ε α) :=
  fun _ ready => ⟨[], .nil ready ⟨value, rfl, accepted⟩⟩

/-- Scripts follow each other while the values are accepted, and nothing follows another one. -/
theorem plays_bind {all : Bytes} {first second : List SignStep} {finish : β → Prop}
    {body : ClientM τ ε α} {next : α → ClientM τ ε β} (before : Plays all first accept body)
    (after : ∀ value, accept value → Plays all second finish (next value))
    (refused : ∀ value, ¬ accept value → ∃ error, next value = fail error) :
    Plays all (first ++ second) finish (body >>= next) := by
  intro world ready
  obtain ⟨earlier, scripted⟩ := before world ready
  rw [Async.bind_apply]
  rcases ran : body world with ⟨value | error | _, middle⟩
  all_goals
    rw [ran] at scripted
    simp only
  · by_cases accepted : accept value
    · have reaches : ∃ given, (Exit.done value : Exit CoreError α) = .done given ∧ accept given :=
        ⟨value, rfl, accepted⟩
      have still := (scripted.finishes reaches).2.2
      obtain ⟨later, rest⟩ := after value accepted middle still
      exact ⟨earlier ++ later, scripted.append reaches rest⟩
    · obtain ⟨error, fails⟩ := refused value accepted
      rw [fails]
      refine ⟨earlier, scripted.stop ?_ (by simp)⟩
      rintro ⟨_, ⟨⟩, accepts⟩
      exact accepted accepts
  · exact ⟨earlier, scripted.stop (by simp) (by simp)⟩
  · exact ⟨earlier, scripted.stop (by simp) (by simp)⟩

section Transported

variable [Transport τ ε]

/-- One exchange is a script of one step. -/
theorem plays_exchange {all : Bytes} {step : SignStep} {command : Command}
    {judge : Unit → Packet → PacketWait Unit α} {accept : α → Prop}
    (encodes : command.intoEncoded = step.payload)
    (small : step.payload ≠ [] ∧ step.payload.length ≤ maxInnerPayload)
    (accepts : ∀ answer value, judge () answer = .ready value → accept value →
      step.accepts all answer = true)
    (follows : ∀ packet, (judge () packet).role ≠ .last → step.ends packet = false) :
    Plays all [step] accept (exchange command judge : ClientM τ ε α) := by
  intro world ready
  obtain ⟨exchanged, went⟩ := exchange_exchanged encodes small judge world ready
  refine ⟨[exchanged], ?_⟩
  constructor
  · simpa using went.observes
  · simpa using went.single
  · simp [went.step]
  · simp
  · simp
  · rintro ⟨value, done, accepted⟩
    obtain ⟨still, waiting, answer, after, judged, waits⟩ := went.answered value done
    refine ⟨by simp [went.step], List.forall_mem_singleton.mpr ?_, still⟩
    refine ⟨waiting, answer, after, ?_, fun seen inside => ⟨(waits seen inside).1, ?_⟩⟩
    · rw [went.step]
      exact accepts answer value judged accepted
    · intro packet decoded
      rw [went.step]
      exact follows packet ((waits seen inside).2 packet decoded)

theorem ends_of_okJudge {chunk : Bytes} {packet : Packet}
    (goesOn : (okJudge () packet).role ≠ .last) : (SignStep.data chunk).ends packet = false := by
  cases packet <;> first
    | rfl
    | exact absurd rfl goesOn

theorem accepts_of_okJudge {all chunk : Bytes} {packet : Packet} {value : Unit}
    (judged : okJudge () packet = .ready value) : (SignStep.data chunk).accepts all packet := by
  cases packet <;> first
    | rfl
    | cases judged

theorem plays_signChunks (all : Bytes) (parts : List Bytes)
    (sized : ∀ chunk ∈ parts, 1 ≤ chunk.length ∧ chunk.length ≤ signingChunkBytes) :
    Plays all (parts.map .data) (fun _ => True) (signChunks parts : ClientM τ ε Unit) := by
  induction parts with
  | nil => exact plays_pure trivial
  | cons chunk rest ih =>
    obtain ⟨filled, short⟩ := sized chunk List.mem_cons_self
    have fits : chunk.length + 1 ≤ maxInnerPayload :=
      Nat.le_trans (Nat.succ_le_succ short) (by decide)
    have nonempty : ¬ chunk.isEmpty = true := by
      intro empty
      rw [List.isEmpty_iff.mp empty] at filled
      cases filled
    have built : Command.signData chunk = .ok { code := .signData, payload := chunk } := by
      unfold Command.signData Command.checked
      rw [if_neg nonempty, if_neg (Nat.not_lt.mpr fits)]
    have unfolds : (signChunks (chunk :: rest) : ClientM τ ε Unit) =
        (do exchange { code := .signData, payload := chunk } okJudge; signChunks rest) := by
      simp only [signChunks, built]
      rfl
    rw [unfolds]
    have writes : Plays all [.data chunk] (fun _ => True)
        (exchange { code := .signData, payload := chunk } okJudge : ClientM τ ε Unit) :=
      plays_exchange rfl ⟨nofun, fits⟩ (fun _ _ judged _ => accepts_of_okJudge judged)
        fun _ => ends_of_okJudge
    refine plays_bind writes (fun _ _ => ?_) fun _ never => absurd trivial never
    exact ih fun other inside => sized other (List.mem_cons_of_mem _ inside)

theorem plays_sign (data : Bytes) :
    Plays data (signScript data) (fun _ => True) (sign data : ClientM τ ε Signature) := by
  unfold sign
  refine plays_bind (?_ : Plays data [.start] (fun limit : UInt32 => data.length ≤ limit.toNat) _)
    (fun limit room => ?_) fun limit long => ?_
  · refine plays_exchange rfl ⟨List.cons_ne_nil _ _, by decide⟩ ?_ ?_
    · intro answer limit judged room
      cases answer <;> cases judged
      exact decide_eq_true room
    · intro packet goesOn
      cases packet <;> first
        | rfl
        | exact absurd rfl goesOn
  · rw [if_neg (Nat.not_lt.mpr room)]
    refine plays_bind (plays_signChunks data _ fun chunk => length_of_mem_chunks (by decide))
      (fun _ _ => ?_) fun _ never => absurd trivial never
    refine plays_exchange rfl ⟨List.cons_ne_nil _ _, by decide⟩ ?_ ?_
    · intro answer signature judged _
      cases answer <;> first
        | rfl
        | cases judged
    · intro packet goesOn
      cases packet <;> first
        | rfl
        | exact absurd rfl goesOn
  · rw [if_pos (Nat.lt_of_not_le long)]
    exact ⟨_, rfl⟩

/-- A client that cannot send writes nothing. -/
theorem sign_unready (data : Bytes) (world : World τ ε) (unready : ¬ world.client.Ready) :
    ∃ observed, world.trace.Observes ((sign data : ClientM τ ε Signature) world).2.trace observed ∧
      observed.filterMap Observation.written? = [] ∧
      ∀ signature, ((sign data : ClientM τ ε Signature) world).1 ≠ .done signature := by
  have sends := sendOnly_ends Command.signStart world
  simp only [sign, sendCommandExpect, Async.bind_apply]
  rcases ran : sendOnly Command.signStart world with ⟨exit, sent⟩
  rw [ran] at sends
  simp only at sends
  generalize moved : sent.trace = trace at sends
  cases sends with
  | disconnected closed =>
    have observes : world.trace.Observes sent.trace [] := moved ▸ rfl
    refine ⟨_, observes, rfl, ?_⟩
    rintro _ ⟨⟩
  | refused unanswered =>
    have observes : world.trace.Observes sent.trace [.refused Command.signStart.intoEncoded] :=
      moved ▸ rfl
    refine ⟨_, observes, rfl, ?_⟩
    rintro _ ⟨⟩
  | tried connected answered ends =>
    refine absurd ⟨connected, ?_⟩ unready
    cases state : world.trace.client.syncState with
    | idle => exact state
    | awaitingResponse => exact absurd state answered

end Transported

end Client

/-! ## What was written -/

theorem written_observed {exchanges : List SignExchange}
    (single : ∀ exchange ∈ exchanges, exchange.Single) :
    (exchanges.flatMap SignExchange.observed).filterMap Observation.written? =
      exchanges.map (·.step.payload) := by
  induction exchanges with
  | nil => rfl
  | cons exchange rest ih =>
    have silent : exchange.after.filterMap Observation.written? = [] :=
      List.filterMap_eq_nil_iff.mpr (single exchange List.mem_cons_self)
    have shown : exchange.observed.filterMap Observation.written? = [exchange.step.payload] :=
      congrArg (exchange.step.payload :: ·) silent
    rw [List.flatMap_cons, List.filterMap_append, shown, List.map_cons,
      ih fun other inside => single other (List.mem_cons_of_mem _ inside)]
    rfl

/-- The finish is the end of the script. -/
theorem eq_signScript_of_finish (follows : steps <+: signScript data) (finishes : .finish ∈ steps) :
    steps = signScript data := by
  rw [signScript, ← List.append_assoc] at follows ⊢
  rcases List.prefix_concat_iff.mp follows with whole | part
  · exact whole
  · have early := part.subset finishes
    simp at early

theorem length_of_data_mem_signScript (inside : .data chunk ∈ signScript data) :
    1 ≤ chunk.length ∧ chunk.length ≤ 120 := by
  have listed : chunk ∈ chunks signingChunkBytes data := by simpa [signScript] using inside
  exact length_of_mem_chunks (by decide) listed

theorem carried_of_follows (follows : steps <+: signScript data) :
    steps.flatMap SignStep.carried <+: data := by
  obtain ⟨rest, whole⟩ := follows
  refine ⟨rest.flatMap SignStep.carried, ?_⟩
  rw [← List.flatMap_append, whole, carried_signScript]

/-- Whatever the device does, signing writes an initial part of its script: the start, the data
in chunks of 1 to 120 bytes, the finish. A step is only followed by another one if it was
accepted, which for the start means that the device has announced room for all the data. The
chunks written carry an initial part of the data, and all of it before the finish. A client that
cannot send writes nothing. -/
theorem sign_writes_while_accepted {τ ε : Type} [Transport τ ε] (data : Bytes)
    (world : World τ ε) :
    ∃ (observed : List Observation) (exchanges : List SignExchange),
      world.trace.Observes ((Client.sign data : ClientM τ ε Signature) world).2.trace observed ∧
      observed.filterMap Observation.written? = exchanges.map (·.step.payload) ∧
      (world.client.Ready → exchanges ≠ [] ∧ observed = exchanges.flatMap SignExchange.observed) ∧
      (¬ world.client.Ready → exchanges = []) ∧
      exchanges.map SignExchange.step <+: signScript data ∧
      (∀ chunk, .data chunk ∈ exchanges.map SignExchange.step →
        1 ≤ chunk.length ∧ chunk.length ≤ 120) ∧
      (exchanges.map SignExchange.step).flatMap SignStep.carried <+: data ∧
      (∀ earlier exchange later, exchanges = earlier ++ exchange :: later →
        ∀ before ∈ earlier, before.Accepted data) ∧
      (.finish ∈ exchanges.map SignExchange.step →
        (exchanges.map SignExchange.step).flatMap SignStep.carried = data) ∧
      ∀ signature, ((Client.sign data : ClientM τ ε Signature) world).1 = .done signature →
        exchanges.map SignExchange.step = signScript data ∧
          ∀ exchange ∈ exchanges, exchange.Accepted data := by
  by_cases ready : world.client.Ready
  · obtain ⟨exchanges, scripted⟩ := Client.plays_sign data world ready
    refine ⟨_, exchanges, scripted.observes, written_observed scripted.single,
      fun _ => ⟨?_, rfl⟩, fun unready => absurd ready unready, scripted.steps,
      fun chunk inside => length_of_data_mem_signScript (scripted.steps.subset inside),
      carried_of_follows scripted.steps, ?_, fun finishes => ?_, fun signature done => ?_⟩
    · intro empty
      cases (scripted.begins empty).1
    · rintro earlier exchange later rfl before inside
      refine scripted.accepted before ?_
      rw [List.dropLast_append_cons]
      exact List.mem_append_left _ inside
    · rw [eq_signScript_of_finish scripted.steps finishes]
      exact carried_signScript data
    · obtain ⟨whole, accepted, -⟩ := scripted.finishes ⟨signature, done, trivial⟩
      exact ⟨whole, accepted⟩
  · obtain ⟨observed, observes, silent, halts⟩ := Client.sign_unready data world ready
    refine ⟨observed, [], observes, silent, fun can => absurd can ready, fun _ => rfl,
      List.nil_prefix, nofun, List.nil_prefix, ?_, nofun, ?_⟩
    · intro earlier exchange later split
      simp at split
    · intro signature done
      exact absurd done (halts signature)

end Meshquill
