import Meshquill.Client.Requests

/-!
# How operations end

Rules for `Ends`: what holds of a client's trace and its transport after an operation returned,
failed or was dropped. The turns and the deadline are the environment's, so no condition is
about them.
-/
namespace Meshquill.Client

open Async

variable {τ ε α β : Type} {before : Trace → τ → Prop} {done : α → Trace → τ → Prop}
  {failed : CoreError → Trace → τ → Prop} {dropped : Trace → τ → Prop}

def Ends (before : Trace → τ → Prop) (body : ClientM τ ε α) (done : α → Trace → τ → Prop)
    (failed : CoreError → Trace → τ → Prop) (dropped : Trace → τ → Prop) : Prop :=
  Outcome (fun world => before world.trace world.transport) body
    (fun value world => done value world.trace world.transport)
    (fun error world => failed error world.trace world.transport)
    (fun world => dropped world.trace world.transport)

theorem ends_pure (value : α)
    (ready : ∀ trace transport, before trace transport → done value trace transport) :
    Ends before (pure value : ClientM τ ε α) done failed dropped :=
  outcome_pure value fun world => ready world.trace world.transport

theorem ends_fail (error : CoreError)
    (ready : ∀ trace transport, before trace transport → failed error trace transport) :
    Ends before (fail error : ClientM τ ε α) done failed dropped :=
  outcome_fail error fun world => ready world.trace world.transport

theorem ends_bind {first : ClientM τ ε α} {next : α → ClientM τ ε β}
    {final : β → Trace → τ → Prop} (head : Ends before first done failed dropped)
    (tail : ∀ value, Ends (done value) (next value) final failed dropped) :
    Ends before (first >>= next) final failed dropped :=
  outcome_bind head tail

theorem ends_ofExcept {done : α → Trace → τ → Prop} (result : Except CoreError α)
    (returns : ∀ value trace transport, result = .ok value → before trace transport →
      done value trace transport)
    (fails : ∀ error trace transport, result = .error error → before trace transport →
      failed error trace transport) :
    Ends before (ofExcept result : ClientM τ ε α) done failed dropped := by
  cases result with
  | ok value => exact ends_pure value fun trace transport => returns value trace transport rfl
  | error error => exact ends_fail error fun trace transport => fails error trace transport rfl

variable {body : ClientM τ ε α} {change : Trace → Trace}

theorem Ends.weaken {weaker : Trace → τ → Prop} {stronger : α → Trace → τ → Prop}
    (ends : Ends weaker body stronger failed dropped)
    (entry : ∀ trace transport, before trace transport → weaker trace transport)
    (leave : ∀ value trace transport, stronger value trace transport → done value trace transport) :
    Ends before body done failed dropped :=
  Outcome.weaken ends (fun world => entry world.trace world.transport)
    fun value world => leave value world.trace world.transport

/-- A statement that does not suspend. -/
theorem ends_locally {done : Unit → Trace → τ → Prop}
    (ready : ∀ trace transport, before trace transport → done () (change trace) transport) :
    Ends before (locally change : ClientM τ ε Unit) done failed dropped :=
  fun world => ready world.trace world.transport

/-- A last statement before an error. -/
theorem ends_locally_fail {error : CoreError}
    (ready : ∀ trace transport, before trace transport → failed error (change trace) transport) :
    Ends before (locally change >>= fun _ => fail error : ClientM τ ε α) done failed dropped :=
  fun world => ready world.trace world.transport

/-- A last statement before the result. -/
theorem ends_locally_pure {value : α}
    (ready : ∀ trace transport, before trace transport → done value (change trace) transport) :
    Ends before (locally change >>= fun _ => pure value : ClientM τ ε α) done failed dropped :=
  fun world => ready world.trace world.transport

theorem ends_self : Ends before (self : ClientM τ ε Client)
    (fun client trace transport => before trace transport ∧ client = trace.client)
    failed dropped :=
  fun _ holds => ⟨holds, rfl⟩

/-- An await: the call resolves, or it runs into a deadline, or it is dropped. -/
theorem ends_await {call : ε → τ → Call α × τ}
    {done : Except TransportError α → Trace → τ → Prop}
    (resolved : ∀ io trace transport result next, before trace transport →
      call io transport = (some result, next) → done result trace next)
    (unresolved : ∀ io trace transport next, before trace transport →
      call io transport = (none, next) → failed .timeout trace next ∧ dropped trace next)
    (idle : ∀ trace transport, before trace transport → dropped trace transport) :
    Ends before (await call) done failed dropped := by
  intro world holds
  cases granted : world.turns with
  | nil =>
    have ended : await call world = (.dropped, world) := by simp [await, granted]
    rw [ended]
    exact idle _ _ holds
  | cons turn turns =>
    rcases ran : call turn.io world.transport with ⟨_ | result, transport⟩
    · obtain ⟨late, cut⟩ := unresolved _ _ _ _ holds ran
      have ended : await call world =
          (if world.deadline && turn.elapsed then .failed .timeout else .dropped,
            { world with transport, turns }) := by simp [await, granted, ran]
      rw [ended]
      cases world.deadline && turn.elapsed with
      | true => exact late
      | false => exact cut
    · have ended : await call world = (.done result, { world with transport, turns }) := by
        simp [await, granted, ran]
      rw [ended]
      exact resolved _ _ _ _ _ holds ran

theorem ends_timeout (duration : Duration) (ends : Ends before body done failed dropped) :
    Ends before (timeout duration body) done failed dropped := by
  intro world holds
  have ended := ends { world with deadline := true } holds
  simp only [timeout]
  rcases ran : body { world with deadline := true } with ⟨value | error | _, reached⟩
  all_goals rw [ran] at ended; exact ended

/-- What holds after an observed result. -/
def Attempted {assertion : Type} (done : α → assertion) (failed : CoreError → assertion) :
    Except CoreError α → assertion
  | .ok value => done value
  | .error error => failed error

theorem ends_attempt {erred : CoreError → Trace → τ → Prop}
    (ends : Ends before body done erred dropped) :
    Ends before (attempt body) (Attempted done erred) failed dropped := by
  intro world holds
  have ended := ends world holds
  simp only [attempt]
  rcases ran : body world with ⟨value | error | _, reached⟩
  all_goals rw [ran] at ended; exact ended

theorem ends_ensureConnected
    (closed : ∀ trace transport, before trace transport → trace.client.connected = false →
      failed .disconnected trace transport) :
    Ends before (ensureConnected : ClientM τ ε Unit)
      (fun _ trace transport => before trace transport ∧ trace.client.connected = true)
      failed dropped := by
  intro world holds
  by_cases connected : world.client.connected = true
  · have ended : ensureConnected world = (.done (), world) := if_pos connected
    rw [ended]
    exact ⟨holds, connected⟩
  · have ended : ensureConnected world = (.failed .disconnected, world) := if_neg connected
    rw [ended]
    exact closed _ _ holds (Bool.eq_false_iff.mpr connected)

/-- The parser's outcomes: a packet, a rejection, or a panic. -/
theorem ends_parsePacket {raw : Bytes} {done : Packet → Trace → τ → Prop}
    (parses : ∀ trace transport packet, before trace transport → Packet.parse raw = .ok packet →
      done (trace.number packet) (trace.decode packet) transport)
    (rejects : ∀ trace transport error, before trace transport →
      Packet.parse raw = .error (.rejected error) →
      failed (.parse error) (trace.note (.rejected raw)) transport)
    (panics : ∀ trace transport, before trace transport →
      Packet.parse raw = .error .panicked → dropped trace transport) :
    Ends before (parsePacket raw : ClientM τ ε Packet) done failed dropped := by
  intro world holds
  simp only [parsePacket, Trace.parsePacket]
  rcases parsed : Packet.parse raw with (error | _) | packet
  · exact rejects _ _ _ holds parsed
  · exact panics _ _ holds parsed
  · exact parses _ _ _ holds parsed

/-- A loop keeps its invariant from round to round. -/
theorem ends_loop {body : β → ClientM τ ε (β ⊕ α)} {invariant : Trace → τ → Prop}
    (stops : ∀ trace transport, invariant trace transport → dropped trace transport)
    (round : ∀ carried, Ends invariant (body carried)
      (fun result trace transport => match result with
        | .inl _ => invariant trace transport
        | .inr value => done value trace transport) failed dropped) (carried : β) :
    Ends invariant (loop World.remaining body carried) done failed dropped := by
  let keeps (_ : β) (world : World τ ε) : Prop := invariant world.trace world.transport
  have rounds (carried : β) : Outcome (keeps carried) (body carried)
      (fun result world => match result with
        | .inl next => keeps next world
        | .inr value => done value world.trace world.transport)
      (fun error world => failed error world.trace world.transport)
      (fun world => dropped world.trace world.transport) :=
    Outcome.weaken (round carried) (fun _ holds => holds) fun result _ holds => by
      cases result <;> exact holds
  exact outcome_loop World.remaining (fun _ world => stops world.trace world.transport) rounds
    carried

/-! ## The loops of the client

The loops of `client.rs` are unbounded. Here every round awaits a read, which takes a
turn, so a bound of one round more than there are turns is never reached: each loop is its
body followed by the loop again, and it never ends for lack of rounds.
-/

theorem keeps_locally (change : Trace → Trace) :
    Keeps World.remaining (locally change : ClientM τ ε Unit) :=
  fun _ => Nat.le_refl _

theorem keeps_ofExcept (result : Except CoreError α) :
    Keeps World.remaining (ofExcept result : ClientM τ ε α) := by
  cases result with
  | ok value => exact keeps_pure _ value
  | error error => exact keeps_fail _ error

theorem keeps_parsePacket (raw : Bytes) :
    Keeps World.remaining (parsePacket raw : ClientM τ ε Packet) := by
  intro world
  unfold parsePacket
  split <;> exact Nat.le_refl _

theorem keeps_markDisconnectedIf (terminal : Bool) :
    Keeps World.remaining (markDisconnectedIf terminal : ClientM τ ε Unit) := by
  cases terminal with
  | true => exact keeps_locally _
  | false => exact keeps_pure _ ()

/-- An await that resolves has used its turn. -/
theorem spends_await (call : ε → τ → Call α × τ) : Spends World.remaining (await call) := by
  intro world value reached ended
  unfold await at ended
  split at ended
  · cases ended
  · rename_i turn turns granted
    have used : turns.length < world.remaining := by
      rw [World.remaining, granted, List.length_cons]
      exact Nat.lt_succ_self _
    split at ended
    · cases ended
      exact used
    · split at ended <;> cases ended

theorem spends_timeout (duration : Duration) (spends : Spends World.remaining body) :
    Spends World.remaining (timeout duration body) := by
  intro world value reached ended
  obtain ⟨exit, rfl⟩ := Prod.mk.inj ended
  exact spends { world with deadline := true } value
    (body { world with deadline := true }).2 (Prod.ext exit rfl)

section Transported

variable [Transport τ ε]

theorem spends_readNextPacket : Spends World.remaining (readNextPacket : ClientM τ ε Packet) := by
  refine spends_bind _ (spends_await _) ?_
  rintro (error | _ | raw)
  · exact keeps_bind _ (keeps_markDisconnectedIf _) fun _ => keeps_fail _ _
  · exact keeps_bind _ (keeps_locally _) fun _ => keeps_fail _ _
  · exact keeps_parsePacket raw

theorem spends_readNextPacketWithTimeout :
    Spends World.remaining (readNextPacketWithTimeout : ClientM τ ε Packet) := by
  intro world value reached ended
  exact spends_timeout world.client.requestTimeout spends_readNextPacket world value reached ended

omit [Transport τ ε] in
/-- A response loop is one read, the judgement on its packet, and the loop again. -/
theorem awaitResponse_unfold {read : ClientM τ ε Packet} (spends : Spends World.remaining read)
    (judge : β → Packet → PacketWait β α) (carried : β) :
    awaitResponse read judge carried = (do
      let packet ← read
      match judge carried packet with
      | .ready value => pure value
      | .keep next => awaitResponse read judge next
      | .fail error => fail error
      | .proceed => do
        publishEvent packet
        updateTracking packet
        awaitResponse read judge carried) := by
  funext world
  refine (loop_unfold World.remaining _ (decreases_of_spends _ fun carried => ?_) carried
    world).trans ?_
  · refine spends_bind _ spends fun packet => ?_
    cases judge carried packet with
    | ready | keep => exact keeps_pure _ _
    | fail error => exact keeps_fail _ _
    | proceed =>
      exact keeps_bind _ (keeps_locally _) fun _ => keeps_bind _ (keeps_locally _) fun _ =>
        keeps_pure _ _
  · rw [bind_assoc]
    refine congrFun (congrArg (read >>= ·) (funext fun packet => ?_)) world
    cases judge carried packet <;> rfl

theorem waitForSyncResponse_unfold :
    (waitForSyncResponse : ClientM τ ε (Option Message)) = (do
      let packet ← readNextPacketWithTimeout
      match packet.readySync with
      | some ready =>
        locally (Trace.handOver packet ready)
        ofExcept (readySyncResult ready)
      | none =>
        publishEvent packet
        updateTracking packet
        waitForSyncResponse) := by
  funext world
  refine (loop_unfold World.remaining _ (decreases_of_spends _ fun _ => ?_) () world).trans ?_
  · refine spends_bind _ spends_readNextPacketWithTimeout fun packet => ?_
    cases packet.readySync with
    | some ready =>
      exact keeps_bind _ (keeps_locally _) fun _ => keeps_ofExcept _
    | none =>
      exact keeps_bind _ (keeps_locally _) fun _ => keeps_bind _ (keeps_locally _) fun _ =>
        keeps_pure _ _
  · rw [bind_assoc]
    refine congrFun (congrArg (readNextPacketWithTimeout >>= ·) (funext fun packet => ?_)) world
    cases packet.readySync with
    | some ready =>
      dsimp only
      cases readySyncResult ready <;> rfl
    | none => rfl

end Transported

end Meshquill.Client
