import Meshquill.Client.Connect
import Meshquill.Client.Runs

/-!
# ACK tracking

The pending and the completed ACKs of a client. `Tracked` is the invariant of every
state that a run reaches: each tracker's map and queue agree, within their capacity, no
code is in both, and a client that is not connected tracks nothing.

`owed` reads the same thing off a history: the ACK that the next wait for a code has to return,
until as many newer ones are held behind it as the client has room for. The client is shown to
hold whatever is owed, in runs that connect only while not connected: `connect` forgets the
trackers even when the transport then refuses and the session goes on.
-/
namespace Meshquill

namespace Client

/-! ## The trackers agree -/

structure Tracked (client : Client) : Prop where
  pending : client.pendingAcks.WellFormed clientPendingAckCapacity
  completed : client.completedAcks.WellFormed clientCompletedAckCapacity
  disjoint : ∀ code, code ∈ client.pendingAcks.map → code ∉ client.completedAcks.map
  closed : client.connected = false → client.Clear

variable {client : Client}

theorem tracked_of_clear (clear : client.Clear) : client.Tracked where
  pending := by
    rw [clear.pending]
    exact FifoMap.wellFormed_empty _
  completed := by
    rw [clear.completed]
    exact FifoMap.wellFormed_empty _
  disjoint code inside := by
    rw [clear.pending] at inside
    exact absurd inside Finmap.notMem_empty
  closed _ := clear

section Changes

variable (tracked : client.Tracked)

include tracked

/-- Of a connected client, only the trackers matter. -/
theorem Tracked.frame {next : Client}
    (connected : next.connected = true) (pending : next.pendingAcks = client.pendingAcks)
    (completed : next.completedAcks = client.completedAcks) : next.Tracked where
  pending := pending ▸ tracked.pending
  completed := completed ▸ tracked.completed
  disjoint := by
    rw [pending, completed]
    exact tracked.disjoint
  closed open' := by simp [connected] at open'

theorem Tracked.discardPendingAck (code : AckCode) :
    (client.discardPendingAck code).Tracked where
  pending := tracked.pending.discard code
  completed := tracked.completed
  disjoint other inside := tracked.disjoint other (FifoMap.mem_discard.mp inside).2
  closed notConnected := by
    obtain ⟨pending, completed, idle, nothing⟩ := tracked.closed notConnected
    exact ⟨by simp [Client.discardPendingAck, pending], completed, idle, nothing⟩

theorem Tracked.discardCompletedAck (code : AckCode) :
    (client.discardCompletedAck code).Tracked where
  pending := tracked.pending
  completed := tracked.completed.discard code
  disjoint other inside both := tracked.disjoint other inside (FifoMap.mem_discard.mp both).2
  closed notConnected := by
    obtain ⟨pending, completed, idle, nothing⟩ := tracked.closed notConnected
    exact ⟨pending, by simp [Client.discardCompletedAck, completed], idle, nothing⟩

/-- A pending code may be remembered once no completed ACK carries it. -/
theorem Tracked.rememberPendingAck
    (connected : client.connected = true) {tracking : CommandTracking}
    (fresh : tracking.ackCode ∉ client.completedAcks.map) :
    (client.rememberPendingAck tracking).Tracked where
  pending := tracked.pending.remember (by decide) _ _
  completed := tracked.completed
  disjoint other inside := by
    rcases FifoMap.mem_of_mem_remember inside with rfl | ⟨-, earlier⟩
    · exact fresh
    · exact tracked.disjoint other earlier
  closed notConnected := nomatch connected.symm.trans notConnected

/-- A completed ACK may be remembered once its code is no longer pending. -/
theorem Tracked.rememberCompletedAck
    (connected : client.connected = true) {ack : Ack} (done : ack.code ∉ client.pendingAcks.map) :
    (client.rememberCompletedAck ack).Tracked where
  pending := tracked.pending
  completed := tracked.completed.remember (by decide) _ _
  disjoint other inside both := by
    rcases FifoMap.mem_of_mem_remember both with rfl | ⟨-, earlier⟩
    · exact done inside
    · exact tracked.disjoint other inside earlier
  closed notConnected := nomatch connected.symm.trans notConnected

end Changes

theorem Tracked.trackSent {trace : Trace} (tracked : trace.client.Tracked)
    (connected : trace.client.connected = true) (tracking : CommandTracking) :
    (trace.trackSent tracking).client.Tracked :=
  (tracked.discardCompletedAck tracking.ackCode).rememberPendingAck connected
    fun inside => (FifoMap.mem_discard.mp inside).1 rfl

theorem Tracked.updateTracking {trace : Trace} (tracked : trace.client.Tracked)
    (connected : trace.client.connected = true) (packet : Packet) :
    (trace.updateTracking packet).client.Tracked := by
  unfold Trace.updateTracking
  split
  · exact tracked.trackSent connected _
  · rename_i ack
    cases found : trace.client.pendingAcks.map.lookup ack.code with
    | none =>
      rw [Trace.trackAck_of_unknown found]
      exact tracked
    | some tracking =>
      rw [Trace.trackAck_of_pending found]
      exact (tracked.discardPendingAck ack.code).rememberCompletedAck connected
        fun inside => (FifoMap.mem_discard.mp inside).1 rfl
  · exact tracked

/-- Every act keeps the trackers in agreement. -/
theorem act_tracked {allowed : Client → Prop} (trace next : Trace)
    (act : Act allowed trace next) (tracked : trace.client.Tracked) : next.client.Tracked := by
  cases act with
  | forgot called => exact tracked_of_clear ⟨rfl, rfl, rfl, rfl⟩
  | established clear => exact tracked_of_clear ⟨clear.1, clear.2, clear.3, clear.4⟩
  | closed => exact tracked_of_clear trace.markDisconnected_clear
  | announced | wrote | refused | unsendable | rejected => exact tracked
  | synchronised connected idle nothing => exact tracked.frame connected rfl rfl
  | passed | surfaced | swallowed =>
    exact (tracked.frame (by simpa) (by simp) (by simp)).updateTracking (by simpa) _
  | watched | accepted | dismissed => exact tracked.frame (by simpa) (by simp) (by simp)
  | handed | tookDeferred =>
    exact tracked.frame (by simpa) (by simp) (by simp)
  | claimed ack connected =>
    rw [Trace.claimAck_client]
    exact (tracked.frame (by simpa) (by simp) (by simp)).discardPendingAck ack.code
  | tookCompleted code connected =>
    cases found : trace.client.completedAcks.map.lookup code with
    | none =>
      rw [Trace.takeCompletedAck_of_missing found]
      exact tracked
    | some ack =>
      rw [Trace.takeCompletedAck_of_found found]
      exact tracked.discardCompletedAck code
  | issued tracking connected => exact tracked.trackSent connected tracking
  | abandoned code => exact (tracked.discardPendingAck code).discardCompletedAck code

end Client

/-- In every state that a run reaches, the trackers agree, and a client that is not
connected is clear. -/
theorem World.run_tracked {τ ε : Type} [Transport τ ε] (transport : τ)
    (requestTimeout : Duration) (invocations : List (Invocation ε)) :
    ((World.initial transport requestTimeout).run invocations).client.Tracked :=
  World.run_keeps (World.connectsOn_any _ _) Client.act_tracked
    (Client.tracked_of_clear ⟨rfl, rfl, rfl, rfl⟩)

open History

/-! ## What a wait has to return -/

/-- The ACK that the next wait for this code has to return, with the codes of the ACKs completed
after it. It becomes owed when it is read while its code is pending. It is evicted by an ACK with
which the newer ones fill the tracker; those that a wait has taken since do not count. -/
def owed (code : AckCode) : List Entry → Option (Ack × List AckCode)
  | [] => none
  | ⟨seen, client⟩ :: earlier =>
    match seen with
    | .decoded (.ack ack) =>
      if ack.code = code ∧ (client.pendingAcks.map.lookup ack.code).isSome then some (ack, [])
      else owed code earlier
    | .recorded ack =>
      if ack.code = code then owed code earlier
      else (owed code earlier).bind fun (owing, newer) =>
        let behind := client.completedAcks.behind newer ack.code
        if behind.length < clientCompletedAckCapacity then some (owing, behind) else none
    | .claimed ack => if ack.code = code then none else owed code earlier
    | .issued other | .abandoned other => if other = code then none else owed code earlier
    | .closed => none
    | _ => owed code earlier

/-- The client holds every ACK that is owed, behind only such as were completed after it. -/
def Owes (trace : Trace) : Prop :=
  ∀ code ack newer, owed code trace.history = some (ack, newer) →
    trace.client.completedAcks.Held code ack newer

section Owed

variable (code : AckCode) (trace : Trace)

/-- Passing packets on does not change what is owed. -/
theorem owed_shown {earlier history : List Entry}
    (adds : Adds (fun entry => entry.seen.isShown) earlier history) :
    owed code history = owed code earlier := by
  obtain ⟨added, rfl, all⟩ := adds
  induction added with
  | nil => rfl
  | cons newest added ih =>
    obtain ⟨seen, client⟩ := newest
    have rest := ih fun entry inside => all entry (List.mem_cons_of_mem _ inside)
    have shown := all _ List.mem_cons_self
    cases seen <;> first
      | exact absurd shown Bool.false_ne_true
      | exact rest

theorem owed_handOver (packet : Packet) (ready : ReadySync) :
    owed code (trace.handOver packet ready).history = owed code trace.history := by
  have shown := owed_shown code
    ((trace.update fun client => { client with syncState := .idle }).publishEvent_adds packet)
  unfold Trace.handOver
  split
  · exact shown
  · rfl

/-- A claimed ACK is no longer owed. -/
theorem owed_claimAck (ack : Ack) :
    owed code (trace.claimAck ack).history =
      if ack.code = code then none else owed code trace.history := by
  have shown := owed_shown code
    ((trace.update (Client.discardPendingAck ack.code)).publishEvent_adds (.ack ack))
  rw [Trace.update_history] at shown
  rw [← shown]
  rfl

/-- Only an ACK becomes owed by being read. -/
theorem owed_decode_of_other {parsed : Packet} (other : ∀ ack, parsed ≠ .ack ack) :
    owed code (trace.decode parsed).history = owed code trace.history := by
  cases parsed <;> first
    | rfl
    | exact absurd rfl (other _)

theorem owed_decode_ack (ack : Ack) :
    owed code (trace.decode (.ack ack)).history =
      if ack.code = code ∧ (trace.client.pendingAcks.map.lookup ack.code).isSome then
        some (ack, [])
      else owed code trace.history := rfl

end Owed

namespace Owes

variable {trace next : Trace}

/-- An act that owes nothing new and completes nothing. -/
theorem frame (owes : Owes trace)
    (same : ∀ code, owed code next.history = owed code trace.history)
    (completed : next.client.completedAcks = trace.client.completedAcks) : Owes next := by
  intro code ack newer owing
  rw [completed]
  exact owes code ack newer (same code ▸ owing)

/-- A client that has forgotten its ACKs owes nothing. -/
theorem of_clear (owes : Owes trace) (clear : trace.client.Clear)
    (same : ∀ code, owed code next.history = owed code trace.history) : Owes next := by
  intro code ack newer owing
  obtain ⟨found, -⟩ := owes code ack newer (same code ▸ owing)
  simp [clear.completed] at found

theorem discardCompletedAck (owes : Owes trace) {code : AckCode}
    (dropped : owed code next.history = none)
    (same : ∀ other, other ≠ code → owed other next.history = owed other trace.history)
    (completed : next.client.completedAcks = trace.client.completedAcks.discard code) :
    Owes next := by
  intro other ack newer owing
  by_cases equal : other = code
  · rw [equal, dropped] at owing
    cases owing
  · rw [completed]
    exact (owes other ack newer (same other equal ▸ owing)).discard equal

theorem trackSent (owes : Owes trace) (tracking : CommandTracking) :
    Owes (trace.trackSent tracking) :=
  owes.discardCompletedAck (if_pos rfl) (fun _ different => if_neg (Ne.symm different)) rfl

/-- The ACK of a pending code, once tracked, is held as the newest; any other held ACK that is
not evicted by it has one more behind it. -/
theorem trackAck {read : Trace} {ack : Ack} (owes : Owes trace) (tracked : trace.client.Tracked)
    (pending : read.client.pendingAcks = trace.client.pendingAcks)
    (completed : read.client.completedAcks = trace.client.completedAcks)
    (reading : ∀ code, owed code read.history = owed code (trace.decode (.ack ack)).history) :
    Owes (read.trackAck ack) := by
  cases found : trace.client.pendingAcks.map.lookup ack.code with
  | none =>
    rw [Trace.trackAck_of_unknown (by rw [pending, found])]
    refine owes.frame (fun code => ?_) completed
    rw [reading, owed_decode_ack]
    simp [found]
  | some tracking =>
    rw [Trace.trackAck_of_pending (by rw [pending, found])]
    intro code held newer owing
    simp only [Trace.note_client, Trace.update_client, Client.rememberCompletedAck,
      Client.discardPendingAck, completed]
    have recorded : owed code
        ((read.update fun client =>
          (client.discardPendingAck ack.code).rememberCompletedAck ack).note
            (.recorded ack)).history =
        if ack.code = code then owed code read.history
        else (owed code read.history).bind fun (owing, newer) =>
          let behind := (read.client.completedAcks.remember clientCompletedAckCapacity ack.code
            ack).behind newer ack.code
          if behind.length < clientCompletedAckCapacity then some (owing, behind) else none := rfl
    rw [recorded, reading, owed_decode_ack, completed] at owing
    by_cases same : ack.code = code
    · rw [if_pos same, if_pos ⟨same, by rw [found]; rfl⟩] at owing
      obtain ⟨rfl, rfl⟩ := Prod.mk.inj (Option.some.inj owing)
      rw [← same]
      exact FifoMap.held_remember_self ..
    · simp only [same, false_and, if_false, Option.bind_eq_some_iff] at owing
      obtain ⟨⟨owing, earlier⟩, before, kept⟩ := owing
      obtain ⟨few, equal⟩ := Option.ite_none_right_eq_some.mp kept
      obtain ⟨rfl, rfl⟩ := Prod.mk.inj (Option.some.inj equal)
      exact (owes code owing earlier before).remember (Ne.symm same) tracked.completed few

end Owes

/-! ## Where a completed ACK came from -/

def Observation.endsSession : Observation → Bool
  | .opened | .closed => true
  | _ => false

/-- This ACK was read in the session that the history ends in. -/
def ReceivedInSession (ack : Ack) : List Entry → Prop :=
  Since (fun entry => entry.seen = .decoded (.ack ack)) fun entry => entry.seen.endsSession = true

/-- The history stays in one session. -/
abbrev SameSession : List Entry → List Entry → Prop :=
  Adds fun entry => entry.seen.endsSession = false

variable {ack : Ack} {allowed : Client → Prop} {parsed : Packet}

theorem ReceivedInSession.later {earlier history : List Entry}
    (received : ReceivedInSession ack earlier) (same : SameSession earlier history) :
    ReceivedInSession ack history :=
  same.since (fun entry inside => by simp [inside]) received

section SameSession

variable (trace : Trace) (packet : Packet)

theorem retainSyncResponse_sameSession :
    SameSession trace.history (trace.retainSyncResponse packet).history :=
  (trace.retainSyncResponse_adds packet).mono fun ⟨seen, _⟩ shown => by
    cases seen <;> first | rfl | cases shown

theorem publishEvent_sameSession : SameSession trace.history (trace.publishEvent packet).history :=
  (trace.publishEvent_adds packet).mono fun ⟨seen, _⟩ shown => by
    cases seen <;> first | rfl | cases shown

theorem updateTracking_sameSession :
    SameSession trace.history (trace.updateTracking packet).history :=
  (trace.updateTracking_adds packet).mono fun ⟨seen, _⟩ tracking => by
    cases seen <;> first | rfl | cases tracking

theorem decode_sameSession : SameSession trace.history (trace.decode packet).history :=
  .cons rfl (.refl _)

theorem handOver_sameSession (ready : ReadySync) :
    SameSession trace.history (trace.handOver packet ready).history := by
  unfold Trace.handOver
  split
  · exact .cons rfl (publishEvent_sameSession _ packet)
  · exact .cons rfl (.refl _)

end SameSession

/-- An act stays in its session or leaves the client clear. -/
theorem act_sameSession {trace next : Trace} (act : Act allowed trace next) :
    SameSession trace.history next.history ∨ next.client.Clear := by
  cases act with
  | forgot called => exact .inr ⟨rfl, rfl, rfl, rfl⟩
  | established clear => exact .inr ⟨clear.1, clear.2, clear.3, clear.4⟩
  | closed => exact .inr trace.markDisconnected_clear
  | announced | wrote | synchronised | refused | unsendable | rejected | issued | abandoned =>
    exact .inl (.cons rfl (.refl _))
  | passed parsed connected =>
    exact .inl ((decode_sameSession ..).trans
      ((publishEvent_sameSession ..).trans (updateTracking_sameSession ..)))
  | surfaced parsed event connected shown =>
    exact .inl (.cons rfl ((decode_sameSession ..).trans
      ((retainSyncResponse_sameSession ..).trans (updateTracking_sameSession ..))))
  | swallowed parsed connected hidden =>
    exact .inl ((decode_sameSession ..).trans
      ((retainSyncResponse_sameSession ..).trans (updateTracking_sameSession ..)))
  | watched parsed connected other =>
    exact .inl ((decode_sameSession ..).trans (publishEvent_sameSession ..))
  | handed parsed ready connected answer =>
    exact .inl ((decode_sameSession ..).trans (handOver_sameSession ..))
  | accepted parsed connected idle plain => exact .inl (decode_sameSession ..)
  | claimed ack connected =>
    exact .inl (.cons rfl ((decode_sameSession ..).trans (publishEvent_sameSession ..)))
  | dismissed code connected => exact .inl (.cons rfl (decode_sameSession ..))
  | tookDeferred connected =>
    unfold Trace.takeDeferredSync
    split
    · exact .inl (.cons rfl (.refl _))
    · exact .inl (.refl _)
  | tookCompleted code connected =>
    cases found : trace.client.completedAcks.map.lookup code with
    | none =>
      rw [Trace.takeCompletedAck_of_missing found]
      exact .inl (.refl _)
    | some ack =>
      rw [Trace.takeCompletedAck_of_found found]
      exact .inl (.cons rfl (.refl _))

/-- Every completed ACK is filed under its own code and was received in this session. -/
def Remembers (trace : Trace) : Prop :=
  ∀ code ack, trace.client.completedAcks.map.lookup code = some ack →
    ack.code = code ∧ ReceivedInSession ack trace.history

/-- Tracking a packet completes at most the ACK that it is. -/
theorem lookup_updateTracking {trace : Trace} {packet : Packet} {code : AckCode}
    (found : (trace.updateTracking packet).client.completedAcks.map.lookup code = some ack) :
    trace.client.completedAcks.map.lookup code = some ack ∨
      (packet = .ack ack ∧ ack.code = code) := by
  unfold Trace.updateTracking at found
  split at found
  · exact .inl (FifoMap.lookup_of_discard found)
  · rename_i read
    cases pending : trace.client.pendingAcks.map.lookup read.code with
    | none =>
      rw [Trace.trackAck_of_unknown pending] at found
      exact .inl found
    | some tracking =>
      rw [Trace.trackAck_of_pending pending] at found
      rcases FifoMap.lookup_remember found with ⟨rfl, rfl⟩ | ⟨-, earlier⟩
      · exact .inr ⟨rfl, rfl⟩
      · exact .inl earlier
  · exact .inl found

/-- A packet that was read and then tracked. -/
theorem lookup_read {trace read : Trace} {code : AckCode}
    (shows : SameSession (trace.decode parsed).history read.history)
    (completed : read.client.completedAcks = trace.client.completedAcks)
    (found : (read.updateTracking (trace.number parsed)).client.completedAcks.map.lookup code =
      some ack) :
    trace.client.completedAcks.map.lookup code = some ack ∨
      (ack.code = code ∧
        ReceivedInSession ack (read.updateTracking (trace.number parsed)).history) := by
  rcases lookup_updateTracking found with earlier | ⟨same, filed⟩
  · exact .inl (completed ▸ earlier)
  · refine .inr ⟨filed, ?_⟩
    have decoded : ReceivedInSession ack (trace.decode parsed).history :=
      .inl (congrArg Observation.decoded same)
    exact (decoded.later shows).later (updateTracking_sameSession ..)

/-- Where the completed ACKs after an act come from. -/
theorem act_lookup {trace next : Trace} (act : Act allowed trace next) {code : AckCode}
    (found : next.client.completedAcks.map.lookup code = some ack) :
    trace.client.completedAcks.map.lookup code = some ack ∨
      (ack.code = code ∧ ReceivedInSession ack next.history) := by
  cases act with
  | forgot called => simp [Trace.forget, Client.clearTracking, Client.clearSyncTracking] at found
  | established | announced | wrote | synchronised | refused | unsendable | rejected =>
    exact .inl found
  | closed => simp [Client.clearTracking, Client.clearSyncTracking] at found
  | passed parsed connected =>
    exact lookup_read (publishEvent_sameSession ..) (by simp) found
  | surfaced parsed event connected shown =>
    rcases lookup_read (retainSyncResponse_sameSession ..) (by simp) found with earlier | new
    · exact .inl earlier
    · exact .inr ⟨new.1, new.2.later (.cons rfl (.refl _))⟩
  | swallowed parsed connected hidden =>
    exact lookup_read (retainSyncResponse_sameSession ..) (by simp) found
  | watched | handed | accepted | dismissed | tookDeferred => exact .inl (by simpa using found)
  | claimed ack connected =>
    rw [Trace.claimAck_client] at found
    exact .inl (by simpa [Client.discardPendingAck] using found)
  | tookCompleted other connected =>
    cases taken : trace.client.completedAcks.map.lookup other with
    | none =>
      rw [Trace.takeCompletedAck_of_missing taken] at found
      exact .inl found
    | some ack =>
      rw [Trace.takeCompletedAck_of_found taken] at found
      exact .inl (FifoMap.lookup_of_discard found)
  | issued | abandoned => exact .inl (FifoMap.lookup_of_discard found)

theorem act_remembers (trace next : Trace) (act : Act allowed trace next)
    (remembers : Remembers trace) : Remembers next := by
  intro code ack found
  rcases act_sameSession act with same | clear
  · rcases act_lookup act found with earlier | new
    · obtain ⟨filed, received⟩ := remembers code ack earlier
      exact ⟨filed, received.later same⟩
    · exact new
  · simp [clear.completed] at found

/-! ## The client holds what is owed -/

/-- A packet that was read and then tracked leaves the client holding what is owed. -/
theorem Owes.read {trace read : Trace} (owes : Owes trace) (tracked : trace.client.Tracked)
    (shows : ∀ code, owed code read.history = owed code (trace.decode parsed).history)
    (pending : read.client.pendingAcks = trace.client.pendingAcks)
    (completed : read.client.completedAcks = trace.client.completedAcks) :
    Owes (read.updateTracking (trace.number parsed)) := by
  by_cases acked : ∃ ack, parsed = .ack ack
  · obtain ⟨ack, rfl⟩ := acked
    exact owes.trackAck tracked pending completed shows
  · have other : ∀ ack, parsed ≠ .ack ack := fun ack same => acked ⟨ack, same⟩
    have unchanged : Owes read := owes.frame
      (fun code => (shows code).trans (owed_decode_of_other code trace other)) completed
    unfold Trace.updateTracking
    split
    · exact unchanged.trackSent _
    · rename_i ack same
      exact absurd (Trace.eq_of_number same rfl) (other ack)
    · exact unchanged

/-- The trackers agree, each completed ACK is of this session, and what is owed is held. -/
structure Settled (trace : Trace) : Prop where
  tracked : trace.client.Tracked
  remembers : Remembers trace
  owes : Owes trace

/-- A client that is connected only by `connect` on a client that is not connected holds
what is owed after every act. -/
theorem act_owes {trace next : Trace}
    (act : Act (fun client => client.connected = false) trace next)
    (settled : Settled trace) : Owes next := by
  obtain ⟨tracked, remembers, owes⟩ := settled
  cases act with
  | forgot called => exact owes.of_clear (tracked.closed called) fun _ => rfl
  | established | announced | wrote | synchronised | refused | unsendable | rejected | dismissed =>
    exact owes.frame (fun _ => rfl) rfl
  | closed =>
    intro code ack newer owing
    unfold Trace.markDisconnected at owing
    split at owing <;> cases owing
  | passed parsed connected =>
    exact owes.read tracked (fun code => owed_shown code (Trace.publishEvent_adds ..)) (by simp)
      (by simp)
  | surfaced parsed event connected shown =>
    exact (owes.read tracked (fun code => owed_shown code (Trace.retainSyncResponse_adds ..))
      (by simp) (by simp)).frame (fun _ => rfl) rfl
  | swallowed parsed connected hidden =>
    exact owes.read tracked (fun code => owed_shown code (Trace.retainSyncResponse_adds ..)) (by simp)
      (by simp)
  | watched parsed connected other =>
    exact owes.frame (fun code => (owed_shown code (Trace.publishEvent_adds ..)).trans
      (owed_decode_of_other code trace other)) (by simp)
  | handed parsed ready connected answer =>
    have other : ∀ ack, parsed ≠ .ack ack := by
      rintro ack rfl
      cases answer
    exact owes.frame (fun code => (owed_handOver ..).trans
      (owed_decode_of_other code trace other)) (by simp)
  | accepted parsed connected idle plain =>
    have other : ∀ ack, parsed ≠ .ack ack := by
      rintro ack rfl
      cases plain
    exact owes.frame (fun code => owed_decode_of_other code trace other) (by simp)
  | claimed ack connected =>
    have completed : ((trace.decode (.ack ack)).claimAck ack).client.completedAcks =
        trace.client.completedAcks := by
      rw [Trace.claimAck_client]
      simp [Client.discardPendingAck]
    intro code held newer owing
    by_cases same : ack.code = code
    · rw [owed_claimAck, if_pos same] at owing
      cases owing
    · rw [owed_claimAck, if_neg same, owed_decode_ack, if_neg (fun both => same both.1)] at owing
      rw [completed]
      exact owes code held newer owing
  | tookDeferred connected =>
    refine owes.frame (fun code => ?_) (by simp)
    unfold Trace.takeDeferredSync
    split <;> rfl
  | tookCompleted code connected =>
    cases found : trace.client.completedAcks.map.lookup code with
    | none => rwa [Trace.takeCompletedAck_of_missing found]
    | some ack =>
      rw [Trace.takeCompletedAck_of_found found]
      obtain ⟨rfl, -⟩ := remembers code ack found
      exact owes.discardCompletedAck (if_pos rfl) (fun _ different => if_neg (Ne.symm different))
        rfl
  | issued tracking connected => exact owes.trackSent tracking
  | abandoned code =>
    exact owes.discardCompletedAck (if_pos rfl) (fun _ different => if_neg (Ne.symm different)) rfl

theorem act_settled (trace next : Trace)
    (act : Act (fun client => client.connected = false) trace next)
    (settled : Settled trace) : Settled next :=
  ⟨Client.act_tracked trace next act settled.tracked,
    act_remembers trace next act settled.remembers, act_owes act settled⟩

/-! ## Waits -/

namespace Client

open Async

variable {τ ε : Type}

/-- Whatever a body says about the history, it says under a deadline. -/
theorem returns_timeout {α : Type} (property : α → List Entry → Prop) (duration : Duration)
    {body : ClientM τ ε α}
    (returns : Returns (fun _ => True) body fun value world => property value world.history) :
    Returns (fun _ => True) (timeout duration body) fun value world =>
      property value world.history :=
  fun world _ value ended => returns { world with deadline := true } trivial value ended

variable [Transport τ ε]

/-- A packet that was read stands in the history as decoded. -/
theorem returns_readNextPacket {before : World τ ε → Prop} :
    Returns before (readNextPacket : ClientM τ ε Packet)
      (fun packet world => ∃ trace parsed, world.trace = Trace.decode parsed trace ∧
        trace.number parsed = packet) := by
  refine returns_then ?_
  rintro (error | _ | raw)
  · exact returns_then fun _ => returns_fail _
  · exact returns_then fun _ => returns_fail _
  · intro world _ packet ended
    simp only [parsePacket, Trace.parsePacket] at ended ⊢
    cases parsed : Packet.parse raw with
    | ok found =>
      simp only [parsed, Exit.done.injEq] at ended
      exact ⟨world.trace, found, rfl, ended⟩
    | error fault => cases fault <;> simp [parsed] at ended

omit [Transport τ ε] in
theorem returns_claimAck (ack : Ack) :
    Returns (fun world => ∃ trace parsed, world.trace = Trace.decode parsed trace ∧
        trace.number parsed = .ack ack)
      (locally (Trace.claimAck ack) : ClientM τ ε Unit)
      (fun _ world => ReceivedInSession ack world.history) := by
  rintro world ⟨trace, parsed, same, numbered⟩ _ _
  have decoded : ReceivedInSession ack world.history := by
    rw [World.history, same]
    exact .inl (congrArg Observation.decoded numbered)
  exact (decoded.later (publishEvent_sameSession
    (world.trace.update (Client.discardPendingAck ack.code)) (.ack ack))).later
      (.cons rfl (.refl _))

omit [Transport τ ε] in
theorem returns_settleWait {property : Ack → World τ ε → Prop} (code : AckCode)
    (result : Except CoreError Ack) :
    Returns (fun world => ∀ ack, result = .ok ack → property ack world) (settleWait code result)
      property := by
  cases result with
  | ok ack => exact returns_pure ack fun _ holds => holds ack rfl
  | error error => exact returns_then fun _ => returns_fail error

/-- What a wait for this code promises of the ACK it returns. -/
def Answers (code : AckCode) (ack : Ack) (history : List Entry) : Prop :=
  ack.code = code ∧ ReceivedInSession ack history

theorem returns_awaitAck (code : AckCode) :
    Returns (fun _ => True) (awaitAck code : ClientM τ ε Ack)
      (fun ack world => Answers code ack world.history) := by
  refine returns_loop World.remaining (fun _ => ?_) ()
  refine returns_bind returns_readNextPacket fun packet => ?_
  split
  · rename_i ack
    split
    · rename_i same
      refine returns_bind (returns_claimAck ack) fun _ => ?_
      exact returns_pure _ fun _ received => ⟨same, received⟩
    · exact returns_then fun _ => returns_then fun _ => returns_pure _ fun _ _ => trivial
  · exact returns_then fun _ => returns_fail _
  · exact returns_then fun _ => returns_pure _ fun _ _ => trivial

variable {world : World τ ε} {limit : Option Duration} {ack : Ack}

/-- A completed ACK is returned at once. -/
theorem waitForAck_of_completed {code : AckCode}
    (valid : limit.elim (.ok ()) validateOperationTimeout = .ok ())
    (connected : world.trace.client.connected = true)
    (found : world.trace.client.completedAcks.map.lookup code = some ack) :
    waitForAck code limit world =
      (.done ack, { world with
        trace := (world.trace.update (Client.discardCompletedAck code)).note (.claimed ack) }) := by
  have taken : (world.trace.client.takeCompletedAck code).1 = some ack := by
    simp [Client.takeCompletedAck, FifoMap.take_of_lookup found]
  simp [waitForAck, valid, ensureConnected, World.client, connected, self, taken,
    locally, Trace.takeCompletedAck_of_found found]

/-- Without a completed ACK, the wait is its loop. -/
theorem waitForAck_of_missing {code : AckCode}
    (valid : limit.elim (.ok ()) validateOperationTimeout = .ok ())
    (connected : world.trace.client.connected = true)
    (missing : world.trace.client.completedAcks.map.lookup code = none) :
    waitForAck code limit world =
      (attempt (timeout (limit.getD world.trace.client.requestTimeout) (awaitAck code)) >>=
        settleWait code) world := by
  have taken : (world.trace.client.takeCompletedAck code).1 = none := by
    simp [Client.takeCompletedAck, FifoMap.take_of_not_found missing]
  simp [waitForAck, valid, ensureConnected, World.client, connected, self, taken,
    locally, Trace.takeCompletedAck_of_missing missing]

/-- A wait returns nothing unless its timeout is valid and the client is connected. -/
theorem waitForAck_returns {code : AckCode} (ended : (waitForAck code limit world).1 = .done ack) :
    limit.elim (.ok ()) validateOperationTimeout = .ok () ∧
      world.trace.client.connected = true := by
  cases valid : limit.elim (.ok ()) validateOperationTimeout with
  | error error => simp [waitForAck, valid] at ended
  | ok _ =>
    refine ⟨rfl, ?_⟩
    by_contra disconnected
    simp [waitForAck, valid, ensureConnected, World.client, disconnected] at ended

/-- A returned ACK has the code that was waited for and was received in this session. -/
theorem returns_waitForAck (code : AckCode) (limit : Option Duration) :
    Returns (fun world : World τ ε => Remembers world.trace) (waitForAck code limit)
      (fun ack world => Answers code ack world.history) := by
  intro world remembers ack ended
  obtain ⟨valid, connected⟩ := waitForAck_returns ended
  cases found : world.trace.client.completedAcks.map.lookup code with
  | some kept =>
    rw [waitForAck_of_completed valid connected found] at ended ⊢
    cases ended
    obtain ⟨filed, received⟩ := remembers code ack found
    exact ⟨filed, received.later (.cons rfl (.refl _))⟩
  | none =>
    rw [waitForAck_of_missing valid connected found] at ended ⊢
    exact returns_bind (returns_attempt (returns_timeout (Answers code) _ (returns_awaitAck code)))
      (fun result => returns_settleWait code result) world trivial ack ended

end Client

/-- A client that holds what is owed returns it at once and once only. -/
theorem Settled.waitForAck {τ ε : Type} [Transport τ ε] {world : World τ ε}
    (settled : Settled world.trace) {code : AckCode} {limit : Option Duration}
    {newer : List AckCode} (owing : owed code world.history = some (ack, newer))
    (valid : limit.elim (.ok ()) Client.validateOperationTimeout = .ok ()) :
    ∃ trace : Trace, Client.waitForAck code limit world = (.done ack, { world with trace }) ∧
      trace.history = ⟨.claimed ack, trace.client⟩ :: world.history ∧
      trace.client.completedAcks.map.lookup code = none ∧
      trace.client.pendingAcks.map.lookup code = none := by
  obtain ⟨found, -⟩ := settled.owes code ack newer owing
  have connected : world.trace.client.connected = true := by
    by_contra disconnected
    have clear := settled.tracked.closed (Bool.eq_false_iff.mpr disconnected)
    simp [clear.completed] at found
  refine ⟨_, Client.waitForAck_of_completed valid connected found, rfl,
    FifoMap.lookup_discard_self .., ?_⟩
  refine Finmap.lookup_eq_none.mpr fun pending => ?_
  exact settled.tracked.disjoint code pending (Finmap.mem_iff.mpr ⟨ack, found⟩)

theorem settled_initial {τ ε : Type} (transport : τ) (requestTimeout : Duration) :
    Settled (World.initial transport requestTimeout : World τ ε).trace where
  tracked := Client.tracked_of_clear ⟨rfl, rfl, rfl, rfl⟩
  remembers code ack found := by simp [World.initial] at found
  owes code ack newer owing := by cases owing

/-- An ACK that is read while its code is pending is returned by the next wait for the
code, at once and once only, unless it was claimed, evicted, issued again, abandoned or the
session closed; and a wait returns only ACKs of its code that this session received. -/
theorem World.run_ack_delivered {τ ε : Type} [Transport τ ε] (transport : τ)
    (requestTimeout : Duration) (invocations : List (Invocation ε))
    (connects : (World.initial transport requestTimeout).ConnectsOn
      (fun client => client.connected = false) invocations) (code : AckCode)
    (limit : Option Duration) (turns : List (Turn ε)) :
    let world := ((World.initial transport requestTimeout).run invocations).granted turns
    (∀ ack newer, owed code world.history = some (ack, newer) →
      limit.elim (.ok ()) Client.validateOperationTimeout = .ok () →
      ∃ trace : Trace, Client.waitForAck code limit world = (.done ack, { world with trace }) ∧
        trace.history = ⟨.claimed ack, trace.client⟩ :: world.history ∧
        trace.client.completedAcks.map.lookup code = none ∧
        trace.client.pendingAcks.map.lookup code = none) ∧
    (∀ ack, (Client.waitForAck code limit world).1 = .done ack →
      ack.code = code ∧ ReceivedInSession ack (Client.waitForAck code limit world).2.history) := by
  intro world
  have settled : Settled world.trace :=
    World.run_keeps connects act_settled (settled_initial transport requestTimeout)
  exact ⟨fun _ _ owing valid => settled.waitForAck owing valid,
    Client.returns_waitForAck code limit world settled.remembers⟩

/-- A session in which a send is accepted with this code and its ACK is read while idle. -/
def ackedSession : List (Invocation StreamIo) :=
  [opening,
    exchange (.sendDirectText 0 [1, 2, 3, 4, 5, 6] 0 "a") [0x06, 0, 1, 2, 3, 4, 0, 0, 0, 0],
    { request := .nextEvent, turns := [{ io := .receiving [0x82, 1, 2, 3, 4] }] }]

theorem World.acked_session_delivers :
    let world := ((World.initial tcpTransport 5000000000).run ackedSession).granted []
    ∃ trace : Trace,
      Client.waitForAck ⟨[1, 2, 3, 4], rfl⟩ none world =
        (.done { code := ⟨[1, 2, 3, 4], rfl⟩, tripTimeMs := none }, { world with trace }) := by
  obtain ⟨trace, returned, -⟩ := (World.run_ack_delivered tcpTransport 5000000000 ackedSession
    (by decide +kernel) ⟨[1, 2, 3, 4], rfl⟩ none []).1
    { code := ⟨[1, 2, 3, 4], rfl⟩, tripTimeMs := none } [] (by decide +kernel) rfl
  exact ⟨trace, returned⟩

/-- After a rejected connect the session goes on, but its completed ACK is forgotten: the
next wait does not return it and asks the transport instead. -/
theorem World.acked_session_forgets :
    let world := ((World.initial tcpTransport 5000000000).run
      (ackedSession ++ [{ request := .connect, turns := [{ io := {} }] }])).granted []
    world.client.connected = true ∧ world.transport.stream = true ∧
      owed ⟨[1, 2, 3, 4], rfl⟩ world.history =
        some ({ code := ⟨[1, 2, 3, 4], rfl⟩, tripTimeMs := none }, []) ∧
      (Client.waitForAck ⟨[1, 2, 3, 4], rfl⟩ none world).1 = .dropped := by
  decide +kernel

end Meshquill
