import Meshquill.Channel
import Meshquill.Domain
import Meshquill.OrderedMap
import Mathlib.Data.List.Induction

/-!
# The event hub of a Python client

`EventHub` relays the events of the core client to any number of streams. Every publication gets
the next sequence number. Two bounded buffers are kept for replay: the initial one takes records
until the first `connected` event, the recent one always. A subscription is a snapshot of both,
merged by sequence number, and a live receiver registered under the same lock.

Sequence numbers and counts are `u64` in the source and saturate; here they are natural numbers.
So what is said about a hub holds for its first 2^64 publications, while no number repeats.
A subscription only reads the hub, and receivers do not affect one another, so a run shows the
publications and the reads of one stream.
-/
namespace Meshquill.Python

open Broadcast

def eventReplayCapacity : Nat := 256

def eventLiveCapacity : Nat := 256

/-- What is published: an event, or the number of events the relay itself has lost. -/
inductive HubItem where
  | event (event : Event)
  | lagged (skipped : Nat)

/-- The item ends the initial buffer. -/
def HubItem.completesInitial : HubItem → Bool
  | .event .connected => true
  | _ => false

structure HubRecord where
  sequence : Nat
  item : HubItem

structure HubState where
  nextSequence : Nat := 0
  capturingInitial : Bool := true
  initialDropped : Nat := 0
  initial : List HubRecord := []
  recent : List HubRecord := []

namespace HubState

/-- The initial buffer takes the record while it is open; a full one drops its oldest record and
counts it. -/
def capture (state : HubState) (record : HubRecord) : HubState :=
  if state.capturingInitial then
    if state.initial.length = eventReplayCapacity then
      { state with
        initial := state.initial.tail ++ [record]
        initialDropped := state.initialDropped + 1 }
    else { state with initial := state.initial ++ [record] }
  else state

/-- The recent buffer takes the record; a full one drops its oldest record. -/
def retain (state : HubState) (record : HubRecord) : HubState :=
  if state.recent.length = eventReplayCapacity then
    { state with recent := state.recent.tail ++ [record] }
  else { state with recent := state.recent ++ [record] }

def record (state : HubState) (item : HubItem) : HubRecord × HubState :=
  let record : HubRecord := ⟨state.nextSequence, item⟩
  let numbered := { state with nextSequence := state.nextSequence + 1 }
  let kept := (numbered.capture record).retain record
  (record, if item.completesInitial then { kept with capturingInitial := false } else kept)

/-- Both buffers in the order of the sequence numbers; the map keeps one record of each. -/
def snapshot (state : HubState) : List HubRecord :=
  let records := (state.initial ++ state.recent).foldl
    (fun records record => records.insert record.sequence record) OrderedMap.empty
  records.entries.map Prod.snd

/-- The hub after a sequence of publications. -/
def publishAll (published : List HubItem) : HubState :=
  published.foldl (fun state item => (state.record item).2) {}

end HubState

structure EventSubscription where
  initialLag : Option Nat
  replay : List HubRecord
  receiver : Receiver eventLiveCapacity HubRecord

def HubState.subscribe (state : HubState) : EventSubscription where
  initialLag := if 0 < state.initialDropped then some state.initialDropped else none
  replay := state.snapshot
  receiver := .fresh

inductive HubReceiveError where
  | lagged (skipped : Nat)
  | closed

def HubRecord.intoEvent (record : HubRecord) : Except HubReceiveError Event :=
  match record.item with
  | .event event => .ok event
  | .lagged skipped => .error (.lagged skipped)

namespace EventSubscription

/-- What the next read takes: the initial lag, then the replay, then the live records. There is
no result while the stream waits for a record. -/
def take (subscription : EventSubscription) :
    Option (Broadcast.Received HubRecord × EventSubscription) :=
  match subscription.initialLag with
  | some skipped => some (.lagged skipped, { subscription with initialLag := none })
  | none =>
    match subscription.replay with
    | record :: rest => some (.value record, { subscription with replay := rest })
    | [] =>
      match subscription.receiver.recv with
      | some (received, receiver) => some (received, { subscription with receiver })
      | none => none

/-- What a read of the stream returns for what it took. -/
def deliver : Broadcast.Received HubRecord → Except HubReceiveError Event
  | .value record => record.intoEvent
  | .lagged skipped => .error (.lagged skipped)
  | .closed => .error .closed

def recv (subscription : EventSubscription) :
    Option (Except HubReceiveError Event × EventSubscription) :=
  match subscription.take with
  | some (received, rest) => some (deliver received, rest)
  | none => none

end EventSubscription

/-! ## Runs of a stream -/

/-- What can happen to a stream: the hub publishes, the stream is read, the hub is dropped. -/
inductive Action where
  | publish (item : HubItem)
  | receive
  | drop

/-- The items published by the actions. -/
def publications : List Action → List HubItem
  | [] => []
  | .publish item :: rest => item :: publications rest
  | .receive :: rest => publications rest
  | .drop :: rest => publications rest

/-- What the reads of a stream give in the course of the actions, in their order. -/
def reads {β : Type} (read : EventSubscription → Option (β × EventSubscription)) (state : HubState)
    (subscription : EventSubscription) : List Action → List β
  | [] => []
  | .publish item :: rest =>
    reads read (state.record item).2
      { subscription with receiver := subscription.receiver.send (state.record item).1 } rest
  | .receive :: rest =>
    match read subscription with
    | some (result, next) => result :: reads read state next rest
    | none => reads read state subscription rest
  | .drop :: rest =>
    reads read state { subscription with receiver := subscription.receiver.hangUp } rest

/-- What a stream takes. -/
abbrev receipts :
    HubState → EventSubscription → List Action → List (Broadcast.Received HubRecord) :=
  reads EventSubscription.take

/-- What a stream returns. -/
abbrev results : HubState → EventSubscription → List Action → List (Except HubReceiveError Event) :=
  reads EventSubscription.recv

theorem results_eq (state : HubState) (subscription : EventSubscription) (actions : List Action) :
    results state subscription actions =
      (receipts state subscription actions).map EventSubscription.deliver := by
  induction actions generalizing state subscription with
  | nil => rfl
  | cons action rest ih =>
    cases action with
    | publish | drop => exact ih ..
    | receive =>
      simp only [results, receipts, reads, EventSubscription.recv]
      rcases subscription.take with _ | ⟨received, next⟩
      · exact ih ..
      · exact congrArg _ (ih ..)

/-! ## What the hub keeps -/

/-- The records of a sequence of publications. -/
def recordsOf (published : List HubItem) : List HubRecord :=
  published.mapIdx fun sequence item => ⟨sequence, item⟩

/-- The publications up to and including the first `connected` event. -/
def initialPart : List HubItem → List HubItem
  | [] => []
  | item :: rest => if item.completesInitial then [item] else item :: initialPart rest

section Records

variable {published : List HubItem} {record : HubRecord}

theorem length_recordsOf (published : List HubItem) :
    (recordsOf published).length = published.length := List.length_mapIdx

theorem recordsOf_concat (published : List HubItem) (item : HubItem) :
    recordsOf (published ++ [item]) = recordsOf published ++ [⟨published.length, item⟩] := by
  simp [recordsOf, List.mapIdx_append]

/-- Later publications leave the records as they are. -/
theorem recordsOf_append (published later : List HubItem) :
    ∃ more, recordsOf (published ++ later) = recordsOf published ++ more :=
  ⟨_, List.mapIdx_append⟩

theorem mem_recordsOf :
    record ∈ recordsOf published ↔ published[record.sequence]? = some record.item := by
  constructor
  · intro inside
    obtain ⟨position, _, rfl⟩ := List.mem_mapIdx.mp inside
    exact List.getElem?_eq_getElem _
  · intro here
    obtain ⟨inside, found⟩ := List.getElem?_eq_some_iff.mp here
    refine List.mem_mapIdx.mpr ⟨record.sequence, inside, ?_⟩
    rw [found]

theorem sequence_of_getElem? {position : Nat}
    (here : (recordsOf published)[position]? = some record) : record.sequence = position := by
  rw [recordsOf, List.getElem?_mapIdx] at here
  obtain ⟨item, _, rfl⟩ := Option.map_eq_some_iff.mp here
  rfl

/-- Dropping records drops those with the lowest numbers. -/
theorem mem_drop_recordsOf {count : Nat} :
    record ∈ (recordsOf published).drop count ↔
      record ∈ recordsOf published ∧ count ≤ record.sequence := by
  constructor
  · intro inside
    obtain ⟨offset, found⟩ := List.mem_iff_getElem?.mp inside
    rw [List.getElem?_drop] at found
    refine ⟨List.mem_of_mem_drop inside, ?_⟩
    rw [sequence_of_getElem? found]
    exact Nat.le_add_right _ _
  · rintro ⟨inside, late⟩
    obtain ⟨position, found⟩ := List.mem_iff_getElem?.mp inside
    obtain rfl := sequence_of_getElem? found
    have here : ((recordsOf published).drop count)[record.sequence - count]? = some record := by
      rw [List.getElem?_drop, Nat.add_sub_cancel' late, found]
    exact List.mem_of_getElem? here

/-- A number belongs to one record. -/
theorem eq_of_sequence {other : HubRecord} (first : record ∈ recordsOf published)
    (second : other ∈ recordsOf published) (same : record.sequence = other.sequence) :
    record = other := by
  rw [mem_recordsOf] at first second
  rw [same, second] at first
  obtain ⟨sequence, item⟩ := record
  obtain ⟨otherSequence, otherItem⟩ := other
  cases same
  cases first
  rfl

end Records

theorem initialPart_concat_of_open {published : List HubItem}
    (opened : published.any HubItem.completesInitial = false) (item : HubItem) :
    initialPart (published ++ [item]) = published ++ [item] := by
  induction published with
  | nil => cases closes : item.completesInitial <;> simp [initialPart, closes]
  | cons first rest ih =>
    rw [List.any_cons, Bool.or_eq_false_iff] at opened
    rw [List.cons_append, initialPart, opened.1, ih opened.2]
    rfl

theorem initialPart_of_open {published : List HubItem}
    (opened : published.any HubItem.completesInitial = false) :
    initialPart published = published := by
  induction published with
  | nil => rfl
  | cons first rest ih =>
    rw [List.any_cons, Bool.or_eq_false_iff] at opened
    rw [initialPart, opened.1, ih opened.2]
    rfl

theorem initialPart_concat_of_closed {published : List HubItem}
    (closed : published.any HubItem.completesInitial = true) (item : HubItem) :
    initialPart (published ++ [item]) = initialPart published := by
  induction published with
  | nil => cases closed
  | cons first rest ih =>
    rw [List.cons_append, initialPart, initialPart]
    cases closes : first.completesInitial with
    | true => rfl
    | false =>
      rw [List.any_cons, closes, Bool.false_or] at closed
      rw [ih closed]

theorem initialPart_isPrefix (published : List HubItem) : initialPart published <+: published := by
  induction published with
  | nil => exact List.prefix_refl _
  | cons first rest ih =>
    rw [initialPart]
    split
    · exact ⟨rest, rfl⟩
    · exact List.cons_prefix_cons.mpr ⟨rfl, ih⟩

/-- The hub that has seen these publications. -/
structure Recorded (published : List HubItem) (state : HubState) : Prop where
  nextSequence : state.nextSequence = published.length
  capturingInitial : state.capturingInitial = !published.any HubItem.completesInitial
  initial : state.initial = newest eventReplayCapacity (recordsOf (initialPart published))
  initialDropped : state.initialDropped = (initialPart published).length - eventReplayCapacity
  recent : state.recent = newest eventReplayCapacity (recordsOf published)

section Recording

variable {published : List HubItem} {state : HubState}

/-- The initial buffer and its count follow the initial part. -/
theorem capture_initial (state : HubState)
    (capturing : state.capturingInitial = !published.any HubItem.completesInitial)
    (initial : state.initial = newest eventReplayCapacity (recordsOf (initialPart published)))
    (dropped : state.initialDropped = (initialPart published).length - eventReplayCapacity)
    (item : HubItem) :
    (state.capture ⟨published.length, item⟩).initial =
        newest eventReplayCapacity (recordsOf (initialPart (published ++ [item]))) ∧
      (state.capture ⟨published.length, item⟩).initialDropped =
        (initialPart (published ++ [item])).length - eventReplayCapacity := by
  cases closed : published.any HubItem.completesInitial with
  | false =>
    rw [closed, Bool.not_false] at capturing
    rw [initialPart_of_open closed] at initial dropped
    have length : state.initial.length =
        published.length - (published.length - eventReplayCapacity) := by
      rw [initial, newest, List.length_drop, length_recordsOf]
    rw [initialPart_concat_of_open closed, recordsOf_concat,
      newest_concat (by decide : 0 < eventReplayCapacity), ← initial, HubState.capture,
      if_pos capturing, List.length_append, List.length_singleton]
    split
    case isTrue full =>
      refine ⟨rfl, ?_⟩
      change state.initialDropped + 1 = _
      omega
    case isFalse room =>
      refine ⟨rfl, ?_⟩
      change state.initialDropped = _
      omega
  | true =>
    rw [closed, Bool.not_true] at capturing
    rw [initialPart_concat_of_closed closed, HubState.capture, capturing]
    exact ⟨initial, dropped⟩

@[simp] theorem capture_recent (record : HubRecord) : (state.capture record).recent = state.recent := by
  rw [HubState.capture]
  split_ifs <;> rfl

@[simp] theorem capture_capturingInitial (record : HubRecord) :
    (state.capture record).capturingInitial = state.capturingInitial := by
  rw [HubState.capture]
  split_ifs <;> rfl

@[simp] theorem capture_nextSequence (record : HubRecord) :
    (state.capture record).nextSequence = state.nextSequence := by
  rw [HubState.capture]
  split_ifs <;> rfl

/-- Only the recent buffer changes, and it keeps the newest records. -/
theorem retain_eq (recent : state.recent = newest eventReplayCapacity (recordsOf published))
    (item : HubItem) :
    state.retain ⟨published.length, item⟩ =
      { state with recent := newest eventReplayCapacity (recordsOf (published ++ [item])) } := by
  rw [recordsOf_concat, newest_concat (by decide : 0 < eventReplayCapacity), ← recent,
    HubState.retain]
  split <;> rfl

/-- A record has the number of items published before it. -/
theorem record_numbered (recorded : Recorded published state) (item : HubItem) :
    (state.record item).1 = ⟨published.length, item⟩ := by
  rw [HubState.record, recorded.nextSequence]

/-- One more publication. -/
theorem Recorded.record (recorded : Recorded published state) (item : HubItem) :
    Recorded (published ++ [item]) (state.record item).2 := by
  let numbered : HubState := { state with nextSequence := state.nextSequence + 1 }
  obtain ⟨initial, dropped⟩ := capture_initial numbered recorded.capturingInitial
    recorded.initial recorded.initialDropped item
  have recent : (numbered.capture ⟨published.length, item⟩).recent =
      newest eventReplayCapacity (recordsOf published) := by
    rw [capture_recent]
    exact recorded.recent
  have next : state.nextSequence + 1 = (published ++ [item]).length := by
    rw [recorded.nextSequence, List.length_append, List.length_singleton]
  let kept := (numbered.capture ⟨published.length, item⟩).retain ⟨published.length, item⟩
  have recording : (state.record item).2 =
      if item.completesInitial then { kept with capturingInitial := false } else kept := by
    rw [HubState.record]
    dsimp only [kept]
    rw [← recorded.nextSequence]
  rw [recording]
  dsimp only [kept]
  rw [retain_eq recent]
  have counted : (numbered.capture ⟨published.length, item⟩).nextSequence =
      (published ++ [item]).length := by
    rw [capture_nextSequence, ← next]
  cases closes : item.completesInitial with
  | true =>
    rw [if_pos rfl]
    exact {
      nextSequence := counted
      capturingInitial := by rw [List.any_append]; simp [closes]
      initial := initial
      initialDropped := dropped
      recent := by dsimp only }
  | false =>
    rw [if_neg Bool.false_ne_true]
    exact {
      nextSequence := counted
      capturingInitial := by
        rw [List.any_append]
        simpa [closes] using recorded.capturingInitial
      initial := initial
      initialDropped := dropped
      recent := by dsimp only }

theorem recorded_publishAll (published : List HubItem) :
    Recorded published (HubState.publishAll published) := by
  induction published using List.reverseRecOn with
  | nil => exact ⟨rfl, rfl, rfl, rfl, rfl⟩
  | append_singleton earlier item ih =>
    rw [HubState.publishAll, List.foldl_append]
    exact ih.record item

end Recording

end Meshquill.Python
