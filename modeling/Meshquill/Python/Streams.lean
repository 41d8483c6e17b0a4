import Meshquill.Python.Hub
import Mathlib.Data.List.Sort

/-!
# What a Python stream delivers

The replay of a subscription is the union of the two buffers, in the order of publication, and
its live receiver starts where the replay ends. So what a stream delivers after its replay is
accounted for: each record is the next one published, except for those reported as lost.

The replay itself has a hole when more records than the recent buffer holds were published after
the first `connected` event. The initial buffer counts what it drops; nothing counts the records
between the two buffers.
-/
namespace Meshquill.Python

open Broadcast HubState

/-! ## The replay -/

section Merged

/-- The map holds these records under their numbers. -/
def Indexes (records : List HubRecord) (map : OrderedMap Nat HubRecord) : Prop :=
  ∀ key record, map.get? key = some record ↔ record ∈ records ∧ record.sequence = key

/-- A number belongs to one of these records. -/
def Agreeing (records : List HubRecord) : Prop :=
  ∀ first ∈ records, ∀ second ∈ records, first.sequence = second.sequence → first = second

variable {records : List HubRecord} {map : OrderedMap Nat HubRecord}

theorem Indexes.insert {record : HubRecord} (indexes : Indexes records map)
    (agreeing : Agreeing (records ++ [record])) :
    Indexes (records ++ [record]) (map.insert record.sequence record) := by
  intro key other
  rw [OrderedMap.get?_insert, List.mem_append, List.mem_singleton]
  split
  case isTrue here =>
    constructor
    · intro found
      obtain rfl := Option.some.inj found
      exact ⟨.inr rfl, here.symm⟩
    · rintro ⟨inside, same⟩
      have listed : other ∈ records ++ [record] :=
        List.mem_append.mpr (inside.imp_right List.mem_singleton.mpr)
      have last : record ∈ records ++ [record] :=
        List.mem_append_right _ (List.mem_singleton_self record)
      exact congrArg some (agreeing record last other listed (here.symm.trans same.symm))
  case isFalse elsewhere =>
    rw [indexes key other]
    constructor
    · exact fun found => ⟨.inl found.1, found.2⟩
    · rintro ⟨inside | rfl, same⟩
      · exact ⟨inside, same⟩
      · exact absurd same.symm elsewhere

theorem indexes_foldl (agreeing : Agreeing records) :
    Indexes records (records.foldl
      (fun merged record => merged.insert record.sequence record) OrderedMap.empty) := by
  induction records using List.reverseRecOn with
  | nil =>
    intro key record
    rw [List.foldl_nil, OrderedMap.get?_empty]
    simp
  | append_singleton earlier record ih =>
    have subset : ∀ other ∈ earlier, other ∈ earlier ++ [record] :=
      fun other inside => List.mem_append_left _ inside
    rw [List.foldl_append]
    refine Indexes.insert (ih fun first inside second within => ?_) agreeing
    exact agreeing first (subset first inside) second (subset second within)

theorem Indexes.mem_values (indexes : Indexes records map) (record : HubRecord) :
    record ∈ map.entries.map Prod.snd ↔ record ∈ records := by
  constructor
  · intro inside
    obtain ⟨entry, listed, rfl⟩ := List.mem_map.mp inside
    exact ((indexes entry.1 entry.2).mp (OrderedMap.get?_eq_some_iff.mpr listed)).1
  · intro inside
    have found := (indexes record.sequence record).mpr ⟨inside, rfl⟩
    exact List.mem_map.mpr ⟨_, OrderedMap.get?_eq_some_iff.mp found, rfl⟩

theorem Indexes.sorted_values (indexes : Indexes records map) :
    (map.entries.map Prod.snd).Pairwise fun first second => first.sequence < second.sequence := by
  have numbered : ∀ entry ∈ map.entries, entry.2.sequence = entry.1 := fun entry listed =>
    ((indexes entry.1 entry.2).mp (OrderedMap.get?_eq_some_iff.mpr listed)).2
  refine List.pairwise_map.mpr (map.sorted.imp_of_mem fun inside within less => ?_)
  rw [numbered _ inside, numbered _ within]
  exact less

end Merged

section Replay

variable (published : List HubItem)

/-- The records of the initial part are the first ones. -/
theorem mem_recordsOf_initialPart {published : List HubItem} {record : HubRecord} :
    record ∈ recordsOf (initialPart published) ↔
      record ∈ recordsOf published ∧ record.sequence < (initialPart published).length := by
  obtain ⟨later, split⟩ := initialPart_isPrefix published
  generalize initialPart published = part at split ⊢
  subst split
  rw [mem_recordsOf, mem_recordsOf]
  constructor
  · intro here
    have inside := (List.getElem?_eq_some_iff.mp here).1
    exact ⟨by rw [List.getElem?_append_left inside, here], inside⟩
  · rintro ⟨here, inside⟩
    rwa [List.getElem?_append_left inside] at here

theorem agreeing_buffers :
    Agreeing ((publishAll published).initial ++ (publishAll published).recent) := by
  have recorded := recorded_publishAll published
  have listed : ∀ record ∈ (publishAll published).initial ++
      (publishAll published).recent, record ∈ recordsOf published := by
    intro record inside
    rw [recorded.initial, recorded.recent] at inside
    rcases List.mem_append.mp inside with early | late
    · exact (mem_recordsOf_initialPart.mp (mem_of_mem_newest early)).1
    · exact mem_of_mem_newest late
  exact fun first inside second within same =>
    eq_of_sequence (listed first inside) (listed second within) same

/-- The replay has the records of the two buffers. -/
theorem mem_replay (record : HubRecord) :
    record ∈ (publishAll published).subscribe.replay ↔
      record ∈ newest eventReplayCapacity (recordsOf (initialPart published)) ∨
        record ∈ newest eventReplayCapacity (recordsOf published) := by
  have recorded := recorded_publishAll published
  rw [← recorded.initial, ← recorded.recent, ← List.mem_append]
  exact (indexes_foldl (agreeing_buffers published)).mem_values record

/-- The replay is in the order of publication. -/
theorem sorted_replay :
    (publishAll published).subscribe.replay.Pairwise
      fun first second => first.sequence < second.sequence :=
  (indexes_foldl (agreeing_buffers published)).sorted_values

end Replay

/-! ## Runs -/

namespace EventSubscription

/-- What a subscription delivers before it reads its receiver. -/
def backlog (subscription : EventSubscription) : List (Broadcast.Received HubRecord) :=
  (subscription.initialLag.map .lagged).toList ++ subscription.replay.map .value

variable {subscription : EventSubscription}

/-- A read takes the front of the backlog. -/
theorem take_of_backlog {head : Broadcast.Received HubRecord}
    {rest : List (Broadcast.Received HubRecord)}
    (waiting : subscription.backlog = head :: rest) :
    ∃ next, subscription.take = some (head, next) ∧ next.backlog = rest ∧
      next.receiver = subscription.receiver := by
  obtain ⟨initialLag, replay, receiver⟩ := subscription
  cases initialLag with
  | some skipped =>
    obtain ⟨rfl, rfl⟩ := List.cons.inj waiting
    exact ⟨_, rfl, rfl, rfl⟩
  | none =>
    cases replay with
    | nil => cases waiting
    | cons record others =>
      obtain ⟨rfl, rfl⟩ := List.cons.inj waiting
      exact ⟨_, rfl, rfl, rfl⟩

/-- Without a backlog a read is a read of the receiver. -/
theorem take_of_no_backlog (empty : subscription.backlog = []) :
    subscription.take = subscription.receiver.recv.map fun result =>
      (result.1, { subscription with receiver := result.2 }) := by
  obtain ⟨initialLag, replay, receiver⟩ := subscription
  cases initialLag with
  | some skipped => cases empty
  | none =>
    cases replay with
    | cons record others => cases empty
    | nil =>
      rw [take]
      dsimp only
      cases receiver.recv <;> rfl

end EventSubscription

/-- A stream delivers its backlog in order, and then what its receiver is accounted for. -/
theorem receipts_split {published : List HubItem} {state : HubState}
    {subscription : EventSubscription} {position : Nat} (recorded : Recorded published state)
    (placed : Receiver.At (recordsOf published) position subscription.receiver)
    (actions : List Action) :
    ∃ count live, receipts state subscription actions =
        subscription.backlog.take count ++ live ∧
      (live = [] ∨ subscription.backlog.length ≤ count) ∧
      Accounted 256 (recordsOf (published ++ publications actions)) position live := by
  induction actions generalizing published state subscription position with
  | nil => exact ⟨0, [], rfl, .inl rfl, trivial⟩
  | cons action rest ih =>
    cases action with
    | publish item =>
      have sent := placed.send ⟨published.length, item⟩
      rw [← recordsOf_concat, ← record_numbered recorded] at sent
      have ran := @ih _ _ { subscription with
        receiver := subscription.receiver.send (state.record item).1 } _
        (recorded.record item) sent
      rw [List.append_assoc] at ran
      exact ran
    | drop =>
      exact @ih _ _ { subscription with
        receiver := subscription.receiver.hangUp } _ recorded placed.hangUp
    | receive =>
      cases waiting : subscription.backlog with
      | cons head others =>
        obtain ⟨next, taken, left, same⟩ := EventSubscription.take_of_backlog waiting
        rw [← same] at placed
        obtain ⟨count, live, ran, complete, accounted⟩ := ih recorded placed
        rw [left] at ran complete
        refine ⟨count + 1, live, ?_, complete.imp_right Nat.succ_le_succ, accounted⟩
        simp only [receipts, reads, taken, ran, List.take_succ_cons, List.cons_append]
      | nil =>
        have read := EventSubscription.take_of_no_backlog waiting
        cases receives : subscription.receiver.recv with
        | none =>
          rw [receives] at read
          obtain ⟨count, live, ran, complete, accounted⟩ := ih recorded placed
          rw [waiting] at ran complete
          refine ⟨count, live, ?_, complete, accounted⟩
          simp only [receipts, reads, read, Option.map_none]
          exact ran
        | some result =>
          obtain ⟨received, receiver⟩ := result
          rw [receives] at read
          obtain ⟨first, stands⟩ := placed.recv receives
          obtain ⟨count, live, ran, -, accounted⟩ :=
            @ih _ _ { subscription with receiver } _ recorded stands
          have still : EventSubscription.backlog { subscription with receiver } = [] := waiting
          rw [still, List.take_nil, List.nil_append] at ran
          refine ⟨0, received :: live, ?_, .inr (Nat.le_refl _), ?_⟩
          · simp only [receipts, reads, read, Option.map_some, ran]
            rfl
          · obtain ⟨more, grown⟩ := recordsOf_append published (publications rest)
            have earlier := first.grow more
            rw [← grown] at earlier
            have both := accounted_append.mpr ⟨earlier, accounted⟩
            exact both

/-- Reading as often as there is something in the backlog takes all of it. -/
theorem receipts_backlog (state : HubState) (subscription : EventSubscription)
    (actions : List Action) :
    receipts state subscription
        (List.replicate subscription.backlog.length .receive ++ actions) =
      subscription.backlog ++ receipts state ⟨none, [], subscription.receiver⟩ actions := by
  generalize waiting : subscription.backlog = backlog
  induction backlog generalizing subscription with
  | nil =>
    obtain ⟨_ | _, _ | _, receiver⟩ := subscription
    · rfl
    all_goals cases waiting
  | cons head rest ih =>
    obtain ⟨next, taken, left, same⟩ := EventSubscription.take_of_backlog waiting
    rw [List.length_cons, List.replicate_succ, List.cons_append, receipts, reads, taken]
    exact congrArg (head :: ·) (same ▸ ih next left)

/-- A receiver that was not overrun gives all that it has not read. -/
theorem receipts_unread (state : HubState) (receiver : Receiver eventLiveCapacity HubRecord)
    (fits : receiver.unread.length ≤ eventLiveCapacity) :
    receipts state ⟨none, [], receiver⟩ (List.replicate receiver.unread.length .receive) =
      receiver.unread.map .value := by
  generalize waiting : receiver.unread = unread
  induction unread generalizing receiver with
  | nil => rfl
  | cons record rest ih =>
    have taken : EventSubscription.take ⟨none, [], receiver⟩ =
        some (.value record, ⟨none, [], { receiver with unread := rest }⟩) := by
      rw [EventSubscription.take_of_no_backlog rfl, Receiver.recv_of_unread waiting fits]
      rfl
    rw [waiting] at fits
    rw [List.length_cons, List.replicate_succ, receipts, reads, taken]
    exact congrArg (.value record :: ·)
      (ih { receiver with unread := rest } (Nat.le_of_succ_le fits) rfl)

/-- What is published reaches the receiver. -/
theorem receipts_publish {published : List HubItem} {state : HubState}
    {subscription : EventSubscription} {position : Nat} (recorded : Recorded published state)
    (placed : Receiver.At (recordsOf published) position subscription.receiver)
    (later : List HubItem) (actions : List Action) :
    ∃ reached receiver, receipts state subscription (later.map .publish ++ actions) =
        receipts reached { subscription with receiver } actions ∧
      Receiver.At (recordsOf (published ++ later)) position receiver := by
  induction later generalizing published state subscription with
  | nil => exact ⟨state, subscription.receiver, rfl, by rwa [List.append_nil]⟩
  | cons item rest ih =>
    have sent := placed.send ⟨published.length, item⟩
    rw [← recordsOf_concat, ← record_numbered recorded] at sent
    have ran := @ih _ _ { subscription with
      receiver := subscription.receiver.send (state.record item).1 } (recorded.record item) sent
    rw [List.append_assoc] at ran
    exact ran

/-- A subscription starts to read after the last record published. -/
theorem placed_subscribe (published : List HubItem) :
    Receiver.At (recordsOf published) published.length
      (publishAll published).subscribe.receiver := by
  have fresh : Receiver.At (recordsOf published) _ (Receiver.fresh : Receiver 256 HubRecord) :=
    Receiver.at_fresh _
  rw [length_recordsOf] at fresh
  exact fresh

/-- For every sequence of publications before a subscription, its replay has the last 256 records
up to the first `connected` event and the last 256 records published, and no others, in the
order of their numbers and without duplicates. Whatever is published and read afterwards, the
stream takes its backlog in order and then live records that are accounted for from the first
record published after the subscription on; it is told of a loss only when more than 256 records
were unread. As long as no more than these are published, reading on returns the backlog and then
each of them. -/
theorem subscription_hand_over (published : List HubItem) :
    ((publishAll published).subscribe.replay.Pairwise
      fun first second => first.sequence < second.sequence) ∧
    (∀ record, record ∈ (publishAll published).subscribe.replay ↔
      record ∈ newest 256 (recordsOf (initialPart published)) ∨
        record ∈ newest 256 (recordsOf published)) ∧
    (∀ actions, ∃ count live,
      receipts (publishAll published) (publishAll published).subscribe actions =
        (publishAll published).subscribe.backlog.take count ++ live ∧
      (live = [] ∨ (publishAll published).subscribe.backlog.length ≤ count) ∧
      Accounted 256 (recordsOf (published ++ publications actions)) published.length live) ∧
    ∀ later : List HubItem, later.length ≤ 256 →
      results (publishAll published) (publishAll published).subscribe
          (later.map .publish ++ List.replicate
            ((publishAll published).subscribe.backlog.length + later.length) .receive) =
        ((publishAll published).subscribe.backlog ++
          ((recordsOf (published ++ later)).drop published.length).map Received.value).map
            EventSubscription.deliver := by
  refine ⟨sorted_replay published, mem_replay published, fun actions => ?_, fun later few => ?_⟩
  · exact receipts_split (recorded_publishAll published) (placed_subscribe published) actions
  · obtain ⟨reached, receiver, published_all, placed⟩ := receipts_publish
      (recorded_publishAll published) (placed_subscribe published) later
      (List.replicate ((publishAll published).subscribe.backlog.length + later.length) .receive)
    have unread : receiver.unread.length = later.length := by
      rw [placed.unread, List.length_drop, length_recordsOf, List.length_append,
        Nat.add_sub_cancel_left]
    rw [results_eq, published_all, ← placed.unread, List.replicate_add, ← unread]
    refine congrArg (List.map _) ((receipts_backlog reached
      { (publishAll published).subscribe with receiver } _).trans ?_)
    rw [receipts_unread reached receiver (unread ▸ few)]
    rfl

/-! ## Losses -/

/-- The first record delivered has as many before it as were reported lost, and so many were
lost between two records delivered one after the other as were reported in between. -/
def NoSilentLoss (received : List (Broadcast.Received HubRecord)) : Prop :=
  (∀ before record after, received = before ++ .value record :: after → Valueless before →
    record.sequence = skipped before) ∧
  ∀ before earlier between later after,
    received = before ++ .value earlier :: (between ++ .value later :: after) →
      Valueless between → later.sequence = earlier.sequence + 1 + skipped between

variable {received : List (Broadcast.Received HubRecord)}

/-- What is accounted for from the start on is not lost silently. -/
theorem noSilentLoss_of_accounted {published : List HubItem}
    (accounted : Accounted 256 (recordsOf published) 0 received) : NoSilentLoss received := by
  constructor
  · rintro before record after rfl valueless
    have here := (accounted_append.mp accounted).2
    rw [advance_of_valueless 0 valueless, Nat.zero_add] at here
    exact sequence_of_getElem? here.1
  · rintro before earlier between later after rfl valueless
    have from_earlier := (accounted_append.mp accounted).2
    obtain ⟨first, rest⟩ := from_earlier
    have here := (accounted_append.mp rest).2
    rw [advance_of_valueless _ valueless] at here
    rw [sequence_of_getElem? first]
    exact sequence_of_getElem? here.1

/-- At most as many records as the recent buffer holds follow the initial part. -/
def Joined (published : List HubItem) : Prop :=
  published.length ≤ eventReplayCapacity + (initialPart published).length

section Joins

variable {published : List HubItem}

theorem initialPart_length_le (published : List HubItem) :
    (initialPart published).length ≤ published.length :=
  (initialPart_isPrefix published).length_le

theorem initialPart_ne_nil (some : published ≠ []) : initialPart published ≠ [] := by
  cases published with
  | nil => exact absurd rfl some
  | cons item rest =>
    rw [initialPart]
    split <;> exact List.cons_ne_nil _ _

theorem mem_replay_iff {record : HubRecord} :
    record ∈ (publishAll published).subscribe.replay ↔
      record ∈ recordsOf published ∧
        ((initialPart published).length - eventReplayCapacity ≤ record.sequence ∧
            record.sequence < (initialPart published).length ∨
          published.length - eventReplayCapacity ≤ record.sequence) := by
  rw [mem_replay, newest, newest, length_recordsOf, length_recordsOf, mem_drop_recordsOf,
    mem_drop_recordsOf, mem_recordsOf_initialPart]
  constructor
  · rintro (⟨⟨inside, early⟩, late⟩ | ⟨inside, late⟩)
    · exact ⟨inside, .inl ⟨late, early⟩⟩
    · exact ⟨inside, .inr late⟩
  · rintro ⟨inside, ⟨late, early⟩ | late⟩
    · exact .inl ⟨⟨inside, early⟩, late⟩
    · exact .inr ⟨inside, late⟩

theorem sorted_recordsOf (published : List HubItem) :
    (recordsOf published).Pairwise fun first second => first.sequence < second.sequence := by
  refine List.pairwise_iff_getElem.mpr fun first second within inside less => ?_
  rw [sequence_of_getElem? (List.getElem?_eq_getElem within),
    sequence_of_getElem? (List.getElem?_eq_getElem inside)]
  exact less

/-- A list that is sorted by number is determined by its members. -/
theorem eq_of_sorted {first second : List HubRecord}
    (sorted : first.Pairwise fun earlier later => earlier.sequence < later.sequence)
    (ordered : second.Pairwise fun earlier later => earlier.sequence < later.sequence)
    (same : ∀ record, record ∈ first ↔ record ∈ second) : first = second := by
  have : Std.Antisymm fun earlier later : HubRecord => earlier.sequence < later.sequence :=
    ⟨fun _ _ less more => absurd more (Nat.lt_asymm less)⟩
  have : Std.Irrefl fun earlier later : HubRecord => earlier.sequence < later.sequence :=
    ⟨fun _ => Nat.lt_irrefl _⟩
  exact List.Pairwise.eq_of_mem_iff sorted ordered same

/-- When the buffers join, the replay is everything from the first record of the initial buffer
on. -/
theorem replay_of_joined (joined : Joined published) :
    (publishAll published).subscribe.replay =
      (recordsOf published).drop ((initialPart published).length - eventReplayCapacity) := by
  refine eq_of_sorted (sorted_replay published) ((sorted_recordsOf published).sublist
    (List.drop_sublist _ _)) fun record => ?_
  have within := initialPart_length_le published
  unfold Joined at joined
  rw [mem_replay_iff, mem_drop_recordsOf]
  refine and_congr_right fun inside => ?_
  generalize eventReplayCapacity = capacity at joined ⊢
  omega

/-- When the buffers join, the backlog is accounted for from the first publication to the last. -/
theorem accounted_backlog (joined : Joined published) :
    Accounted 256 (recordsOf published) 0 (publishAll published).subscribe.backlog ∧
      advance 0 (publishAll published).subscribe.backlog = published.length := by
  obtain ⟨start, counted⟩ : ∃ start,
      (initialPart published).length - eventReplayCapacity = start := ⟨_, rfl⟩
  have bound : start ≤ published.length := by
    have within := initialPart_length_le published
    omega
  have dropped := (recorded_publishAll published).initialDropped
  have replay := replay_of_joined joined
  rw [counted] at dropped replay
  have lag : (publishAll published).subscribe.initialLag =
      if 0 < start then some start else none := by
    rw [HubState.subscribe, dropped]
  have rest : Accounted 256 _ start _ := accounted_drop (recordsOf published) start
  have last := advance_values start ((recordsOf published).drop start)
  rw [List.length_drop, length_recordsOf, Nat.add_sub_cancel' bound] at last
  rw [EventSubscription.backlog, lag, replay]
  by_cases positive : 0 < start
  · rw [if_pos positive]
    have room : 0 + start + 256 ≤ (recordsOf published).length := by
      have within := initialPart_length_le published
      rw [length_recordsOf]
      change (initialPart published).length - 256 = start at counted
      omega
    change ((_ ∧ _) ∧ Accounted _ _ (0 + start) _) ∧ advance (0 + start) _ = _
    rw [Nat.zero_add] at room ⊢
    exact ⟨⟨⟨positive, room⟩, rest⟩, last⟩
  · rw [if_neg positive]
    obtain rfl : start = 0 := by omega
    exact ⟨rest, last⟩

/-- When the buffers join, nothing is lost silently, whatever is published and read later. -/
theorem noSilentLoss_of_joined (joined : Joined published) (actions : List Action) :
    NoSilentLoss (receipts (publishAll published) (publishAll published).subscribe actions) := by
  obtain ⟨whole, last⟩ := accounted_backlog joined
  obtain ⟨count, live, delivered, complete, accounted⟩ :=
    receipts_split (recorded_publishAll published) (placed_subscribe published) actions
  obtain ⟨more, grown⟩ := recordsOf_append published (publications actions)
  have early := whole.grow more
  rw [← grown] at early
  rw [delivered]
  have front : Accounted 256 (recordsOf (published ++ publications actions)) 0
      ((publishAll published).subscribe.backlog.take count) := by
    rw [← List.take_append_drop count (EventSubscription.backlog _)] at early
    exact (accounted_append.mp early).1
  rcases complete with rfl | complete
  · rw [List.append_nil]
    exact noSilentLoss_of_accounted front
  · rw [List.take_of_length_le complete] at front ⊢
    refine noSilentLoss_of_accounted (accounted_append.mpr ⟨front, ?_⟩)
    rw [last]
    exact accounted

/-- When the buffers do not join, the replay passes from a record of the initial part to one
that does not follow it. -/
theorem replay_of_not_joined (apart : ¬ Joined published) :
    ∃ front earlier later back, (publishAll published).subscribe.replay =
        front ++ earlier :: later :: back ∧ earlier.sequence + 1 < later.sequence := by
  obtain ⟨ending, counted⟩ : ∃ ending, (initialPart published).length = ending := ⟨_, rfl⟩
  have gap : ending + eventReplayCapacity < published.length := by
    rw [Joined, counted] at apart
    omega
  have started : 0 < ending := by
    rw [← counted]
    refine List.length_pos_iff.mpr (initialPart_ne_nil ?_)
    rintro rfl
    exact Nat.not_lt_zero _ gap
  -- The last record of the initial part, and the last one published, are replayed.
  have first : ∃ record ∈ (publishAll published).subscribe.replay,
      record.sequence = ending - 1 := by
    refine ⟨⟨ending - 1, published.get ⟨ending - 1, by omega⟩⟩, mem_replay_iff.mpr ⟨?_, ?_⟩, rfl⟩
    · exact mem_recordsOf.mpr (List.getElem?_eq_getElem _)
    · rw [counted]
      exact .inl ⟨Nat.sub_le_sub_left (by decide) _, Nat.sub_lt started Nat.one_pos⟩
  have last : ∃ record ∈ (publishAll published).subscribe.replay,
      ending ≤ record.sequence := by
    refine ⟨⟨published.length - 1, published.get ⟨published.length - 1, by omega⟩⟩,
      mem_replay_iff.mpr ⟨?_, ?_⟩, ?_⟩
    · exact mem_recordsOf.mpr (List.getElem?_eq_getElem _)
    · exact .inr (Nat.sub_le_sub_left (by decide) _)
    · change ending ≤ published.length - 1
      omega
  -- Split the replay at its first record behind the initial part.
  obtain ⟨final, reached, behind⟩ := last
  have some : ((publishAll published).subscribe.replay.find?
      fun record => ending ≤ record.sequence).isSome :=
    List.find?_isSome.mpr ⟨final, reached, decide_eq_true behind⟩
  obtain ⟨later, found⟩ := Option.isSome_iff_exists.mp some
  obtain ⟨beyond, front, back, split, before⟩ := List.find?_eq_some_iff_append.mp found
  have jump : published.length - eventReplayCapacity ≤ later.sequence := by
    have member : later ∈ (publishAll published).subscribe.replay := by
      rw [split]
      exact List.mem_append_right _ List.mem_cons_self
    have past : ending ≤ later.sequence := of_decide_eq_true beyond
    rcases (mem_replay_iff.mp member).2 with ⟨-, early⟩ | late
    · omega
    · exact late
  rcases List.eq_nil_or_concat front with rfl | ⟨others, earlier, rfl⟩
  · obtain ⟨record, inside, numbered⟩ := first
    have sorted := sorted_replay published
    rw [split, List.nil_append] at inside sorted
    rcases List.mem_cons.mp inside with rfl | inside
    · omega
    · have above := (List.pairwise_cons.mp sorted).1 record inside
      omega
  · rw [List.concat_eq_append] at split before
    have early : earlier.sequence < ending := by
      have kept := before earlier (List.mem_append_right _ (List.mem_singleton_self earlier))
      simpa using kept
    refine ⟨others, earlier, later, back, ?_, by omega⟩
    rw [split, List.append_assoc, List.singleton_append]

end Joins

/-- A stream never loses a record silently, in whatever way records are published and read after
the subscription, exactly when at most 256 records were published between the first `connected`
event and the subscription. -/
theorem no_silent_loss_iff (published : List HubItem) :
    (∀ actions, NoSilentLoss (receipts (publishAll published)
      (publishAll published).subscribe actions)) ↔
      published.length ≤ 256 + (initialPart published).length := by
  constructor
  · intro lossless
    by_contra apart
    obtain ⟨front, earlier, later, back, replay, gap⟩ := replay_of_not_joined apart
    have delivered := lossless (List.replicate
      (publishAll published).subscribe.backlog.length .receive ++ [])
    rw [receipts_backlog, receipts, reads, List.append_nil, EventSubscription.backlog, replay,
      List.map_append, List.map_cons, List.map_cons, ← List.append_assoc] at delivered
    have consecutive := delivered.2 _ earlier [] later _ rfl (fun _ => List.not_mem_nil)
    change later.sequence = earlier.sequence + 1 + 0 at consecutive
    omega
  · exact noSilentLoss_of_joined

/-- The hub of a client that has connected and then received one event more than the recent
buffer holds. -/
def samplePublished : List HubItem :=
  .event .connected :: List.replicate 257 (.event .messagesWaiting)

/-- The numbers of the records among what was taken. -/
def sequences (received : List (Broadcast.Received HubRecord)) : List (Option Nat) :=
  received.map fun
    | .value record => some record.sequence
    | _ => none

/-- Two records with a hole between them. -/
theorem not_noSilentLoss_of_sequences {first second : Nat}
    (numbered : sequences received = [some first, some second]) (hole : first + 1 < second) :
    ¬ NoSilentLoss received := by
  intro lossless
  obtain ⟨head, rest, rfl, one, others⟩ := List.map_eq_cons_iff.mp numbered
  obtain ⟨next, none, rfl, two, ended⟩ := List.map_eq_cons_iff.mp others
  obtain rfl := List.map_eq_nil_iff.mp ended
  cases head with
  | lagged | closed => cases one
  | value earlier =>
    cases next with
    | lagged | closed => cases two
    | value later =>
      cases one
      cases two
      have consecutive := lossless.2 [] earlier [] later [] rfl fun _ => List.not_mem_nil
      change later.sequence = earlier.sequence + 1 + 0 at consecutive
      omega

/-- The stream delivers the record 0 and then the record 2. -/
theorem sample_replay_skips :
    ¬ NoSilentLoss (receipts (publishAll samplePublished)
      (publishAll samplePublished).subscribe [.receive, .receive]) := by
  have numbered : sequences (receipts (publishAll samplePublished)
      (publishAll samplePublished).subscribe [.receive, .receive]) =
        [some 0, some 2] := by
    decide +kernel
  exact not_noSilentLoss_of_sequences numbered (by decide)

end Meshquill.Python
