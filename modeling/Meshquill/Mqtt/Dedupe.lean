import Meshquill.Client.State
import Meshquill.Newest

/-!
# The event-ID cache

`EventIdDedupe` of `command.rs`: a map from the event IDs that were seen to the time of each, and
the queue of the same pairs in order of arrival. Expired pairs leave from the front of the queue
before every check, and the oldest ones when an insertion exceeds the capacity. A pair that
leaves the queue takes its entry of the map with it, unless the map has a later time.

The specification is the log of the calls that were answered `Fresh`: the cache holds the live
part of the newest entries of that log (`Tracks`), so it answers `Duplicate` exactly for the IDs
of those.
-/
namespace Meshquill.Mqtt

/-- `Instant`, in nanoseconds of the monotonic clock. -/
abbrev Instant := Nat

/-- `MAX_DEDUPE_CAPACITY`. -/
def maxDedupeCapacity : Nat := 100000

/-- `MAX_DEDUPE_TTL_SECS`. -/
def maxDedupeTtlSecs : Nat := 7 * 24 * 60 * 60

inductive DedupeDecision where
  | fresh
  | duplicate
deriving DecidableEq

inductive DedupeError where
  | zeroCapacity
  | zeroTtl
  | capacityExceedsLimit (configured maximum : Nat)
  | ttlExceedsLimit (configured maximum : Duration)
deriving DecidableEq

/-- The entries of the cache: a time for each event ID. -/
abbrev Seen := Finmap fun _ : Uuid => Instant

structure EventIdDedupe where
  capacity : Nat
  ttl : Duration
  entries : Seen
  order : List (Uuid × Instant)

/-- `Instant::checked_duration_since`. -/
def checkedDurationSince (now seen : Instant) : Option Duration :=
  if seen ≤ now then some (now - seen) else none

/-- The condition of the loop in `evict_expired`. -/
def isExpired (ttl : Duration) (now seen : Instant) : Bool :=
  (checkedDurationSince now seen).any (ttl ≤ ·)

/-- The condition for `Duplicate`. -/
def isRemembered (ttl : Duration) (now seen : Instant) : Bool :=
  (checkedDurationSince now seen).all (· < ttl)

/-- What becomes of the entries when a pair leaves the queue. -/
def forget (entries : Seen) (oldest : Uuid × Instant) : Seen :=
  if entries.lookup oldest.1 = some oldest.2 then entries.erase oldest.1 else entries

namespace EventIdDedupe

def new (capacity : Nat) (ttl : Duration) : Except DedupeError EventIdDedupe :=
  if capacity = 0 then .error .zeroCapacity
  else if ttl = 0 then .error .zeroTtl
  else if maxDedupeCapacity < capacity then
    .error (.capacityExceedsLimit capacity maxDedupeCapacity)
  else if Duration.seconds maxDedupeTtlSecs < ttl then
    .error (.ttlExceedsLimit ttl (Duration.seconds maxDedupeTtlSecs))
  else .ok { capacity, ttl, entries := ∅, order := [] }

/-- The loop of `evict_expired`. -/
def evictExpiredLoop (ttl : Duration) (now : Instant) (entries : Seen) :
    List (Uuid × Instant) → Seen × List (Uuid × Instant)
  | [] => (entries, [])
  | oldest :: rest =>
    if isExpired ttl now oldest.2 then evictExpiredLoop ttl now (forget entries oldest) rest
    else (entries, oldest :: rest)

def evictExpired (now : Instant) (cache : EventIdDedupe) : EventIdDedupe :=
  let (entries, order) := evictExpiredLoop cache.ttl now cache.entries cache.order
  { cache with entries, order }

/-- The loop of `enforce_capacity`. -/
def enforceCapacityLoop (capacity : Nat) (entries : Seen) :
    List (Uuid × Instant) → Seen × List (Uuid × Instant)
  | [] => (entries, [])
  | oldest :: rest =>
    if capacity < entries.keys.card then enforceCapacityLoop capacity (forget entries oldest) rest
    else (entries, oldest :: rest)

def enforceCapacity (cache : EventIdDedupe) : EventIdDedupe :=
  let (entries, order) := enforceCapacityLoop cache.capacity cache.entries cache.order
  { cache with entries, order }

/-- The insertion of `check_and_insert_at`. -/
def insert (eventId : Uuid) (now : Instant) (cache : EventIdDedupe) : EventIdDedupe :=
  { cache with
    entries := cache.entries.insert eventId now
    order := cache.order ++ [(eventId, now)] }

/-- The event ID is retained and has not expired. -/
def Remembers (cache : EventIdDedupe) (now : Instant) (eventId : Uuid) : Prop :=
  (cache.entries.lookup eventId).any (isRemembered cache.ttl now)

instance (cache : EventIdDedupe) (now : Instant) (eventId : Uuid) :
    Decidable (cache.Remembers now eventId) :=
  inferInstanceAs (Decidable (_ = true))

def checkAndInsertAt (eventId : Uuid) (now : Instant) (cache : EventIdDedupe) :
    DedupeDecision × EventIdDedupe :=
  let cache := cache.evictExpired now
  if cache.Remembers now eventId then (.duplicate, cache)
  else (.fresh, (cache.insert eventId now).enforceCapacity)

end EventIdDedupe

/-! ## The map and the queue agree -/

/-- The map and the queue hold the same pairs, one for each event ID. -/
structure Agrees (entries : Seen) (order : List (Uuid × Instant)) : Prop where
  same : ∀ eventId seen, entries.lookup eventId = some seen ↔ (eventId, seen) ∈ order
  distinct : (order.map Prod.fst).Nodup

namespace Agrees

variable {entries : Seen} {order rest : List (Uuid × Instant)} {oldest : Uuid × Instant}

theorem empty : Agrees ∅ [] where
  same eventId seen := by simp
  distinct := List.nodup_nil

/-- A pair that leaves the queue leaves the map. -/
theorem forget (agrees : Agrees entries (oldest :: rest)) : Agrees (forget entries oldest) rest := by
  obtain ⟨fresh, distinct⟩ := List.nodup_cons.mp agrees.distinct
  have found : entries.lookup oldest.1 = some oldest.2 := (agrees.same _ _).mpr List.mem_cons_self
  have gone : ∀ seen, (oldest.1, seen) ∉ rest := fun seen inside =>
    fresh (List.mem_map.mpr ⟨_, inside, rfl⟩)
  refine ⟨fun eventId seen => ?_, distinct⟩
  rw [Mqtt.forget, if_pos found]
  by_cases same : eventId = oldest.1
  · subst same
    rw [Finmap.lookup_erase]
    exact ⟨nofun, fun inside => absurd inside (gone seen)⟩
  · rw [Finmap.lookup_erase_ne same, agrees.same, List.mem_cons]
    constructor
    · rintro (front | later)
      · exact absurd (congrArg Prod.fst front) same
      · exact later
    · exact .inr

/-- The map has as many entries as the queue. -/
theorem card (agrees : Agrees entries order) : entries.keys.card = order.length := by
  have keys : entries.keys = (order.map Prod.fst).toFinset := by
    ext eventId
    rw [Finmap.mem_keys, Finmap.mem_iff, List.mem_toFinset, List.mem_map]
    constructor
    · rintro ⟨seen, found⟩
      exact ⟨(eventId, seen), (agrees.same eventId seen).mp found, rfl⟩
    · rintro ⟨⟨_, seen⟩, inside, rfl⟩
      exact ⟨seen, (agrees.same _ seen).mpr inside⟩
  rw [keys, List.toFinset_card_of_nodup agrees.distinct, List.length_map]

/-- A new event ID is added to both. -/
theorem insert (agrees : Agrees entries order) {eventId : Uuid}
    (unknown : ∀ seen, (eventId, seen) ∉ order) (now : Instant) :
    Agrees (entries.insert eventId now) (order ++ [(eventId, now)]) where
  same other seen := by
    rw [List.mem_append, List.mem_singleton, Prod.mk.injEq]
    by_cases same : other = eventId
    · subst same
      rw [Finmap.lookup_insert, Option.some.injEq]
      constructor
      · intro equal
        exact .inr ⟨rfl, equal.symm⟩
      · rintro (inside | ⟨-, equal⟩)
        · exact absurd inside (unknown seen)
        · exact equal.symm
    · rw [Finmap.lookup_insert_of_ne _ same, agrees.same]
      constructor
      · exact .inl
      · rintro (inside | ⟨equal, -⟩)
        · exact inside
        · exact absurd equal same
  distinct := by
    rw [List.map_append]
    apply agrees.distinct.append (List.nodup_singleton _)
    rw [List.disjoint_singleton, List.mem_map]
    rintro ⟨⟨_, seen⟩, inside, rfl⟩
    exact unknown seen inside

theorem evictExpiredLoop (agrees : Agrees entries order) (ttl : Duration) (now : Instant) :
    Agrees (EventIdDedupe.evictExpiredLoop ttl now entries order).1
      (EventIdDedupe.evictExpiredLoop ttl now entries order).2 := by
  induction order generalizing entries with
  | nil => exact agrees
  | cons oldest rest ih =>
    unfold EventIdDedupe.evictExpiredLoop
    split
    · exact ih agrees.forget
    · exact agrees

theorem enforceCapacityLoop (agrees : Agrees entries order) (capacity : Nat) :
    Agrees (EventIdDedupe.enforceCapacityLoop capacity entries order).1
        (EventIdDedupe.enforceCapacityLoop capacity entries order).2 ∧
      (EventIdDedupe.enforceCapacityLoop capacity entries order).2 = newest capacity order := by
  induction order generalizing entries with
  | nil => exact ⟨agrees, (newest_of_le (Nat.zero_le _)).symm⟩
  | cons oldest rest ih =>
    unfold EventIdDedupe.enforceCapacityLoop
    rw [agrees.card]
    split
    · rename_i exceeds
      obtain ⟨still, kept⟩ := ih agrees.forget
      refine ⟨still, kept.trans ?_⟩
      have later : (oldest :: rest).length - capacity = rest.length - capacity + 1 := by
        simp only [List.length_cons] at exceeds ⊢
        omega
      rw [newest, newest, later, List.drop_succ_cons]
    · rename_i within
      exact ⟨agrees, (newest_of_le (Nat.not_lt.mp within)).symm⟩

end Agrees

theorem order_evictExpiredLoop (ttl : Duration) (now : Instant) (entries : Seen)
    (order : List (Uuid × Instant)) :
    (EventIdDedupe.evictExpiredLoop ttl now entries order).2 =
      order.dropWhile fun entry => isExpired ttl now entry.2 := by
  induction order generalizing entries with
  | nil => rfl
  | cons oldest rest ih =>
    unfold EventIdDedupe.evictExpiredLoop
    split
    · rename_i expired
      rw [ih, List.dropWhile_cons, if_pos expired]
    · rename_i kept
      rw [List.dropWhile_cons, if_neg kept]

/-! ## The log of the fresh answers -/

/-- A pair of the log that has not expired. -/
def isAlive (ttl : Duration) (now : Instant) (entry : Uuid × Instant) : Bool :=
  now - entry.2 < ttl

section Alive

variable {ttl : Duration} {now later seen : Instant} {log : List (Uuid × Instant)}

theorem isExpired_eq (known : seen ≤ now) : isExpired ttl now seen = !(now - seen < ttl : Bool) := by
  rw [isExpired, checkedDurationSince, if_pos known, ← decide_not]
  simp only [Option.any_some, Nat.not_lt]

theorem isRemembered_iff (known : seen ≤ now) : isRemembered ttl now seen ↔ now - seen < ttl := by
  rw [isRemembered, checkedDurationSince, if_pos known, Option.all_some, decide_eq_true_eq]

theorem isAlive_of_later (grows : now ≤ later) (entry : Uuid × Instant)
    (alive : isAlive ttl later entry) : isAlive ttl now entry := by
  simp only [isAlive, decide_eq_true_eq] at alive ⊢
  exact Nat.lt_of_le_of_lt (Nat.sub_le_sub_right grows _) alive

/-- Whatever was written later is alive for longer. -/
theorem ageing_of_ordered (ordered : log.Pairwise (·.2 ≤ ·.2)) (ttl : Duration) (now : Instant) :
    log.Pairwise fun older newer => isAlive ttl now older → isAlive ttl now newer := by
  apply ordered.imp
  intro older newer before alive
  simp only [isAlive, decide_eq_true_eq] at alive ⊢
  exact Nat.lt_of_le_of_lt (Nat.sub_le_sub_left before _) alive

/-- What is alive later, among what is alive now. -/
theorem filter_alive_alive (grows : now ≤ later) (entries : List (Uuid × Instant)) :
    (entries.filter (isAlive ttl now)).filter (isAlive ttl later) =
      entries.filter (isAlive ttl later) := by
  rw [List.filter_filter]
  apply List.filter_congr
  intro entry _
  by_cases alive : isAlive ttl later entry
  · simp [alive, isAlive_of_later grows entry alive]
  · simp [alive]

end Alive

/-- The cache holds what is alive of the newest entries of the log. -/
structure Tracks (cache : EventIdDedupe) (log : List (Uuid × Instant)) (now : Instant) : Prop where
  agrees : Agrees cache.entries cache.order
  order : cache.order = (newest cache.capacity log).filter (isAlive cache.ttl now)
  ordered : log.Pairwise (·.2 ≤ ·.2)
  past : ∀ entry ∈ log, entry.2 ≤ now
  capacity : 0 < cache.capacity
  ttl : 0 < cache.ttl

namespace Tracks

variable {cache : EventIdDedupe} {log : List (Uuid × Instant)} {now later : Instant}
  {eventId : Uuid}

theorem of_new {capacity : Nat} {ttl : Duration}
    (created : EventIdDedupe.new capacity ttl = .ok cache) :
    cache.capacity = capacity ∧ cache.ttl = ttl ∧ Tracks cache [] 0 := by
  unfold EventIdDedupe.new at created
  split at created
  · cases created
  split at created
  · cases created
  split at created
  · cases created
  split at created
  · cases created
  · rename_i someCapacity someTtl _ _
    cases created
    exact ⟨rfl, rfl, .empty, by rw [newest, List.drop_nil]; rfl, .nil, nofun,
      Nat.pos_of_ne_zero someCapacity, Nat.pos_of_ne_zero someTtl⟩

/-- The eviction leaves what is still alive. -/
theorem evictExpired (tracks : Tracks cache log now) (grows : now ≤ later) :
    Tracks (cache.evictExpired later) log later where
  agrees := tracks.agrees.evictExpiredLoop cache.ttl later
  order := by
    have window : cache.order.Sublist log := by
      rw [tracks.order]
      exact List.filter_sublist.trans (newest_sublist _ _)
    have conditions : ∀ entry ∈ cache.order,
        isExpired cache.ttl later entry.2 = !isAlive cache.ttl later entry := fun entry inside =>
      isExpired_eq ((tracks.past entry (window.subset inside)).trans grows)
    calc (cache.evictExpired later).order
      _ = cache.order.dropWhile fun entry => isExpired cache.ttl later entry.2 :=
          order_evictExpiredLoop _ _ _ _
      _ = cache.order.filter (isAlive cache.ttl later) :=
          dropWhile_eq_filter conditions (ageing_of_ordered (tracks.ordered.sublist window) _ _)
      _ = (newest cache.capacity log).filter (isAlive cache.ttl later) := by
          rw [tracks.order, filter_alive_alive grows]
  ordered := tracks.ordered
  past entry inside := (tracks.past entry inside).trans grows
  capacity := tracks.capacity
  ttl := tracks.ttl

/-- A new event ID is the newest entry of the log. -/
theorem insert (tracks : Tracks cache log now) (unknown : ∀ seen, (eventId, seen) ∉ cache.order) :
    Tracks (cache.insert eventId now).enforceCapacity (log ++ [(eventId, now)]) now := by
  obtain ⟨agrees, kept⟩ := (tracks.agrees.insert unknown now).enforceCapacityLoop cache.capacity
  have young : isAlive cache.ttl now (eventId, now) := by
    simp [isAlive, tracks.ttl]
  refine ⟨agrees, ?_, ?_, ?_, tracks.capacity, tracks.ttl⟩
  · calc ((cache.insert eventId now).enforceCapacity).order
      _ = newest cache.capacity (cache.order ++ [(eventId, now)]) := kept
      _ = (newest cache.capacity (log ++ [(eventId, now)])).filter (isAlive cache.ttl now) := by
          rw [tracks.order]
          exact newest_filter_concat tracks.capacity (ageing_of_ordered tracks.ordered _ _) young
  · apply List.pairwise_append.mpr
    refine ⟨tracks.ordered, List.pairwise_singleton _ _, ?_⟩
    intro older inside newer last
    rw [List.mem_singleton.mp last]
    exact tracks.past older inside
  · intro entry inside
    rcases List.mem_append.mp inside with earlier | last
    · exact tracks.past entry earlier
    · rw [List.mem_singleton.mp last]

theorem mem_order (tracks : Tracks cache log now) {entry : Uuid × Instant} :
    entry ∈ cache.order ↔
      entry ∈ newest cache.capacity log ∧ now - entry.2 < cache.ttl := by
  rw [tracks.order, List.mem_filter, isAlive, decide_eq_true_eq]

/-- The cache remembers the live event IDs among the newest of the log. -/
theorem remembers_iff (tracks : Tracks cache log now) (grows : now ≤ later) (eventId : Uuid) :
    cache.Remembers later eventId ↔
      ∃ seen, (eventId, seen) ∈ newest cache.capacity log ∧ later - seen < cache.ttl := by
  unfold EventIdDedupe.Remembers
  constructor
  · intro known
    cases found : cache.entries.lookup eventId with
    | none =>
      rw [found] at known
      cases known
    | some seen =>
      obtain ⟨inside, -⟩ := tracks.mem_order.mp ((tracks.agrees.same eventId seen).mp found)
      have past := (tracks.past _ (mem_of_mem_newest inside)).trans grows
      rw [found, Option.any_some, isRemembered_iff past] at known
      exact ⟨seen, inside, known⟩
  · rintro ⟨seen, inside, young⟩
    have younger := Nat.lt_of_le_of_lt (Nat.sub_le_sub_right grows _) young
    have found := (tracks.agrees.same eventId seen).mpr (tracks.mem_order.mpr ⟨inside, younger⟩)
    have past := (tracks.past _ (mem_of_mem_newest inside)).trans grows
    rw [found, Option.any_some, isRemembered_iff past]
    exact young

end Tracks

/-! ## Calls -/

/-- The log after an answer. -/
def DedupeDecision.logged (eventId : Uuid) (now : Instant) (log : List (Uuid × Instant)) :
    DedupeDecision → List (Uuid × Instant)
  | .fresh => log ++ [(eventId, now)]
  | .duplicate => log

section Calls

variable {cache : EventIdDedupe} {log : List (Uuid × Instant)} {now later : Instant}
  {eventId : Uuid}

theorem checkAndInsertAt_of_known (known : (cache.evictExpired now).Remembers now eventId) :
    cache.checkAndInsertAt eventId now = (.duplicate, cache.evictExpired now) :=
  if_pos known

theorem checkAndInsertAt_of_unknown
    (unknown : ¬ (cache.evictExpired now).Remembers now eventId) :
    cache.checkAndInsertAt eventId now =
      (.fresh, ((cache.evictExpired now).insert eventId now).enforceCapacity) :=
  if_neg unknown

/-- A call answers `Duplicate` for the live IDs among the newest of the log, and changes then
nothing but what has expired. -/
theorem Tracks.duplicate_iff (tracks : Tracks cache log now) (grows : now ≤ later) :
    (cache.checkAndInsertAt eventId later).1 = .duplicate ↔
      ∃ seen, (eventId, seen) ∈ newest cache.capacity log ∧ later - seen < cache.ttl := by
  have known := (tracks.evictExpired grows).remembers_iff (Nat.le_refl later) eventId
  constructor
  · intro duplicate
    by_contra fresh
    rw [checkAndInsertAt_of_unknown (fresh ∘ known.mp)] at duplicate
    cases duplicate
  · intro live
    rw [checkAndInsertAt_of_known (known.mpr live)]

theorem evicted_of_duplicate (duplicate : (cache.checkAndInsertAt eventId now).1 = .duplicate) :
    (cache.checkAndInsertAt eventId now).2 = cache.evictExpired now := by
  by_cases known : (cache.evictExpired now).Remembers now eventId
  · rw [checkAndInsertAt_of_known known]
  · rw [checkAndInsertAt_of_unknown known] at duplicate
    cases duplicate

/-- A call keeps track of the log. -/
theorem Tracks.checkAndInsertAt (tracks : Tracks cache log now) (grows : now ≤ later)
    (eventId : Uuid) :
    Tracks (cache.checkAndInsertAt eventId later).2
      ((cache.checkAndInsertAt eventId later).1.logged eventId later log) later := by
  have evicted := tracks.evictExpired grows
  have known := evicted.remembers_iff (Nat.le_refl later) eventId
  by_cases live : ∃ seen, (eventId, seen) ∈ newest cache.capacity log ∧ later - seen < cache.ttl
  · rw [checkAndInsertAt_of_known (known.mpr live)]
    exact evicted
  · rw [checkAndInsertAt_of_unknown (live ∘ known.mp)]
    exact evicted.insert fun seen inside => live ⟨seen, evicted.mem_order.mp inside⟩

theorem capacity_checkAndInsertAt (eventId : Uuid) (now : Instant) (cache : EventIdDedupe) :
    (cache.checkAndInsertAt eventId now).2.capacity = cache.capacity := by
  by_cases known : (cache.evictExpired now).Remembers now eventId
  · rw [checkAndInsertAt_of_known known]
    rfl
  · rw [checkAndInsertAt_of_unknown known]
    rfl

theorem ttl_checkAndInsertAt (eventId : Uuid) (now : Instant) (cache : EventIdDedupe) :
    (cache.checkAndInsertAt eventId now).2.ttl = cache.ttl := by
  by_cases known : (cache.evictExpired now).Remembers now eventId
  · rw [checkAndInsertAt_of_known known]
    rfl
  · rw [checkAndInsertAt_of_unknown known]
    rfl

end Calls

namespace EventIdDedupe

/-- A sequence of calls, with the log of those answered `Fresh`. -/
def run (cache : EventIdDedupe) (log : List (Uuid × Instant)) :
    List (Uuid × Instant) → EventIdDedupe × List (Uuid × Instant)
  | [] => (cache, log)
  | (eventId, now) :: calls =>
    let (decision, next) := cache.checkAndInsertAt eventId now
    next.run (decision.logged eventId now log) calls

end EventIdDedupe

/-- Calls in the order of time keep track of the log. -/
theorem Tracks.run {cache : EventIdDedupe} {log calls : List (Uuid × Instant)}
    {now later : Instant} (tracks : Tracks cache log now)
    (ordered : (now :: (calls.map Prod.snd ++ [later])).Pairwise (· ≤ ·)) :
    (cache.run log calls).1.capacity = cache.capacity ∧ (cache.run log calls).1.ttl = cache.ttl ∧
      ∃ last ≤ later, Tracks (cache.run log calls).1 (cache.run log calls).2 last := by
  induction calls generalizing cache log now with
  | nil =>
    obtain ⟨grows, -⟩ := List.pairwise_cons.mp ordered
    exact ⟨rfl, rfl, now, grows later (List.mem_singleton_self later), tracks⟩
  | cons call calls ih =>
    obtain ⟨eventId, next⟩ := call
    obtain ⟨grows, others⟩ := List.pairwise_cons.mp ordered
    obtain ⟨capacity, ttl, last, before, reached⟩ := ih
      (tracks.checkAndInsertAt (grows next List.mem_cons_self) eventId) others
    exact ⟨capacity.trans (capacity_checkAndInsertAt eventId next cache),
      ttl.trans (ttl_checkAndInsertAt eventId next cache), last, before, reached⟩

/-- Whatever calls came before, in the order of time, a call answers `Duplicate` exactly if its
event ID is among the last `capacity` IDs that were answered `Fresh`, less than the lifetime ago.
A `Duplicate` leaves every pair that has not expired with its time. After the call the map and
the queue hold the same pairs, one for each ID, and no more than the capacity. -/
theorem dedupe_refines_fresh_log {capacity : Nat} {ttl : Duration} {cache : EventIdDedupe}
    (created : EventIdDedupe.new capacity ttl = .ok cache) (earlier : List (Uuid × Instant))
    (eventId : Uuid) (now : Instant)
    (ordered : (earlier.map Prod.snd ++ [now]).Pairwise (· ≤ ·)) :
    let before := (cache.run [] earlier).1
    let log := (cache.run [] earlier).2
    let call := before.checkAndInsertAt eventId now
    (call.1 = .duplicate ↔
        ∃ seen, (eventId, seen) ∈ newest capacity log ∧ now - seen < ttl) ∧
      (call.1 = .duplicate →
        ∀ entry, entry ∈ call.2.order ↔ entry ∈ before.order ∧ now - entry.2 < ttl) ∧
      (∀ other seen, call.2.entries.lookup other = some seen ↔ (other, seen) ∈ call.2.order) ∧
      (call.2.order.map Prod.fst).Nodup ∧ call.2.order.length ≤ capacity := by
  intro before log call
  obtain ⟨rfl, rfl, started⟩ := Tracks.of_new created
  obtain ⟨sameCapacity, sameTtl, last, past, tracks⟩ :=
    started.run (List.pairwise_cons.mpr ⟨fun _ _ => Nat.zero_le _, ordered⟩)
  have after := tracks.checkAndInsertAt past eventId
  have size : call.2.capacity = cache.capacity :=
    (capacity_checkAndInsertAt eventId now before).trans sameCapacity
  refine ⟨?_, ?_, after.agrees.same, after.agrees.distinct, ?_⟩
  · rw [← sameCapacity, ← sameTtl]
    exact tracks.duplicate_iff past
  · intro duplicate entry
    have evicted := tracks.evictExpired past
    rw [evicted_of_duplicate duplicate, ← sameTtl, evicted.mem_order, tracks.mem_order]
    constructor
    · rintro ⟨inside, young⟩
      exact ⟨⟨inside, Nat.lt_of_le_of_lt (Nat.sub_le_sub_right past _) young⟩, young⟩
    · rintro ⟨⟨inside, -⟩, young⟩
      exact ⟨inside, young⟩
  · rw [after.order, ← size]
    exact (List.length_filter_le _ _).trans (length_newest_le _ _)

/-- An ID that was answered `Fresh` twice, before and after its lifetime of two seconds, in a
cache with room for one. -/
theorem dedupe_of_returning_id :
    let cache : EventIdDedupe :=
      { capacity := 1, ttl := Duration.seconds 2, entries := ∅, order := [] }
    let earlier : List (Uuid × Instant) :=
      [(7, 0), (7, Duration.seconds 1), (7, Duration.seconds 2)]
    (cache.run [] earlier).2 = [(7, 0), (7, Duration.seconds 2)] ∧
      ((cache.run [] earlier).1.checkAndInsertAt 7 (Duration.seconds 3)).1 = .duplicate := by
  intro cache earlier
  have created : EventIdDedupe.new 1 (Duration.seconds 2) = .ok cache := rfl
  have refines :=
    dedupe_refines_fresh_log created earlier 7 (Duration.seconds 3) (by decide +kernel)
  exact ⟨by decide +kernel, refines.1.mpr ⟨Duration.seconds 2, by decide +kernel, by decide +kernel⟩⟩

end Meshquill.Mqtt
