import Meshquill.Chat.Session

/-!
# Pairing the two copies of an incoming message

A message reaches the workflow twice: broadcast while the client is listening, and returned by
the command that drains the device's queue. Both copies carry the observation id of the packet
they were decoded from. `IncomingTracker` remembers which ids it has seen once and lets the
second copy cancel the first.

Its queue is bounded: a match takes an occurrence out of the middle while eviction takes the
oldest from the front. `Held` follows one occurrence through a run by the number of occurrences
behind it, which bounds how close it is to eviction.
-/
namespace Meshquill.Cli

def incomingCorrelationCapacity : Nat := 256

structure IncomingOccurrence where
  observationId : UInt64
  origin : IncomingOrigin
deriving DecidableEq

/-- The occurrences that have not been matched, oldest first. -/
structure IncomingTracker where
  occurrences : List IncomingOccurrence := []
deriving DecidableEq

/-- The arguments of one call of `observe`. -/
structure Arrival where
  observationId : Option UInt64
  origin : IncomingOrigin
deriving DecidableEq

namespace IncomingTracker

/-- Append an occurrence; a full queue loses its oldest one first. -/
def push (tracker : IncomingTracker) (occurrence : IncomingOccurrence) : IncomingTracker :=
  if tracker.occurrences.length = incomingCorrelationCapacity then
    ⟨tracker.occurrences.tail ++ [occurrence]⟩
  else ⟨tracker.occurrences ++ [occurrence]⟩

/-- Whether the arrival is new, and what is remembered afterwards. -/
def observe (tracker : IncomingTracker) (arrival : Arrival) : Bool × IncomingTracker :=
  match arrival.observationId with
  | none => (true, tracker)
  | some observationId =>
    match tracker.occurrences.findIdx? fun occurrence =>
        occurrence.observationId = observationId ∧ occurrence.origin ≠ arrival.origin with
    | some position => (false, ⟨tracker.occurrences.eraseIdx position⟩)
    | none => (true, tracker.push ⟨observationId, arrival.origin⟩)

def clear (_ : IncomingTracker) : IncomingTracker := ⟨[]⟩

/-- What is remembered after a sequence of arrivals. -/
def observeAll (tracker : IncomingTracker) (arrivals : List Arrival) : IncomingTracker :=
  arrivals.foldl (fun state arrival => (state.observe arrival).2) tracker

/-- The arrivals that are taken for new ones. -/
def accepted (tracker : IncomingTracker) : List Arrival → List Arrival
  | [] => []
  | arrival :: rest =>
    if (tracker.observe arrival).1 then arrival :: accepted (tracker.observe arrival).2 rest
    else accepted (tracker.observe arrival).2 rest

/-- The number of occurrences pushed: those of accepted arrivals that have an id. -/
def insertions (tracker : IncomingTracker) (arrivals : List Arrival) : Nat :=
  ((tracker.accepted arrivals).filter (·.observationId.isSome)).length

/-! ## One arrival -/

section Step

variable (tracker : IncomingTracker) {arrival : Arrival} {observationId : UInt64}

theorem observe_of_none (unnumbered : arrival.observationId = none) :
    tracker.observe arrival = (true, tracker) := by
  rw [observe, unnumbered]

/-- An arrival with an id cancels an occurrence of the other origin, or it is pushed. -/
theorem observe_cases (numbered : arrival.observationId = some observationId) :
    (∃ front partner back, tracker.occurrences = front ++ partner :: back ∧
      partner.observationId = observationId ∧ partner.origin ≠ arrival.origin ∧
      tracker.observe arrival = (false, ⟨front ++ back⟩)) ∨
    ((∀ occurrence ∈ tracker.occurrences, occurrence.observationId = observationId →
        occurrence.origin = arrival.origin) ∧
      tracker.observe arrival = (true, tracker.push ⟨observationId, arrival.origin⟩)) := by
  rw [observe, numbered]
  dsimp only
  split
  case h_1 position found =>
    obtain ⟨inside, paired, _⟩ := List.findIdx?_eq_some_iff_getElem.mp found
    obtain ⟨same, opposite⟩ := of_decide_eq_true paired
    refine .inl ⟨_, _, _, ?_, same, opposite, by rw [List.eraseIdx_eq_take_drop_succ]⟩
    rw [List.getElem_cons_drop inside, List.take_append_drop]
  case h_2 absent =>
    refine .inr ⟨fun occurrence inside same => ?_, rfl⟩
    have unpaired := List.findIdx?_eq_none_iff.mp absent occurrence inside
    by_contra opposite
    simp [same, opposite] at unpaired

variable {tracker}

theorem mem_push {occurrence added : IncomingOccurrence}
    (inside : occurrence ∈ (tracker.push added).occurrences) :
    occurrence = added ∨ occurrence ∈ tracker.occurrences := by
  rw [push] at inside
  split at inside
  all_goals
    rcases List.mem_append.mp inside with kept | new
    · first
      | exact .inr (List.mem_of_mem_tail kept)
      | exact .inr kept
    · exact .inl (List.mem_singleton.mp new)

theorem length_push_le (bounded : tracker.occurrences.length ≤ incomingCorrelationCapacity)
    (added : IncomingOccurrence) :
    (tracker.push added).occurrences.length ≤ incomingCorrelationCapacity := by
  rw [push]
  split
  case isTrue full =>
    rw [List.length_append, List.length_tail, full]
    exact Nat.le_refl _
  case isFalse room =>
    rw [List.length_append]
    exact Nat.lt_of_le_of_ne bounded room

theorem length_observe_le (bounded : tracker.occurrences.length ≤ incomingCorrelationCapacity)
    (arrival : Arrival) :
    (tracker.observe arrival).2.occurrences.length ≤ incomingCorrelationCapacity := by
  cases numbered : arrival.observationId with
  | none =>
    rw [observe_of_none tracker numbered]
    exact bounded
  | some observationId =>
    rcases observe_cases tracker numbered with ⟨front, _, back, split, _, _, removed⟩ | ⟨_, pushed⟩
    · rw [removed]
      rw [split] at bounded
      simp only [List.length_append, List.length_cons] at bounded ⊢
      omega
    · rw [pushed]
      exact length_push_le bounded _

/-- What is remembered was remembered before, or it is the arrival, which was accepted. -/
theorem mem_observe {occurrence : IncomingOccurrence}
    (inside : occurrence ∈ (tracker.observe arrival).2.occurrences) :
    occurrence ∈ tracker.occurrences ∨
      ((tracker.observe arrival).1 = true ∧
        arrival = ⟨some occurrence.observationId, occurrence.origin⟩) := by
  cases numbered : arrival.observationId with
  | none =>
    rw [observe_of_none tracker numbered] at inside
    exact .inl inside
  | some observationId =>
    rcases observe_cases tracker numbered with ⟨front, _, back, split, _, _, removed⟩ | ⟨_, pushed⟩
    · rw [removed] at inside
      rw [split]
      rcases List.mem_append.mp inside with before | behind
      · exact .inl (List.mem_append_left _ before)
      · exact .inl (List.mem_append_right _ (List.mem_cons_of_mem _ behind))
    · rw [pushed] at inside ⊢
      rcases mem_push inside with rfl | old
      · refine .inr ⟨rfl, ?_⟩
        rw [← numbered]
      · exact .inl old

/-- A rejected arrival finds an occurrence of its own id and of the other origin. -/
theorem partner_of_rejected (rejected : (tracker.observe arrival).1 = false) :
    ∃ partner ∈ tracker.occurrences, arrival.observationId = some partner.observationId ∧
      partner.origin ≠ arrival.origin := by
  cases numbered : arrival.observationId with
  | none =>
    rw [observe_of_none tracker numbered] at rejected
    cases rejected
  | some observationId =>
    rcases observe_cases tracker numbered with
      ⟨front, partner, back, split, same, opposite, _⟩ | ⟨_, pushed⟩
    · refine ⟨partner, ?_, congrArg some same.symm, opposite⟩
      rw [split]
      exact List.mem_append_right _ List.mem_cons_self
    · rw [pushed] at rejected
      cases rejected

/-- An occurrence of the other origin makes the tracker reject the arrival. -/
theorem rejected_of_partner {partner : IncomingOccurrence}
    (inside : partner ∈ tracker.occurrences)
    (numbered : arrival.observationId = some partner.observationId)
    (opposite : partner.origin ≠ arrival.origin) : (tracker.observe arrival).1 = false := by
  rcases observe_cases tracker numbered with ⟨_, _, _, _, _, _, removed⟩ | ⟨unpaired, _⟩
  · rw [removed]
  · exact absurd (unpaired partner inside rfl) opposite

/-- An arrival whose id is not remembered is pushed. -/
theorem observe_of_absent (numbered : arrival.observationId = some observationId)
    (absent : ∀ occurrence ∈ tracker.occurrences, occurrence.observationId ≠ observationId) :
    tracker.observe arrival = (true, tracker.push ⟨observationId, arrival.origin⟩) := by
  rcases observe_cases tracker numbered with ⟨front, partner, back, split, same, _, _⟩ | ⟨_, pushed⟩
  · refine absurd same (absent partner ?_)
    rw [split]
    exact List.mem_append_right _ List.mem_cons_self
  · exact pushed

end Step

/-! ## Runs -/

section Runs

variable {tracker : IncomingTracker} {arrivals : List Arrival}

theorem observeAll_append (tracker : IncomingTracker) (first second : List Arrival) :
    tracker.observeAll (first ++ second) = (tracker.observeAll first).observeAll second :=
  List.foldl_append

theorem accepted_append (tracker : IncomingTracker) (first second : List Arrival) :
    tracker.accepted (first ++ second) =
      tracker.accepted first ++ (tracker.observeAll first).accepted second := by
  induction first generalizing tracker with
  | nil => rfl
  | cons arrival rest ih =>
    simp only [List.cons_append, accepted, ih, observeAll, List.foldl_cons]
    split <;> rfl

theorem accepted_sublist (tracker : IncomingTracker) (arrivals : List Arrival) :
    (tracker.accepted arrivals).Sublist arrivals := by
  induction arrivals generalizing tracker with
  | nil => exact .slnil
  | cons arrival rest ih =>
    rw [accepted]
    split
    · exact (ih _).cons_cons _
    · exact (ih _).cons _

theorem insertions_le (tracker : IncomingTracker) (arrivals : List Arrival) :
    tracker.insertions arrivals ≤ arrivals.length :=
  Nat.le_trans (List.length_filter_le _ _) (accepted_sublist tracker arrivals).length_le

/-- The bound of the queue holds after every run. -/
theorem length_observeAll_le (bounded : tracker.occurrences.length ≤ incomingCorrelationCapacity)
    (arrivals : List Arrival) :
    (tracker.observeAll arrivals).occurrences.length ≤ incomingCorrelationCapacity := by
  induction arrivals generalizing tracker with
  | nil => exact bounded
  | cons arrival rest ih =>
    exact ih (length_observe_le bounded arrival)

/-- What is remembered after a run was there at its start or is of an accepted arrival. -/
theorem mem_observeAll {occurrence : IncomingOccurrence}
    (inside : occurrence ∈ (tracker.observeAll arrivals).occurrences) :
    occurrence ∈ tracker.occurrences ∨
      ⟨some occurrence.observationId, occurrence.origin⟩ ∈ tracker.accepted arrivals := by
  induction arrivals generalizing tracker with
  | nil => exact .inl inside
  | cons arrival rest ih =>
    rcases ih inside with early | late
    · rcases mem_observe early with old | ⟨taken, rfl⟩
      · exact .inl old
      · rw [accepted, if_pos taken]
        exact .inr List.mem_cons_self
    · rw [accepted]
      split
      · exact .inr (List.mem_cons_of_mem _ late)
      · exact .inr late

/-- After a clear, an id that did not arrive is not remembered. -/
theorem absent_of_not_arrived {observationId : UInt64}
    (absent : ∀ arrival ∈ arrivals, arrival.observationId ≠ some observationId) :
    ∀ occurrence ∈ (tracker.clear.observeAll arrivals).occurrences,
      occurrence.observationId ≠ observationId := by
  intro occurrence inside same
  rcases mem_observeAll inside with impossible | taken
  · cases impossible
  · have arrived := (accepted_sublist _ _).subset taken
    exact absent _ arrived (congrArg some same)

end Runs

/-! ## One occurrence through a run -/

/-- The occurrence is remembered, with this many occurrences behind it. -/
def Held (occurrence : IncomingOccurrence) (behind : Nat) (tracker : IncomingTracker) : Prop :=
  ∃ front back, tracker.occurrences = front ++ occurrence :: back ∧ back.length = behind

namespace Held

variable {occurrence : IncomingOccurrence} {behind : Nat} {tracker : IncomingTracker}

theorem mem (held : Held occurrence behind tracker) : occurrence ∈ tracker.occurrences := by
  obtain ⟨front, back, split, _⟩ := held
  rw [split]
  exact List.mem_append_right _ List.mem_cons_self

theorem of_push (tracker : IncomingTracker) (occurrence : IncomingOccurrence) :
    Held occurrence 0 (tracker.push occurrence) := by
  rw [push]
  split
  · exact ⟨_, [], rfl, rfl⟩
  · exact ⟨_, [], rfl, rfl⟩

/-- A push evicts the occurrence only when the whole queue is behind it. -/
theorem push (held : Held occurrence behind tracker)
    (room : behind + 1 < incomingCorrelationCapacity) (added : IncomingOccurrence) :
    Held occurrence (behind + 1) (tracker.push added) := by
  obtain ⟨front, back, split, counted⟩ := held
  rw [IncomingTracker.push, split]
  split
  case isTrue full =>
    cases front with
    | nil =>
      simp only [List.nil_append, List.length_cons, counted] at full
      omega
    | cons oldest others =>
      refine ⟨others, back ++ [added], by simp, ?_⟩
      rw [List.length_append, counted, List.length_singleton]
  case isFalse =>
    refine ⟨front, back ++ [added], by simp, ?_⟩
    rw [List.length_append, counted, List.length_singleton]

/-- Taking out another occurrence moves this one no closer to the front's eviction. -/
theorem erase {front back : List IncomingOccurrence} {partner : IncomingOccurrence}
    (held : Held occurrence behind tracker)
    (split : tracker.occurrences = front ++ partner :: back) (other : partner ≠ occurrence) :
    ∃ fewer ≤ behind, Held occurrence fewer ⟨front ++ back⟩ := by
  obtain ⟨before, after, place, counted⟩ := held
  rw [place] at split
  rcases List.append_eq_append_iff.mp split with ⟨middle, rfl, rest⟩ | ⟨middle, rfl, rest⟩
  · cases middle with
    | nil => exact absurd (List.cons.inj rest).1.symm other
    | cons first others =>
      rw [List.cons_append] at rest
      obtain ⟨rfl, rfl⟩ := List.cons.inj rest
      refine ⟨(others ++ back).length, ?_, before, others ++ back, by simp, rfl⟩
      rw [List.length_append, List.length_cons] at counted
      rw [List.length_append]
      omega
  · cases middle with
    | nil => exact absurd (List.cons.inj rest).1 other
    | cons first others =>
      obtain ⟨rfl, rfl⟩ := List.cons.inj rest
      exact ⟨behind, Nat.le_refl behind, front ++ others, after, by simp, counted⟩

/-- While no arrival has its id and fewer occurrences are pushed than the queue has places,
the occurrence stays. -/
theorem observeAll {arrivals : List Arrival} (held : Held occurrence behind tracker)
    (absent : ∀ arrival ∈ arrivals, arrival.observationId ≠ some occurrence.observationId)
    (few : behind + tracker.insertions arrivals < incomingCorrelationCapacity) :
    occurrence ∈ (tracker.observeAll arrivals).occurrences := by
  -- Along the run, the occurrences behind this one are at most those pushed so far.
  induction arrivals generalizing tracker behind with
  | nil => exact held.mem
  | cons arrival rest ih =>
    obtain ⟨foreign, others⟩ := List.forall_mem_cons.mp absent
    change occurrence ∈ ((tracker.observe arrival).2.observeAll rest).occurrences
    rw [insertions, accepted] at few
    cases numbered : arrival.observationId with
    | none =>
      rw [observe_of_none tracker numbered] at few ⊢
      refine ih held others ?_
      simpa [numbered, insertions] using few
    | some observationId =>
      rcases observe_cases tracker numbered with
        ⟨front, partner, back, split, same, _, removed⟩ | ⟨_, pushed⟩
      · rw [removed] at few ⊢
        have other : partner ≠ occurrence := by
          rintro rfl
          exact foreign (numbered.trans (congrArg some same.symm))
        obtain ⟨fewer, less, still⟩ := held.erase split other
        refine ih still others ?_
        simp only [Bool.false_eq_true, if_false] at few
        exact Nat.lt_of_le_of_lt (Nat.add_le_add_right less _) few
      · rw [pushed] at few ⊢
        simp only [if_true, List.filter_cons, numbered, Option.isSome_some, List.length_cons] at few
        have room : behind + 1 < incomingCorrelationCapacity := by omega
        refine ih (held.push room _) others ?_
        rw [insertions]
        dsimp only
        omega

end Held

/-! ## Exactly once -/

/-- No arrival with an id comes twice: each id arrives at most once per origin. -/
def OncePerOrigin (arrivals : List Arrival) : Prop :=
  arrivals.Pairwise fun first second => first.observationId.isSome → first ≠ second

instance (arrivals : List Arrival) : Decidable (OncePerOrigin arrivals) :=
  inferInstanceAs (Decidable (List.Pairwise _ _))

/-- Between two arrivals of one id, fewer occurrences are pushed than the queue has places. -/
def Timely (tracker : IncomingTracker) (arrivals : List Arrival) : Prop :=
  ∀ before first between second after, arrivals = before ++ first :: (between ++ second :: after) →
    first.observationId.isSome → second.observationId = first.observationId →
      (tracker.observeAll (before ++ [first])).insertions between < incomingCorrelationCapacity

theorem timely_of_short (tracker : IncomingTracker) {arrivals : List Arrival}
    (short : arrivals.length ≤ incomingCorrelationCapacity) : Timely tracker arrivals := by
  rintro before first between second after rfl - -
  simp only [List.length_append, List.length_cons] at short
  exact Nat.lt_of_le_of_lt (insertions_le _ between) (by omega)

section Pairs

variable {tracker : IncomingTracker} {before between after : List Arrival}
  {first second : Arrival} {observationId : UInt64}

/-- Two arrivals with one id are of the two origins. -/
theorem OncePerOrigin.opposite
    (once : OncePerOrigin (before ++ first :: (between ++ second :: after)))
    (numbered : first.observationId = some observationId)
    (same : second.observationId = some observationId) : first.origin ≠ second.origin := by
  intro equal
  have later := (List.pairwise_append.mp once).2.1
  have distinct := (List.pairwise_cons.mp later).1 second
    (List.mem_append_right _ List.mem_cons_self) (by rw [numbered]; rfl)
  refine distinct ?_
  cases first
  cases second
  simp_all

/-- An id that arrives twice arrives nowhere else in between. -/
theorem OncePerOrigin.not_between
    (once : OncePerOrigin (before ++ first :: (between ++ second :: after)))
    (numbered : first.observationId = some observationId)
    (same : second.observationId = some observationId) :
    ∀ arrival ∈ between, arrival.observationId ≠ some observationId := by
  intro arrival inside third
  obtain ⟨front, back, rfl⟩ := List.append_of_mem inside
  -- Three arrivals of one id would need three origins.
  have ends := once.opposite numbered same
  have left : first.origin ≠ arrival.origin := by
    rw [List.append_assoc, List.cons_append] at once
    exact once.opposite numbered third
  have right : arrival.origin ≠ second.origin := by
    have rest := (List.pairwise_append.mp once).2.1
    rw [List.append_assoc, List.cons_append] at rest
    exact OncePerOrigin.opposite (List.pairwise_cons.mp rest).2 third same
  generalize first.origin = one at ends left
  generalize second.origin = two at ends right
  generalize arrival.origin = three at left right
  cases one <;> cases two <;> cases three <;> simp_all

/-- The first arrival of an id is pushed. -/
theorem observe_first (numbered : first.observationId = some observationId)
    (absent : ∀ arrival ∈ before, arrival.observationId ≠ some observationId) :
    (tracker.clear.observeAll before).observe first =
      (true, (tracker.clear.observeAll before).push ⟨observationId, first.origin⟩) :=
  observe_of_absent numbered (absent_of_not_arrived absent)

/-- The second arrival of an id finds the first one and is rejected. -/
theorem rejected_second
    (once : OncePerOrigin (before ++ first :: (between ++ second :: after)))
    (timely : Timely tracker.clear (before ++ first :: (between ++ second :: after)))
    (numbered : first.observationId = some observationId)
    (same : second.observationId = some observationId)
    (absent : ∀ arrival ∈ before, arrival.observationId ≠ some observationId) :
    ((tracker.clear.observeAll (before ++ first :: between)).observe second).1 = false := by
  have pushed : tracker.clear.observeAll (before ++ [first]) =
      (tracker.clear.observeAll before).push ⟨observationId, first.origin⟩ := by
    rw [observeAll_append]
    exact congrArg Prod.snd (observe_first numbered absent)
  have few := timely before first between second after rfl (by rw [numbered]; rfl)
    (same.trans numbered.symm)
  rw [List.append_cons, observeAll_append]
  rw [pushed] at few ⊢
  have held := (Held.of_push (tracker.clear.observeAll before) ⟨observationId, first.origin⟩)
  have kept := held.observeAll (once.not_between numbered same) (by rwa [Nat.zero_add])
  exact rejected_of_partner kept same (once.opposite numbered same)

end Pairs

section Accepted

variable {tracker : IncomingTracker} {arrivals : List Arrival}

/-- An accepted arrival was new to the tracker when it came. -/
theorem new_of_mem_accepted {arrival : Arrival} (taken : arrival ∈ tracker.accepted arrivals) :
    ∃ before after, arrivals = before ++ arrival :: after ∧
      ((tracker.observeAll before).observe arrival).1 = true := by
  induction arrivals generalizing tracker with
  | nil => cases taken
  | cons head rest ih =>
    rw [accepted] at taken
    by_cases new : (tracker.observe head).1 = true
    · rw [if_pos new] at taken
      rcases List.mem_cons.mp taken with rfl | later
      · exact ⟨[], rest, rfl, new⟩
      · obtain ⟨before, after, rfl, found⟩ := ih later
        exact ⟨head :: before, after, rfl, found⟩
    · rw [if_neg new] at taken
      obtain ⟨before, after, rfl, found⟩ := ih taken
      exact ⟨head :: before, after, rfl, found⟩

/-- Of the arrivals of an id, the first one is accepted and no other. -/
theorem accepted_of_id (once : OncePerOrigin arrivals) (timely : Timely tracker.clear arrivals)
    (observationId : UInt64) :
    (tracker.clear.accepted arrivals).filter (·.observationId = some observationId) =
      (arrivals.find? (·.observationId = some observationId)).toList := by
  cases found : arrivals.find? (·.observationId = some observationId) with
  | none =>
    refine List.filter_eq_nil_iff.mpr fun arrival taken => ?_
    exact List.find?_eq_none.mp found arrival ((accepted_sublist _ _).subset taken)
  | some first =>
    obtain ⟨chosen, before, after, rfl, others⟩ := List.find?_eq_some_iff_append.mp found
    have numbered := of_decide_eq_true chosen
    have absent : ∀ arrival ∈ before, arrival.observationId ≠ some observationId :=
      fun arrival inside => by simpa using others arrival inside
    have new : ((tracker.clear.observeAll before).observe first).1 = true :=
      congrArg Prod.fst (observe_first numbered absent)
    have earlier : (tracker.clear.accepted before).filter
        (·.observationId = some observationId) = [] := by
      refine List.filter_eq_nil_iff.mpr fun arrival taken => ?_
      simpa using absent arrival ((accepted_sublist _ _).subset taken)
    have later : (((tracker.clear.observeAll before).observe first).2.accepted after).filter
        (·.observationId = some observationId) = [] := by
      refine List.filter_eq_nil_iff.mpr fun arrival taken same => ?_
      obtain ⟨between, rest, rfl, accepted⟩ := new_of_mem_accepted taken
      have rejected := rejected_second once timely numbered (of_decide_eq_true same) absent
      rw [observeAll_append] at rejected
      exact absurd (accepted.symm.trans rejected) (by decide)
    rw [accepted_append, List.filter_append, earlier, accepted, if_pos new, List.filter_cons,
      if_pos chosen, later]
    rfl

end Accepted

/-- After a clear, let every id arrive at most once per origin, and let fewer occurrences be
pushed between its two arrivals than the queue has places. Then of the arrivals of an id the
first one is accepted, whatever its origin, and no other; an arrival without an id is accepted;
one that is rejected has its id in common with an accepted arrival before it, of the other
origin; and the queue never holds more than its capacity. -/
theorem accepts_exactly_once (tracker : IncomingTracker) (arrivals : List Arrival)
    (once : OncePerOrigin arrivals) (timely : Timely tracker.clear arrivals) :
    (∀ observationId,
      (tracker.clear.accepted arrivals).filter (·.observationId = some observationId) =
        (arrivals.find? (·.observationId = some observationId)).toList) ∧
    (∀ before arrival after, arrivals = before ++ arrival :: after →
      (arrival.observationId = none →
        ((tracker.clear.observeAll before).observe arrival).1 = true) ∧
      (((tracker.clear.observeAll before).observe arrival).1 = false →
        ∃ partner ∈ tracker.clear.accepted before,
          partner.observationId = arrival.observationId ∧ partner.origin ≠ arrival.origin)) ∧
    ∀ before after, arrivals = before ++ after →
      (tracker.clear.observeAll before).occurrences.length ≤ 256 := by
  refine ⟨accepted_of_id once timely, fun before arrival after _ => ⟨?_, ?_⟩, ?_⟩
  · intro unnumbered
    rw [observe_of_none _ unnumbered]
  · intro rejected
    obtain ⟨partner, inside, same, opposite⟩ := partner_of_rejected rejected
    rcases mem_observeAll inside with impossible | taken
    · cases impossible
    · exact ⟨_, taken, same.symm, opposite⟩
  · intro before after _
    exact length_observeAll_le (Nat.zero_le _) before

/-- Two messages seen in both ways, one of each kind first, and one without an id. -/
def sampleArrivals : List Arrival :=
  [⟨some 7, .live⟩, ⟨some 8, .queue⟩, ⟨none, .live⟩, ⟨some 7, .queue⟩, ⟨some 8, .live⟩]

theorem sample_accepted_once :
    OncePerOrigin sampleArrivals ∧ Timely (clear {}) sampleArrivals ∧
      (accepted (clear {}) sampleArrivals).filter (·.observationId = some 8) =
        [⟨some 8, .queue⟩] := by
  have once : OncePerOrigin sampleArrivals := by decide
  have timely : Timely (clear {}) sampleArrivals := timely_of_short _ (by decide)
  exact ⟨once, timely, (accepts_exactly_once {} sampleArrivals once timely).1 8⟩

end IncomingTracker

end Meshquill.Cli
