import Meshquill.Newest

/-!
# Channels

A first-in first-out queue with room for a fixed number of values. The bound is a field, so a
channel never holds more. A send has no result while the channel is full: its sender waits.

Every receiver of a broadcast channel sees the values sent after it was made. The channel keeps
a bounded number of values: a receiver that has more of them to read is told how many were
overwritten and goes on with the oldest one kept. A receiver of a channel without senders reads
what is left and is then told that the channel is closed.

`Accounted` is the law of a receiver. It reads the log of all values sent from one position on,
and whatever it does not read it is told the number of.

Nothing here names a particular program.
-/
namespace Meshquill

/-- The values on their way, oldest first. -/
structure Channel (capacity : Nat) (α : Type) where
  items : List α
  bounded : items.length ≤ capacity

namespace Channel

variable {capacity : Nat} {α : Type}

def empty : Channel capacity α := ⟨[], Nat.zero_le _⟩

/-- There is no free place. -/
def Full (channel : Channel capacity α) : Prop := channel.items.length = capacity

instance (channel : Channel capacity α) : Decidable channel.Full :=
  inferInstanceAs (Decidable (_ = _))

def send (value : α) (channel : Channel capacity α) : Option (Channel capacity α) :=
  if room : channel.items.length < capacity then
    some ⟨channel.items ++ [value], by rwa [List.length_append]⟩
  else none

def recv (channel : Channel capacity α) : Option (α × Channel capacity α) :=
  match channel with
  | ⟨[], _⟩ => none
  | ⟨value :: rest, bounded⟩ => some (value, ⟨rest, Nat.le_of_succ_le bounded⟩)

variable {channel rest : Channel capacity α} {value : α}

theorem send_of_full (full : channel.Full) (value : α) : channel.send value = none :=
  dif_neg (Nat.not_lt.mpr (Nat.le_of_eq full.symm))

theorem send_of_room (room : channel.items.length < capacity) (value : α) :
    ∃ sent, channel.send value = some sent ∧ sent.items = channel.items ++ [value] :=
  ⟨_, dif_pos room, rfl⟩

theorem items_of_send {sent : Channel capacity α} (sends : channel.send value = some sent) :
    sent.items = channel.items ++ [value] := by
  unfold send at sends
  split at sends
  · exact congrArg items (Option.some.inj sends).symm
  · cases sends

theorem items_of_recv (receives : channel.recv = some (value, rest)) :
    channel.items = value :: rest.items := by
  obtain ⟨_ | ⟨first, others⟩, bounded⟩ := channel
  · cases receives
  · obtain ⟨rfl, rfl⟩ := Prod.mk.inj (Option.some.inj receives)
    rfl

theorem recv_of_items {others : List α} (items : channel.items = value :: others) :
    ∃ rest, channel.recv = some (value, rest) ∧ rest.items = others := by
  obtain ⟨_ | ⟨first, others⟩, bounded⟩ := channel
  · cases items
  · obtain ⟨rfl, rfl⟩ := List.cons.inj items
    exact ⟨_, rfl, rfl⟩

/-- A channel from which a value was just taken has a free place. -/
theorem not_full_of_recv (receives : channel.recv = some (value, rest)) : ¬ rest.Full := by
  have bounded := channel.bounded
  rw [items_of_recv receives] at bounded
  exact Nat.ne_of_lt bounded

end Channel

/-! ## Broadcast channels -/

namespace Broadcast

/-- What a receiver gets. -/
inductive Received (α : Type) where
  | value (value : α)
  | lagged (skipped : Nat)
  | closed
deriving DecidableEq, Repr

/-- The values sent and not read, oldest first. The channel keeps the newest ones only. -/
structure Receiver (capacity : Nat) (α : Type) where
  unread : List α
  closed : Bool

variable {capacity : Nat} {α : Type}

namespace Receiver

def fresh : Receiver capacity α := ⟨[], false⟩

def send (value : α) (receiver : Receiver capacity α) : Receiver capacity α :=
  { receiver with unread := receiver.unread ++ [value] }

/-- The last sender is gone. -/
def hangUp (receiver : Receiver capacity α) : Receiver capacity α :=
  { receiver with closed := true }

/-- There is no result while the receiver waits for a value. -/
def recv (receiver : Receiver capacity α) : Option (Received α × Receiver capacity α) :=
  if capacity < receiver.unread.length then
    some (.lagged (receiver.unread.length - capacity),
      { receiver with unread := newest capacity receiver.unread })
  else
    match receiver.unread with
    | value :: rest => some (.value value, { receiver with unread := rest })
    | [] => if receiver.closed then some (.closed, receiver) else none

end Receiver

/-! ## The position of a receiver -/

/-- Read from a position of the log on, each value is the one at the position reached. A lag moves
the position by the number of values it reports, and so many are behind it that the channel had
no room for those. -/
def Accounted (capacity : Nat) (log : List α) (position : Nat) : List (Received α) → Prop
  | [] => True
  | .value value :: rest =>
    log[position]? = some value ∧ Accounted capacity log (position + 1) rest
  | .lagged skipped :: rest =>
    (0 < skipped ∧ position + skipped + capacity ≤ log.length) ∧
      Accounted capacity log (position + skipped) rest
  | .closed :: rest => Accounted capacity log position rest

/-- The position after what was received. -/
def advance (position : Nat) : List (Received α) → Nat
  | [] => position
  | .value _ :: rest => advance (position + 1) rest
  | .lagged skipped :: rest => advance (position + skipped) rest
  | .closed :: rest => advance position rest

/-- The number of values reported as overwritten. -/
def skipped : List (Received α) → Nat
  | [] => 0
  | .value _ :: rest => skipped rest
  | .lagged skipped :: rest => skipped + Broadcast.skipped rest
  | .closed :: rest => skipped rest

/-- Nothing of it is a value. -/
def Valueless (received : List (Received α)) : Prop := ∀ value, Received.value value ∉ received

section Accounting

variable {log : List α} {position : Nat} {first second : List (Received α)}

theorem accounted_append :
    Accounted capacity log position (first ++ second) ↔
      Accounted capacity log position first ∧
        Accounted capacity log (advance position first) second := by
  induction first generalizing position with
  | nil => simp [Accounted, advance]
  | cons received rest ih =>
    cases received <;> simp [Accounted, advance, ih, and_assoc]

/-- Without values the position moves by the reported losses only. -/
theorem advance_of_valueless (position : Nat) {received : List (Received α)}
    (valueless : Valueless received) : advance position received = position + skipped received := by
  induction received generalizing position with
  | nil => rfl
  | cons head rest ih =>
    have others : Valueless rest := fun value inside => valueless value (List.mem_cons_of_mem _ inside)
    cases head with
    | value value => exact absurd List.mem_cons_self (valueless value)
    | lagged count => rw [advance, skipped, ih _ others, Nat.add_assoc]
    | closed => rw [advance, skipped, ih _ others]

/-- What is accounted for stays so when the log grows. -/
theorem Accounted.grow {received : List (Received α)}
    (accounted : Accounted capacity log position received) (more : List α) :
    Accounted capacity (log ++ more) position received := by
  induction received generalizing position with
  | nil => trivial
  | cons head rest ih =>
    cases head with
    | value value =>
      obtain ⟨here, others⟩ := accounted
      refine ⟨?_, ih others⟩
      rw [List.getElem?_append_left (List.getElem?_eq_some_iff.mp here).1, here]
    | lagged count =>
      obtain ⟨⟨positive, many⟩, others⟩ := accounted
      refine ⟨⟨positive, Nat.le_trans many ?_⟩, ih others⟩
      rw [List.length_append]
      exact Nat.le_add_right _ _
    | closed => exact ih accounted

/-- Reading all of the log from a position on. -/
theorem accounted_drop (log : List α) (position : Nat) :
    Accounted capacity log position ((log.drop position).map Received.value) := by
  generalize left : log.drop position = rest
  induction rest generalizing position with
  | nil => trivial
  | cons value others ih =>
    have inside : position < log.length := by
      by_contra beyond
      rw [List.drop_eq_nil_of_le (Nat.le_of_not_lt beyond)] at left
      cases left
    rw [List.drop_eq_getElem_cons inside] at left
    obtain ⟨rfl, behind⟩ := List.cons.inj left
    exact ⟨List.getElem?_eq_getElem inside, ih (position + 1) behind⟩

theorem advance_values (position : Nat) (values : List α) :
    advance position (values.map Received.value) = position + values.length := by
  induction values generalizing position with
  | nil => rfl
  | cons value rest ih =>
    rw [List.map_cons, advance, ih, List.length_cons]
    omega

end Accounting

namespace Receiver

variable {log : List α} {position : Nat} {receiver : Receiver capacity α}

/-- What the receiver has not read is the log from this position on. -/
structure At (log : List α) (position : Nat) (receiver : Receiver capacity α) : Prop where
  unread : receiver.unread = log.drop position
  within : position ≤ log.length

theorem at_fresh (log : List α) : At log log.length (fresh : Receiver capacity α) :=
  ⟨List.drop_length.symm, Nat.le_refl _⟩

namespace At

theorem send (placed : At log position receiver) (value : α) :
    At (log ++ [value]) position (receiver.send value) where
  unread := by rw [Receiver.send, placed.unread, List.drop_append_of_le_length placed.within]
  within := by
    rw [List.length_append]
    exact Nat.le_add_right_of_le placed.within

theorem hangUp (placed : At log position receiver) : At log position receiver.hangUp :=
  ⟨placed.unread, placed.within⟩

/-- One result is accounted for, and the receiver stands at the position after it. -/
theorem recv (placed : At log position receiver) {received : Received α}
    {rest : Receiver capacity α} (receives : receiver.recv = some (received, rest)) :
    Accounted capacity log position [received] ∧ At log (advance position [received]) rest := by
  have length : receiver.unread.length = log.length - position := by
    rw [placed.unread, List.length_drop]
  have within := placed.within
  unfold Receiver.recv at receives
  split at receives
  case isTrue overrun =>
    obtain ⟨rfl, rfl⟩ := Prod.mk.inj (Option.some.inj receives)
    refine ⟨⟨⟨Nat.sub_pos_of_lt overrun, ?_⟩, trivial⟩, ?_, ?_⟩
    · omega
    · rw [newest, length, placed.unread, List.drop_drop]
      rfl
    · change position + (receiver.unread.length - capacity) ≤ log.length
      omega
  case isFalse =>
    split at receives
    case h_1 value others split =>
      obtain ⟨rfl, rfl⟩ := Prod.mk.inj (Option.some.inj receives)
      have here := placed.unread.symm.trans split
      have inside : position < log.length := by
        rw [split, List.length_cons] at length
        omega
      rw [List.drop_eq_getElem_cons inside] at here
      obtain ⟨rfl, rfl⟩ := List.cons.inj here
      exact ⟨⟨List.getElem?_eq_getElem inside, trivial⟩, rfl, inside⟩
    case h_2 split =>
      split at receives
      · obtain ⟨rfl, rfl⟩ := Prod.mk.inj (Option.some.inj receives)
        exact ⟨trivial, placed⟩
      · cases receives

end At

/-- A receiver that was not overrun gets its oldest value. -/
theorem recv_of_unread {value : α} {rest : List α} (unread : receiver.unread = value :: rest)
    (fits : receiver.unread.length ≤ capacity) :
    receiver.recv = some (.value value, { receiver with unread := rest }) := by
  rw [recv, if_neg (Nat.not_lt.mpr fits), unread]

end Receiver

end Broadcast

end Meshquill
