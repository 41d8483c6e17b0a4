import Meshquill.History
import Meshquill.Protocol.Response
import Meshquill.Transport

/-!
# A device that answers in order

A transport with a device behind it. Each command written is answered with a response of its
own, and the packets arrive in the order in which they were sent; the response to a request for
a remote node includes the result that comes later. The device may also send packets of its own
accord. When it answers, what it answers and whether a call resolves in its turn is up to the
environment, but by the type of its choices a response ends only once.

The device keeps what it has sent in `outbox`. The rest is bookkeeping: which write each packet
answers, and what was read when.
-/
namespace Meshquill

/-- A raw packet of a kind that belongs to no response, or that does not parse. -/
structure Unsolicited where
  raw : Bytes
  kind : ∀ packet, Packet.parse raw = .ok packet → packet.isUnsolicited = true

/-- The response to a written payload. -/
structure Response (payload : Bytes) where
  raws : List Bytes
  answers : ∀ code : CommandCode, payload.head? = some code.toU8 → code.Answers raws

namespace Response

/-- No answer. -/
def silence {payload : Bytes} : Response payload := ⟨[], fun _ _ => trivial⟩

/-- An answer in one packet. -/
def single {payload : Bytes} (raw : Bytes) : Response payload :=
  ⟨[raw], fun _ _ => ⟨fun _ _ _ => rfl, trivial⟩⟩

end Response

/-- A packet on its way to the client. An answer names its write, counted from one. -/
inductive Sent where
  | unsolicited (packet : Unsolicited)
  | answer (write : Nat) (raw : Bytes)

namespace Sent

def raw : Sent → Bytes
  | .unsolicited packet => packet.raw
  | .answer _ raw => raw

def answer? : Sent → Option (Nat × Bytes)
  | .unsolicited _ => none
  | .answer write raw => some (write, raw)

end Sent

/-- A packet that was read, and how many writes there were before. -/
structure Reading where
  writes : Nat
  sent : Sent

/-- The device: its unread packets while a session is open, the number of writes, and what was
read, newest first. -/
structure Device where
  outbox : Option (List Sent) := none
  writes : Nat := 0
  reads : List Reading := []

/-- The environment's part of one call: what the device sends by itself before it, how it
answers if this is a write, and whether the call resolves. -/
structure DeviceIo where
  unsolicited : List Unsolicited := []
  answer : (payload : Bytes) → Response payload := fun _ => .silence
  resolves : Bool := true

namespace Device

/-- The unread answers, with the write that each one answers. -/
def pending (device : Device) : List (Nat × Bytes) :=
  (device.outbox.getD []).filterMap Sent.answer?

variable (io : DeviceIo)

/-- What the device sends by itself. -/
def sending : List Sent := io.unsolicited.map .unsolicited

def connect (device : Device) : Call Unit × Device :=
  match device.outbox with
  | some _ => (some (.error (.io .alreadyExists "already connected")), device)
  | none =>
    if io.resolves then (some (.ok ()), { device with outbox := some [] }) else (none, device)

def disconnect (device : Device) : Call Unit × Device :=
  if io.resolves then (some (.ok ()), { device with outbox := none }) else (none, device)

def write (payload : Bytes) (device : Device) : Call Unit × Device :=
  match device.outbox with
  | none => (some (.error .notConnected), device)
  | some outbox =>
    (if io.resolves then some (.ok ()) else none,
      { device with
        outbox := some (outbox ++ sending io ++
          (io.answer payload).raws.map (.answer (device.writes + 1)))
        writes := device.writes + 1 })

def read (device : Device) : Call (Option Bytes) × Device :=
  match device.outbox with
  | none => (some (.error .notConnected), device)
  | some outbox =>
    match outbox ++ sending io with
    | [] => (none, device)
    | sent :: rest =>
      if io.resolves then
        (some (.ok (some sent.raw)),
          { device with
            outbox := some rest
            reads := { writes := device.writes, sent } :: device.reads })
      else (none, { device with outbox := some (sent :: rest) })

end Device

instance : Transport Device DeviceIo where
  connect := Device.connect
  disconnect := Device.disconnect
  write := Device.write
  read := Device.read
  reconnect := reconnectByDefault Device.connect Device.disconnect

/-- The packets that the device has sent and that are still unread. -/
def Device.inbound (device : Device) : List Bytes := (device.outbox.getD []).map Sent.raw

theorem Device.cancellationSafe : CancellationSafe Device.inbound where
  reads io device next raw ran := by
    cases opened : device.outbox with
    | none => simp [Transport.read, Device.read, opened] at ran
    | some outbox =>
      cases unread : outbox ++ Device.sending io with
      | nil => simp [Transport.read, Device.read, opened, unread] at ran
      | cons sent rest =>
        cases resolves : io.resolves with
        | false => simp [Transport.read, Device.read, opened, unread, resolves] at ran
        | true =>
          obtain ⟨rfl, rfl⟩ : sent.raw = raw ∧ _ = next := by
            simpa [Transport.read, Device.read, opened, unread, resolves] using ran
          refine ⟨(Device.sending io).map Sent.raw, ?_⟩
          simp [Device.inbound, opened, ← List.map_append, unread]
  drops io device next ran := by
    cases opened : device.outbox with
    | none => simp [Transport.read, Device.read, opened] at ran
    | some outbox =>
      cases unread : outbox ++ Device.sending io with
      | nil =>
        obtain rfl : device = next := by
          simpa [Transport.read, Device.read, opened, unread] using ran
        exact ⟨[], List.append_nil _⟩
      | cons sent rest =>
        cases resolves : io.resolves with
        | true => simp [Transport.read, Device.read, opened, unread, resolves] at ran
        | false =>
          obtain rfl : _ = next := by
            simpa [Transport.read, Device.read, opened, unread, resolves] using ran
          refine ⟨(Device.sending io).map Sent.raw, ?_⟩
          simp [Device.inbound, opened, ← List.map_append, unread]

/-! ## What is owed -/

/-- If this packet is an answer, then to the last write before it was read, and to one of those
after the first `start`. -/
def Reading.Own (start : Nat) (reading : Reading) : Prop :=
  ∀ write raw, reading.sent = .answer write raw → write = reading.writes ∧ start < write

/-- Since the operation began with this device, only answers to its own writes were read. -/
structure Owned (opening device : Device) : Prop where
  own : History.Adds (Reading.Own opening.writes) opening.reads device.reads
  counted : opening.writes ≤ device.writes

/-- Moreover, the unread answers are these, all to the operation's last write. -/
structure Owing (opening : Device) (raws : List Bytes) (device : Device) : Prop extends
    Owned opening device where
  pending : device.pending = raws.map (Prod.mk device.writes)
  later : raws = [] ∨ opening.writes < device.writes

theorem Owned.refl (device : Device) : Owned device device := ⟨.refl _, Nat.le_refl _⟩

namespace Owing

variable {opening device : Device} {raws : List Bytes}

/-- What the device sends by itself is not owed. -/
theorem filterMap_sending (io : DeviceIo) : (Device.sending io).filterMap Sent.answer? = [] := by
  refine List.filterMap_eq_nil_iff.mpr fun sent inside => ?_
  obtain ⟨packet, -, rfl⟩ := List.mem_map.mp inside
  rfl

/-- After a write, its response is owed. -/
theorem write (owing : Owing opening [] device) (io : DeviceIo) (payload : Bytes) :
    (device.outbox = none ∧
        Device.write io payload device = (some (.error .notConnected), device)) ∨
      ((Device.write io payload device).1 = (if io.resolves then some (.ok ()) else none) ∧
        Owing opening (io.answer payload).raws (Device.write io payload device).2) := by
  cases unread : device.outbox with
  | none => exact .inl ⟨rfl, by simp [Device.write, unread]⟩
  | some outbox =>
    have nothing : outbox.filterMap Sent.answer? = [] := by
      simpa [Device.pending, unread] using owing.pending
    refine .inr ⟨by simp [Device.write, unread], ⟨?_, ?_⟩, ?_, ?_⟩
    · simpa [Device.write, unread] using owing.own
    · simpa [Device.write, unread] using Nat.le_succ_of_le owing.counted
    · simp [Device.write, unread, Device.pending, nothing, filterMap_sending,
        List.filterMap_map, Function.comp_def, Sent.answer?]
    · have earlier : opening.writes < device.writes + 1 := Nat.lt_succ_of_le owing.counted
      exact .inr (by simpa [Device.write, unread] using earlier)

/-- A closed session owes nothing. -/
theorem closed (owing : Owing opening raws device) (unread : device.outbox = none) :
    Owing opening [] device :=
  ⟨owing.toOwned, by simp [Device.pending, unread], .inl rfl⟩

/-- Sending by itself changes nothing that is owed. -/
theorem sends (owing : Owing opening raws device) {outbox : List Sent}
    (unread : device.outbox = some outbox) (io : DeviceIo) :
    Owing opening raws { device with outbox := some (outbox ++ Device.sending io) } := by
  refine ⟨⟨owing.own, owing.counted⟩, ?_, owing.later⟩
  simpa [Device.pending, unread, filterMap_sending] using owing.pending

/-- The next packet is read. -/
theorem take {sent : Sent} {rest : List Sent}
    (owing : Owing opening raws { device with outbox := some (sent :: rest) }) :
    let next : Device :=
      { device with
        outbox := some rest
        reads := { writes := device.writes, sent } :: device.reads }
    (∃ packet, sent = .unsolicited packet ∧ Owing opening raws next) ∨
      ∃ more, raws = sent.raw :: more ∧ Owing opening more next := by
  intro next
  have pending := owing.pending
  cases sent with
  | unsolicited packet =>
    exact .inl ⟨packet, rfl, ⟨.cons (fun _ _ => nofun) owing.own, owing.counted⟩, pending,
      owing.later⟩
  | answer write raw =>
    cases raws with
    | nil => simp [Device.pending, Sent.answer?] at pending
    | cons first more =>
      have after : opening.writes < device.writes := owing.later.resolve_left (by simp)
      obtain ⟨⟨rfl, rfl⟩, others⟩ : (write = device.writes ∧ raw = first) ∧
          rest.filterMap Sent.answer? = more.map (Prod.mk device.writes) := by
        simpa [Device.pending, Sent.answer?] using pending
      refine .inr ⟨more, rfl, ⟨.cons ?_ owing.own, owing.counted⟩, others, .inr after⟩
      rintro write raw ⟨⟩
      exact ⟨rfl, after⟩

/-- A new session begins with nothing owed. -/
theorem connect (owing : Owing opening [] device) (io : DeviceIo) :
    Owing opening [] (Device.connect io device).2 := by
  unfold Device.connect
  split
  · exact owing
  · split
    · exact ⟨⟨owing.own, owing.counted⟩, rfl, .inl rfl⟩
    · exact owing

end Owing

namespace Owned

variable {opening device : Device}

/-- Closing the session ends what is owed, to whichever write. -/
theorem disconnect (owned : Owned opening device) (io : DeviceIo) :
    Device.disconnect io device = (none, device) ∨
      (Device.disconnect io device).1 = some (.ok ()) ∧
        Owing opening [] (Device.disconnect io device).2 := by
  unfold Device.disconnect
  split
  · exact .inr ⟨rfl, ⟨owned.own, owned.counted⟩, rfl, .inl rfl⟩
  · exact .inl rfl

theorem reconnect (owned : Owned opening device) (io : DeviceIo) :
    Transport.reconnect io device = (none, device) ∨
      Owing opening [] (Transport.reconnect io device).2 := by
  have same : Transport.reconnect io device =
      reconnectByDefault Device.connect Device.disconnect io device := rfl
  rw [same, reconnectByDefault]
  rcases owned.disconnect io with unresolved | ⟨closed, owing⟩
  · exact .inl (by rw [unresolved])
  · rcases ran : Device.disconnect io device with ⟨result, next⟩
    rw [ran] at closed owing
    obtain rfl : result = some (.ok ()) := closed
    exact .inr (owing.connect io)

end Owned

/-- What a read gives while these answers are owed. -/
inductive Delivery (opening : Device) (raws : List Bytes) :
    Call (Option Bytes) × Device → Prop
  | unresolved {device : Device} (owing : Owing opening raws device) :
      Delivery opening raws (none, device)
  | closed {device : Device} (owing : Owing opening [] device) :
      Delivery opening raws (some (.error .notConnected), device)
  | unsolicited {device : Device} (packet : Unsolicited) (owing : Owing opening raws device) :
      Delivery opening raws (some (.ok (some packet.raw)), device)
  | answer {device : Device} (raw : Bytes) (rest : List Bytes) (first : raws = raw :: rest)
      (owing : Owing opening rest device) : Delivery opening raws (some (.ok (some raw)), device)

theorem Owing.read {opening device : Device} {raws : List Bytes}
    (owing : Owing opening raws device) (io : DeviceIo) :
    Delivery opening raws (Device.read io device) := by
  unfold Device.read
  split
  · rename_i unread
    exact .closed (owing.closed unread)
  · rename_i outbox unread
    have sends := owing.sends unread io
    split
    · exact .unresolved owing
    · rename_i sent rest queue
      rw [queue] at sends
      split
      · rcases sends.take with ⟨packet, rfl, owing⟩ | ⟨more, first, owing⟩
        · exact .unsolicited packet owing
        · exact .answer sent.raw more first owing
      · exact .unresolved sends

end Meshquill
