import Meshquill.Cli.Services
import Meshquill.Protocol.Accepted
import Meshquill.Store.Within

/-!
# Recording what comes over the air

The history takes a text of 1 to 1024 bytes without NUL, and a peer of 1 to 256 bytes without NUL.
The packet parser asks less: it accepts a message with an empty text or with NUL in it, and a
contact with an empty name. Such a message cannot be recorded, and neither can a message that was
sent to such a contact, which a key prefix finds.

`air_data_recorded_iff` says exactly when the history records a message that was received or
sent. Nothing else in a packet is in the way: the label of a source, a name within its 32 bytes
and a destination that names a contact pass.
-/
namespace Meshquill.Cli

open Checks Hooks Store

/-! ## Labels -/

theorem textFits_append {label rest : String} (labelled : label ≠ "") (left : AsciiText label)
    (right : AsciiText rest) (short : label.utf8ByteSize + rest.utf8ByteSize ≤ 256) :
    TextFits 256 (label ++ rest) where
  nonempty empty := labelled (String.append_eq_empty_iff.mp empty).1
  short := by
    rw [String.utf8ByteSize_append]
    exact short
  noNul := (left.append right).noNul

/-- The label of the source of an accepted message. -/
theorem textFits_messageSource {message : Message} (accepted : message.Accepted) :
    TextFits 256 (messageSource message) := by
  unfold messageSource
  split
  · rename_i pubkeyPrefix direct
    obtain ⟨key, rfl⟩ := accepted.keyed pubkeyPrefix direct
    refine textFits_append (by decide) (by simp [AsciiText]) (asciiText_hexEncode _) ?_
    rw [utf8ByteSize_hexEncode, key.property]
    decide
  · rename_i channelIdx _
    refine textFits_append (by decide) (by simp [AsciiText]) (asciiText_toString _) ?_
    exact Nat.le_trans (Nat.add_le_add_left (fits_byte channelIdx).short _) (by decide)

variable {contact : Contact} {lowercase : String → String} {contacts : List Contact}
  {query : String}

/-- The name of an accepted contact, unless it is empty. -/
theorem textFits_advName (accepted : contact.Accepted) :
    TextFits 256 contact.advName ↔ contact.advName ≠ "" :=
  ⟨fun fits => fits.nonempty,
    fun nonempty => ⟨nonempty, Nat.le_trans accepted.short (by decide), accepted.noNul⟩⟩

/-- A query that finds a contact is its name or begins its key. -/
theorem resolveContact_by (resolved : resolveContact lowercase contacts query = .ok contact) :
    contact.advName = query ∨
      (query.toList.all isAsciiHexdigit = true ∧ contact.hasKeyPrefix query.toLower = true) := by
  rcases resolveContact_eq_ok.mp resolved with named | ⟨_, _, digits, matched⟩
  · have found := List.mem_filter.mp (named ▸ List.mem_singleton_self contact)
    exact .inl (of_decide_eq_true found.2)
  · have found := List.mem_filter.mp (matched ▸ List.mem_singleton_self contact)
    exact .inr ⟨digits, found.2⟩

theorem ascii_of_isAsciiHexdigit {char : Char} (digit : isAsciiHexdigit char = true) :
    0 < char.val.toNat ∧ char.val.toNat < 128 := by
  have between : ∀ {low high : Char}, low ≤ char → char ≤ high →
      low.val.toNat ≤ char.val.toNat ∧ char.val.toNat ≤ high.val.toNat := fun above below =>
    ⟨UInt32.le_iff_toNat_le.mp above, UInt32.le_iff_toNat_le.mp below⟩
  simp only [isAsciiHexdigit, Bool.or_eq_true, Bool.and_eq_true, decide_eq_true_eq] at digit
  rcases digit with (⟨above, below⟩ | ⟨above, below⟩) | ⟨above, below⟩
  all_goals
    obtain ⟨low, high⟩ := between above below
    exact ⟨Nat.lt_of_lt_of_le (by decide) low, Nat.lt_of_le_of_lt high (by decide)⟩

/-- A query that finds an accepted contact, unless it is empty. -/
theorem textFits_query (accepted : contact.Accepted)
    (resolved : resolveContact lowercase contacts query = .ok contact) :
    TextFits 256 query ↔ query ≠ "" := by
  rcases resolveContact_by resolved with rfl | ⟨digits, begins⟩
  · exact textFits_advName accepted
  · refine ⟨fun fits => fits.nonempty, fun nonempty => ?_⟩
    have ascii : AsciiText query := fun char inside =>
      ascii_of_isAsciiHexdigit (List.all_eq_true.mp digits char inside)
    have within := (List.isPrefixOf_iff_prefix.mp begins).length_le
    change (query.map Char.toLower).toList.length ≤ _ at within
    rw [String.toList_map, List.length_map, toList_hexEncode, length_hexDigits,
      contact.publicKey.property] at within
    exact ⟨nonempty, ascii.utf8ByteSize_eq ▸ Nat.le_trans within (by decide), ascii.noNul⟩

/-! ## Records -/

/-- The service stops with an error of the history. -/
def HistoryFails {α : Type} (exit : Exit CliError α) : Prop :=
  ∃ error, exit = .failed (.ofStore error)

/-- The service stores the entry, and the history does not fail. -/
structure Recorded {α : Type} (json : Json) (store : HistoryStore) (entry : HistoryEntry)
    (service : ServiceM α) (disk : Disk) : Prop where
  unfailing : ¬ HistoryFails (service disk).1
  stored : ∃ before, loadable json store disk = .done before ∧
    loadable json store (service disk).2 = .done (store.upserted entry before)

/-- The service changes the entry with this identifier, if there is one, and the history does not
fail. -/
structure Changed {α : Type} (json : Json) (store : HistoryStore) (id : Uuid)
    (change : HistoryEntry → HistoryEntry) (service : ServiceM α) (disk : Disk) : Prop where
  unfailing : ¬ HistoryFails (service disk).1
  stored : ∃ before, loadable json store disk = .done before ∧
    loadable json store (service disk).2 =
      .done (before.map fun entry => if entry.id = id then change entry else entry)

/-- The time of the host can be recorded. -/
def Representable (now : Int) : Prop := 0 ≤ now ∧ now < 18446744073709551616

/-- An entry at a time of the host that can be recorded. -/
def drafted (now : Int) (id : Uuid) (direction : HistoryDirection) (peer : String)
    (channel : Option UInt8) (text : String) (status : HistoryStatus) : HistoryEntry :=
  { version := historyFormatVersion, id, recordedAtUnixMs := UInt64.ofNat now.toNat, direction
    peer, channel, text, status, acknowledgement := none }

/-- What is recorded of an incoming message. -/
def incomingEntry (now : Int) (id : Uuid) (message : Message) : HistoryEntry :=
  drafted now id .incoming (messageSource message) (messageChannel message) message.text .received

/-- What is recorded of a direct message before it is sent. -/
def outgoingEntry (now : Int) (id : Uuid) (peer text : String) : HistoryEntry :=
  drafted now id .outgoing peer none text .pending

section Records

variable {json : Json} {store : HistoryStore} {disk : Disk} {now : Int} {id fresh : Uuid}
  {direction : HistoryDirection} {peer text : String} {channel : Option UInt8}
  {status : HistoryStatus} {legacy canonical entries : List HistoryEntry}

/-- Hooks do not report errors of the history. -/
theorem ofHook_ne_ofStore (error : HookError) (other : StoreError) :
    CliError.ofHook error ≠ .ofStore other := by
  intro same
  have statuses := congrArg CliError.status same
  cases other <;> cases statuses

/-- The service leaves the disk alone and does not report an error of the history. -/
def Aside {α : Type} (service : ServiceM α) : Prop :=
  ∀ disk, (service disk).2 = disk ∧ ¬ HistoryFails (service disk).1

theorem aside_notify (services : WorkflowServices) (event : HookEvent) :
    Aside (services.notify event) := by
  intro disk
  unfold WorkflowServices.notify
  cases services.dispatch with
  | none => exact ⟨rfl, nofun⟩
  | some dispatch =>
    simp only
    cases dispatch event with
    | ok => exact ⟨rfl, nofun⟩
    | error error =>
      refine ⟨rfl, ?_⟩
      rintro ⟨other, same⟩
      exact ofHook_ne_ofStore error other (Exit.failed.inj same)

variable {α β : Type} {entry : HistoryEntry}

theorem Aside.map {service : ServiceM α} (aside : Aside service) (value : β) :
    Aside (service >>= fun _ => pure value) := by
  intro disk
  obtain ⟨same, unfailing⟩ := aside disk
  rw [Async.bind_apply]
  rcases ran : service disk with ⟨_ | error | _, reached⟩
  all_goals rw [ran] at same unfailing
  · exact ⟨same, nofun⟩
  · exact ⟨same, fun ⟨other, failed⟩ => unfailing ⟨other, congrArg _ (Exit.failed.inj failed)⟩⟩
  · exact ⟨same, nofun⟩

/-- What follows a record and stays aside does not change how it was recorded. -/
theorem Aside.after {first : ServiceM α} {next : α → ServiceM β} {value : α} {reached : Disk}
    (aside : Aside (next value)) (ran : first disk = (.done value, reached)) :
    ((first >>= next) disk).2 = reached ∧ ¬ HistoryFails ((first >>= next) disk).1 := by
  rw [Async.bind_apply, ran]
  exact aside reached

theorem new_eq (now : Int) (fresh : Uuid) (direction : HistoryDirection) (peer : String)
    (channel : Option UInt8) (text : String) (status : HistoryStatus) :
    HistoryEntry.new now fresh direction peer channel text status none = .ok entry ↔
      Representable now ∧ entry = drafted now fresh direction peer channel text status ∧
        entry.Valid := by
  rw [HistoryEntry.new, bind_ok]
  constructor
  · rintro ⟨time, recorded, rest⟩
    obtain ⟨before, rest'⟩ := check_ok.mp recorded
    obtain ⟨after, same⟩ := check_ok.mp rest'
    obtain ⟨valid, made⟩ := check_ok.mp rest
    cases same
    cases made
    exact ⟨⟨of_decide_eq_true (validating_ok.mp before),
      of_decide_eq_true (validating_ok.mp after)⟩, rfl, valid⟩
  · rintro ⟨⟨before, after⟩, rfl, valid⟩
    refine ⟨UInt64.ofNat now.toNat, ?_, check_ok.mpr ⟨valid, rfl⟩⟩
    exact check_ok.mpr ⟨validating_ok.mpr (decide_eq_true before),
      check_ok.mpr ⟨validating_ok.mpr (decide_eq_true after), rfl⟩⟩

/-- A new entry is stored if the time and the texts fit. -/
theorem storeNew_done (fresh : Uuid) (lawful : json.Lawful)
    (contents : Contents json store disk legacy canonical) (timely : Representable now)
    (valid : (drafted now id direction peer channel text status).Valid)
    (roundTrips : ∀ entry ∈ legacy ++ canonical ++
      [drafted now id direction peer channel text status], json.RoundTrips entry) :
    ∃ reached,
      storeNew json noFault store now id fresh direction peer channel text status disk =
        (.done (), reached) ∧
      Settled json store reached
        (store.upserted (drafted now id direction peer channel text status)
          (store.mergeEntries legacy canonical)) := by
  obtain ⟨reached, ran, settled⟩ := contents.upsert lawful valid roundTrips
  have made : HistoryEntry.new now fresh direction peer channel text status none =
      .ok (drafted now fresh direction peer channel text status) :=
    (new_eq ..).mpr ⟨timely, rfl, valid⟩
  refine ⟨reached, ?_, settled⟩
  have stored : storeUpsert json noFault store
      (drafted now id direction peer channel text status) disk = (.done (), reached) := by
    rw [storeUpsert, Async.mapError, ran]
  simp only [storeNew, made]
  exact stored

/-- If they do not fit, the history fails. -/
theorem storeNew_failed (json : Json) (store : HistoryStore) (disk : Disk) (fresh : Uuid)
    (unfit : ¬ (Representable now ∧ (drafted now id direction peer channel text status).Valid)) :
    ∃ error, storeNew json noFault store now id fresh direction peer channel text status disk =
      (.failed (.ofStore error), disk) := by
  cases made : HistoryEntry.new now fresh direction peer channel text status none with
  | ok entry =>
    obtain ⟨timely, rfl, valid⟩ := (new_eq ..).mp made
    exact absurd ⟨timely, valid⟩ unfit
  | error error =>
    refine ⟨error, ?_⟩
    simp only [storeNew, made]
    rfl

/-- A service that stores a new entry and then only tells the hooks records it exactly if the time
and the texts fit. -/
theorem recorded_iff (lawful : json.Lawful) (contents : Contents json store disk legacy canonical)
    (roundTrips : ∀ entry ∈ legacy ++ canonical ++
      [drafted now id direction peer channel text status], json.RoundTrips entry)
    {next : Unit → ServiceM α} (aside : Aside (next ())) :
    Recorded json store (drafted now id direction peer channel text status)
        (storeNew json noFault store now id fresh direction peer channel text status >>= next)
        disk ↔
      Representable now ∧ (drafted now id direction peer channel text status).Valid := by
  constructor
  · intro recorded
    by_contra unfit
    obtain ⟨error, failed⟩ := storeNew_failed json store disk fresh unfit
    refine recorded.unfailing ⟨error, ?_⟩
    rw [Async.bind_apply, failed]
  · rintro ⟨timely, valid⟩
    obtain ⟨reached, ran, settled⟩ := storeNew_done fresh lawful contents timely valid roundTrips
    obtain ⟨same, unfailing⟩ := aside.after ran
    refine ⟨unfailing, _, contents.loadable_eq lawful, ?_⟩
    rw [same]
    exact settled.loadable_eq

/-- The record of a message that was sent. -/
def addressed (destination : String) (ackCode : AckCode) (entry : HistoryEntry) : HistoryEntry :=
  { entry with peer := destination, acknowledgement := some ackCode }

theorem valid_addressed (valid : entry.Valid) (destination : String) (ackCode : AckCode) :
    (addressed destination ackCode entry).Valid ↔ TextFits 256 destination := by
  obtain ⟨version, -, text, directed, -⟩ := HistoryEntry.valid_iff.mp valid
  rw [HistoryEntry.valid_iff]
  exact ⟨fun ⟨_, fits, _⟩ => fits, fun fits => ⟨version, fits, text, directed, fun _ => rfl⟩⟩

theorem loadHistoryEntry_eq (settled : Settled json store disk entries) (id : Uuid) :
    loadHistoryEntry json noFault store id disk = (.done (entries.find? (·.id = id)), disk) := by
  simp only [loadHistoryEntry, loadHistory, Async.bind_apply, Async.mapError, settled.load_eq]
  rfl

theorem storeUpsert_failed {error : StoreError} (refused : entry.validate = .error error) :
    storeUpsert json noFault store entry disk = (.failed (.ofStore error), disk) := by
  rw [storeUpsert, Async.mapError, upsert_of_error refused]

section Sent

variable {services : WorkflowServices} {destination messageId : String} {ackCode : AckCode}

/-- Once the record is changed, only the hooks are told. -/
theorem sent_after {reached : Disk}
    (ran : services.changeRecord json noFault noFault ⟨id, some id⟩
      (.sent destination (some ackCode)) disk = (.done (), reached)) :
    (services.sent json noFault noFault ⟨id, some id⟩ destination text messageId (some ackCode)
        disk).2 = reached ∧
      ¬ HistoryFails (services.sent json noFault noFault ⟨id, some id⟩ destination text messageId
        (some ackCode) disk).1 := by
  unfold WorkflowServices.sent
  refine Aside.after ?_ ran
  exact aside_notify services _

variable (settled : Settled json store disk entries) (enabled : services.historyStore = some store)

include settled enabled

theorem changeRecord_eq (id : Uuid) (change : RecordChange) :
    services.changeRecord json noFault noFault ⟨id, some id⟩ change disk =
      writeChange json noFault store change (entries.find? (·.id = id)) disk := by
  simp only [WorkflowServices.changeRecord, enabled, Async.bind_apply,
    loadHistoryEntry_eq settled id]

/-- A record that the history does not hold is left alone. -/
theorem changed_of_absent (absent : ∀ entry ∈ entries, entry.id ≠ id) :
    Changed json store id (addressed destination ackCode)
      (services.sent json noFault noFault ⟨id, some id⟩ destination text messageId (some ackCode))
      disk := by
  have unfound : entries.find? (·.id = id) = none :=
    List.find?_eq_none.mpr fun entry inside => by simpa using absent entry inside
  have unchanged : (entries.map fun entry =>
      if entry.id = id then addressed destination ackCode entry else entry) = entries := by
    conv_rhs => rw [← List.map_id entries]
    exact List.map_congr_left fun entry inside => if_neg (absent entry inside)
  have ran := changeRecord_eq settled enabled id (.sent destination (some ackCode))
  rw [unfound] at ran
  obtain ⟨same, unfailing⟩ := sent_after ran
  refine ⟨unfailing, entries, settled.loadable_eq, ?_⟩
  rw [same, unchanged]
  exact settled.loadable_eq

variable {stored : HistoryEntry}

theorem changeRecord_eq_storeUpsert (inside : stored ∈ entries)
    (named : stored.id = id) :
    services.changeRecord json noFault noFault ⟨id, some id⟩ (.sent destination (some ackCode))
      disk = storeUpsert json noFault store (addressed destination ackCode stored) disk := by
  have distinct : (entries.map HistoryEntry.id).Nodup :=
    settled.kept ▸ nodup_mergeEntries store [] entries
  have found : entries.find? (·.id = id) = some stored := by
    cases search : entries.find? (·.id = id) with
    | none => simpa [named] using List.find?_eq_none.mp search stored inside
    | some other =>
      have same : other.id = id := by simpa using List.find?_some search
      rw [List.inj_on_of_nodup_map distinct (List.mem_of_find?_eq_some search) inside
        (same.trans named.symm)]
  rw [changeRecord_eq settled enabled, found]
  rfl

/-- A record that the history holds cannot be changed to a destination that does not fit. -/
theorem sent_fails (inside : stored ∈ entries) (named : stored.id = id)
    (unfit : ¬ TextFits 256 destination) :
    HistoryFails (services.sent json noFault noFault ⟨id, some id⟩ destination text messageId
      (some ackCode) disk).1 := by
  cases checked : (addressed destination ackCode stored).validate with
  | ok =>
    have valid := valid_addressed (settled.reads.2 stored inside) destination ackCode
    exact absurd (valid.mp checked) unfit
  | error error =>
    refine ⟨error, ?_⟩
    rw [WorkflowServices.sent, Async.bind_apply,
      changeRecord_eq_storeUpsert settled enabled inside named, storeUpsert_failed checked]

/-- A record that the history holds is changed exactly if the destination fits. -/
theorem changed_of_mem (lawful : json.Lawful) (inside : stored ∈ entries) (named : stored.id = id)
    (roundTrips : ∀ entry ∈ entries ++ [addressed destination ackCode stored],
      json.RoundTrips entry) :
    Changed json store id (addressed destination ackCode)
        (services.sent json noFault noFault ⟨id, some id⟩ destination text messageId
          (some ackCode)) disk ↔ TextFits 256 destination := by
  constructor
  · intro changed
    by_contra unfit
    exact changed.unfailing (sent_fails settled enabled inside named unfit)
  · intro fits
    have valid := (valid_addressed (settled.reads.2 stored inside) destination ackCode).mpr fits
    obtain ⟨reached, wrote, after⟩ := settled.contents.upsert lawful valid roundTrips
    have done : storeUpsert json noFault store (addressed destination ackCode stored) disk =
        (.done (), reached) := by
      rw [storeUpsert, Async.mapError, wrote]
    obtain ⟨same, unfailing⟩ :=
      sent_after ((changeRecord_eq_storeUpsert settled enabled inside named).trans done)
    refine ⟨unfailing, entries, settled.loadable_eq, ?_⟩
    rw [same, after.loadable_eq, settled.kept,
      settled.upserted_eq_map (addressed destination ackCode) inside rfl rfl, named]

end Sent

theorem valid_drafted : (drafted now id direction peer channel text status).Valid ↔
    TextFits 256 peer ∧ TextFits 1024 text ∧
      HistoryEntry.statusMatchesDirection direction status = true ∧ status ≠ .acknowledged := by
  rw [HistoryEntry.valid_iff]
  constructor
  · rintro ⟨-, peerFits, textFits, directed, coded⟩
    refine ⟨peerFits, textFits, directed, fun acknowledged => ?_⟩
    cases coded acknowledged
  · rintro ⟨peerFits, textFits, directed, unacknowledged⟩
    exact ⟨rfl, peerFits, textFits, directed, fun acknowledged => absurd acknowledged unacknowledged⟩

/-! ## Messages and contacts from the air -/

variable {services : WorkflowServices} (fresh) (lawful : json.Lawful)
  (contents : Contents json store disk legacy canonical)
  (enabled : services.historyStore = some store)

include lawful contents enabled

/-- An accepted message is recorded unless its text is empty or contains NUL. -/
theorem incoming_recorded_iff {message : Message} (accepted : message.Accepted)
    (observationId : Option UInt64) {tracker : IncomingTracker} {origin : IncomingOrigin}
    (isNew : (tracker.observe ⟨observationId, origin⟩).1 = true)
    (roundTrips : ∀ entry ∈ legacy ++ canonical ++ [incomingEntry now id message],
      json.RoundTrips entry) :
    Recorded json store (incomingEntry now id message)
        (services.incoming json noFault now id fresh tracker { message with observationId }
          origin).2 disk ↔
      Representable now ∧ message.text ≠ "" ∧ (0 : UInt8) ∉ utf8 message.text := by
  have calls : (services.incoming json noFault now id fresh tracker { message with observationId }
      origin).2 = storeNew json noFault store now id fresh .incoming (messageSource message)
        (messageChannel message) message.text .received >>= fun _ =>
      services.notify (.onMessage (messageSource message) message.text (some (renderUuid id)))
        >>= fun _ => pure (some (renderUuid id)) := by
    simp only [WorkflowServices.incoming, WorkflowServices.recordIncoming, isNew, enabled, if_true]
    rfl
  have aside := (aside_notify services
    (.onMessage (messageSource message) message.text (some (renderUuid id)))).map
    (some (renderUuid id))
  rw [calls, incomingEntry]
  refine (recorded_iff lawful contents roundTrips aside).trans (and_congr_right fun _ => ?_)
  rw [valid_drafted]
  constructor
  · rintro ⟨-, fits, -⟩
    exact ⟨fits.nonempty, fits.noNul⟩
  · rintro ⟨nonempty, noNul⟩
    exact ⟨textFits_messageSource accepted,
      ⟨nonempty, Nat.le_trans accepted.short (by decide), noNul⟩, rfl, nofun⟩

/-- What a direct message begins with is recorded if its texts fit. -/
theorem begun_recorded_iff
    (roundTrips : ∀ entry ∈ legacy ++ canonical ++ [outgoingEntry now id peer text],
      json.RoundTrips entry) :
    Recorded json store (outgoingEntry now id peer text)
        (services.beginOutgoing json noFault now id fresh peer none text) disk ↔
      Representable now ∧ TextFits 256 peer ∧ TextFits 1024 text := by
  have calls : services.beginOutgoing json noFault now id fresh peer none text =
      storeNew json noFault store now id fresh .outgoing peer none text .pending >>= fun _ =>
        pure ⟨id, some id⟩ := by
    simp only [WorkflowServices.beginOutgoing, enabled]
  have aside : Aside (pure ⟨id, some id⟩ : ServiceM OutgoingRecord) := fun _ => ⟨rfl, nofun⟩
  rw [calls, outgoingEntry]
  refine (recorded_iff lawful contents roundTrips aside).trans (and_congr_right fun _ => ?_)
  rw [valid_drafted]
  exact ⟨fun ⟨peerFits, textFits, _⟩ => ⟨peerFits, textFits⟩,
    fun ⟨peerFits, textFits⟩ => ⟨peerFits, textFits, rfl, nofun⟩⟩

theorem beginOutgoing_done (timely : Representable now) (peerFits : TextFits 256 peer)
    (textFits : TextFits 1024 text)
    (roundTrips : ∀ entry ∈ legacy ++ canonical ++ [outgoingEntry now id peer text],
      json.RoundTrips entry) :
    ∃ reached, services.beginOutgoing json noFault now id fresh peer none text disk =
        (.done ⟨id, some id⟩, reached) ∧
      Settled json store reached (store.upserted (outgoingEntry now id peer text)
        (store.mergeEntries legacy canonical)) := by
  have valid : (outgoingEntry now id peer text).Valid :=
    valid_drafted.mpr ⟨peerFits, textFits, rfl, nofun⟩
  obtain ⟨reached, ran, settled⟩ := storeNew_done fresh lawful contents timely valid roundTrips
  refine ⟨reached, ?_, settled⟩
  simp only [WorkflowServices.beginOutgoing, enabled, Async.bind_apply, ran]
  rfl

/-- Once a direct message is begun, its sending is recorded unless the name is empty, which does
no harm if the retention has dropped the new entry. -/
theorem sent_recorded_iff (timely : Representable now) (peerFits : TextFits 256 peer)
    (textFits : TextFits 1024 text) {contact : Contact} (accepted : contact.Accepted)
    (messageId : String) {ackCode : AckCode}
    (roundTrips : ∀ entry ∈ legacy ++ canonical ++ [outgoingEntry now id peer text],
      json.RoundTrips entry)
    (roundTrip : json.RoundTrips
      (addressed contact.advName ackCode (outgoingEntry now id peer text))) :
    Changed json store id (addressed contact.advName ackCode)
        (services.sent json noFault noFault ⟨id, some id⟩ contact.advName text messageId
          (some ackCode))
        (services.beginOutgoing json noFault now id fresh peer none text disk).2 ↔
      contact.advName ≠ "" ∨ outgoingEntry now id peer text ∉
        store.upserted (outgoingEntry now id peer text)
          (store.mergeEntries legacy canonical) := by
  obtain ⟨reached, ran, settled⟩ :=
    beginOutgoing_done fresh lawful contents enabled timely peerFits textFits roundTrips
  have distinct := nodup_mergeEntries store legacy canonical
  rw [ran]
  by_cases kept : outgoingEntry now id peer text ∈
      store.upserted (outgoingEntry now id peer text) (store.mergeEntries legacy canonical)
  · have writtenTrips : ∀ entry ∈ store.upserted (outgoingEntry now id peer text)
        (store.mergeEntries legacy canonical) ++
          [addressed contact.advName ackCode (outgoingEntry now id peer text)],
        json.RoundTrips entry := by
      intro entry inside
      rcases List.mem_append.mp inside with inside | inside
      · rcases mem_upserted distinct inside with rfl | ⟨old, -⟩
        · exact roundTrips _ (by simp)
        · exact roundTrips entry (List.mem_append_left _ (mem_of_mem_retain old))
      · rw [List.mem_singleton.mp inside]
        exact roundTrip
    have named : (outgoingEntry now id peer text).id = id := rfl
    refine (changed_of_mem settled enabled lawful kept named writtenTrips).trans ?_
    rw [textFits_advName accepted]
    simp [kept]
  · refine iff_of_true (changed_of_absent settled enabled fun entry inside => ?_) (.inr kept)
    rcases mem_upserted distinct inside with rfl | ⟨-, other⟩
    · exact absurd inside kept
    · exact other

end Records

/-- The history, without faults of the file system: it records an accepted message exactly if the
text of the message is neither empty nor contains NUL, and a copy that was seen before is not
recorded again. It records a direct message to an accepted contact exactly if the text fits, the
peer it is begun with is not empty, and neither is the name of the contact, unless the retention
drops the entry at once. The peer is the destination as it was given, or the name in a chat. -/
theorem air_data_recorded_iff {json : Json} {store : HistoryStore} {disk : Disk}
    {legacy canonical : List HistoryEntry} (lawful : json.Lawful)
    (contents : Contents json store disk legacy canonical) {services : WorkflowServices}
    (enabled : services.historyStore = some store) (now : Int) (id fresh : Uuid) :
    (∀ raw packet message, Packet.parse raw = .ok packet → packet.message? = some message →
      (∀ entry ∈ legacy ++ canonical ++ [incomingEntry now id message], json.RoundTrips entry) →
      ∀ observationId tracker origin,
        let call := (services.incoming json noFault now id fresh tracker
          { message with observationId } origin).2
        ((tracker.observe ⟨observationId, origin⟩).1 = true →
          (Recorded json store (incomingEntry now id message) call disk ↔
            Representable now ∧ message.text ≠ "" ∧ (0 : UInt8) ∉ utf8 message.text)) ∧
        ((tracker.observe ⟨observationId, origin⟩).1 = false → call = pure none)) ∧
    ∀ raw contact, Packet.parse raw = .ok (.contact contact) →
      ∀ lowercase contacts query, resolveContact lowercase contacts query = .ok contact →
      ∀ peer text messageId ackCode, peer = query ∨ peer = contact.advName →
        (∀ entry ∈ legacy ++ canonical ++ [outgoingEntry now id peer text,
          addressed contact.advName ackCode (outgoingEntry now id peer text)],
          json.RoundTrips entry) →
        let begins := services.beginOutgoing json noFault now id fresh peer none text
        let sends := services.sent json noFault noFault ⟨id, some id⟩ contact.advName text
          messageId (some ackCode)
        (Recorded json store (outgoingEntry now id peer text) begins disk ∧
            Changed json store id (addressed contact.advName ackCode) sends (begins disk).2 ↔
          Representable now ∧ TextFits 1024 text ∧ peer ≠ "" ∧
            (contact.advName ≠ "" ∨ outgoingEntry now id peer text ∉
              store.upserted (outgoingEntry now id peer text)
                (store.mergeEntries legacy canonical))) := by
  constructor
  · intro raw packet message parsed carries roundTrips observationId tracker origin
    constructor
    · intro isNew
      exact incoming_recorded_iff _ lawful contents enabled
        (Packet.accepted_message parsed carries) observationId isNew roundTrips
    · intro seen
      simp [WorkflowServices.incoming, seen]
  · intro raw contact parsed lowercase contacts query resolved peer text messageId ackCode source
      roundTrips
    have accepted := Packet.accepted_contact parsed
    have peerFits : TextFits 256 peer ↔ peer ≠ "" := by
      rcases source with rfl | rfl
      · exact textFits_query accepted resolved
      · exact textFits_advName accepted
    have begunTrips : ∀ entry ∈ legacy ++ canonical ++ [outgoingEntry now id peer text],
        json.RoundTrips entry := by
      intro entry inside
      refine roundTrips entry ?_
      simp only [List.mem_append, List.mem_cons] at inside ⊢
      tauto
    have toldTrip := roundTrips _ (List.mem_append_right _ (.tail _ (.head _)))
    have begun := begun_recorded_iff fresh lawful contents enabled begunTrips
    constructor
    · rintro ⟨recorded, changed⟩
      obtain ⟨timely, fits, textFits⟩ := begun.mp recorded
      exact ⟨timely, textFits, peerFits.mp fits, (sent_recorded_iff fresh lawful contents enabled
        timely fits textFits accepted messageId begunTrips toldTrip).mp changed⟩
    · rintro ⟨timely, textFits, nonempty, named⟩
      have fits := peerFits.mpr nonempty
      exact ⟨begun.mpr ⟨timely, fits, textFits⟩, (sent_recorded_iff fresh lawful contents enabled
        timely fits textFits accepted messageId begunTrips toldTrip).mpr named⟩

/-! ## Samples -/

/-- A message on channel 2. -/
def channelMessage (text : String) : Message where
  observationId := none
  source := .channel 2
  route := .direct
  txtType := 0
  senderTimestamp := 1
  signature := none
  text := text
  snr := none
  status := .received

/-- A chat contact whose key is one repeated byte, as the device lists it. -/
def contactPacket (name : Bytes) : Bytes :=
  3 :: (List.replicate 32 7 ++ [1, 0, 255] ++ List.replicate 64 0 ++
    (name ++ List.replicate (32 - name.length) 0) ++ List.replicate 16 0)

set_option maxRecDepth 4096 in
theorem parse_contactPacket_relay :
    ∃ contact, Packet.parse (contactPacket [114, 101, 108, 97, 121]) = .ok (.contact contact) ∧
      contact.advName = "relay" :=
  ⟨_, rfl, rfl⟩

set_option maxRecDepth 4096 in
theorem parse_contactPacket_unnamed :
    ∃ contact, Packet.parse (contactPacket []) = .ok (.contact contact) ∧ contact.advName = "" ∧
      contact.publicKey.val = List.replicate 32 7 :=
  ⟨_, rfl, rfl, rfl⟩

/-- Services with a history and without hooks. -/
def sampleServices : WorkflowServices := { historyStore := some sampleStore }

theorem contents_blank (json : Json) : Contents json sampleStore Disk.blank [] [] where
  readsCanonical := reads_none json _
  readsLegacy path _ := reads_none json path
  withoutLegacy _ := rfl

/-- Entries of a message, and of a reply to a contact before and after it is sent. -/
def sampleEntries : List HistoryEntry :=
  [incomingEntry 1000 1 (channelMessage "hi"), outgoingEntry 1000 1 "relay" "hello",
    addressed "relay" (.ofBytes 1 2 3 4) (outgoingEntry 1000 1 "relay" "hello")]

theorem greeting_and_reply_recorded :
    (Packet.parse [8, 2, 255, 0, 1, 0, 0, 0, 104, 105] =
        .ok (.channelMsg (channelMessage "hi")) ∧
      Recorded (tableJson sampleEntries) sampleStore (incomingEntry 1000 1 (channelMessage "hi"))
        (sampleServices.incoming (tableJson sampleEntries) noFault 1000 1 2 {}
          (channelMessage "hi") .live).2 Disk.blank) ∧
    ∃ contact, Packet.parse (contactPacket [114, 101, 108, 97, 121]) = .ok (.contact contact) ∧
      let begins := sampleServices.beginOutgoing (tableJson sampleEntries) noFault 1000 1 2 "relay"
        none "hello"
      Recorded (tableJson sampleEntries) sampleStore (outgoingEntry 1000 1 "relay" "hello") begins
          Disk.blank ∧
        Changed (tableJson sampleEntries) sampleStore 1
          (addressed contact.advName (.ofBytes 1 2 3 4))
          (sampleServices.sent (tableJson sampleEntries) noFault noFault ⟨1, some 1⟩
            contact.advName "hello" "message" (some (.ofBytes 1 2 3 4)))
          (begins Disk.blank).2 := by
  have roundTrips : ∀ entry ∈ sampleEntries, (tableJson sampleEntries).RoundTrips entry := by
    unfold Json.RoundTrips
    decide +kernel
  have services : sampleServices.historyStore = some sampleStore := rfl
  have timely : Representable 1000 := ⟨by decide, by decide⟩
  obtain ⟨received, sent⟩ := air_data_recorded_iff (lawful_escapeText _)
    (contents_blank (tableJson sampleEntries)) services 1000 1 2
  constructor
  · have message : Packet.parse [8, 2, 255, 0, 1, 0, 0, 0, 104, 105] =
        .ok (.channelMsg (channelMessage "hi")) := rfl
    have recorded := received _ _ _ message rfl
      (fun entry inside => roundTrips entry (List.mem_singleton.mp inside ▸ List.mem_cons_self))
      none {} .live
    exact ⟨message, (recorded.1 rfl).mpr ⟨timely, by decide, by decide⟩⟩
  · obtain ⟨contact, parsed, named⟩ := parse_contactPacket_relay
    have resolved : resolveContact String.toLower [contact] "relay" = .ok contact := by
      rw [← named]
      exact (resolveContact_advName (List.mem_singleton_self contact)).mpr (by simp)
    refine ⟨contact, parsed, (sent _ _ parsed _ _ _ resolved "relay" "hello" "message"
      (.ofBytes 1 2 3 4) (.inl rfl) ?_).mpr ?_⟩
    · intro entry inside
      rw [named] at inside
      exact roundTrips entry (List.mem_cons_of_mem _ inside)
    · exact ⟨timely, ⟨by decide, by decide, by decide⟩, by decide, .inl (by rw [named]; decide)⟩

/-- A message without a text is not recorded, and a message that was sent to a contact without a
name fails when its sending is recorded. -/
theorem empty_texts_not_recorded :
    (Packet.parse [8, 2, 255, 0, 1, 0, 0, 0] = .ok (.channelMsg (channelMessage "")) ∧
      HistoryFails ((sampleServices.incoming (tableJson []) noFault 1000 1 2 {}
        (channelMessage "") .live).2 Disk.blank).1) ∧
    ∃ contact, Packet.parse (contactPacket []) = .ok (.contact contact) ∧
      resolveContact String.toLower [contact] "07" = .ok contact ∧
      ∃ reached,
        sampleServices.beginOutgoing (tableJson [outgoingEntry 1000 1 "07" "hello"]) noFault 1000 1
          2 "07" none "hello" Disk.blank = (.done ⟨1, some 1⟩, reached) ∧
        HistoryFails (sampleServices.sent (tableJson [outgoingEntry 1000 1 "07" "hello"]) noFault
          noFault ⟨1, some 1⟩ contact.advName "hello" "message" (some (.ofBytes 1 2 3 4))
          reached).1 := by
  constructor
  · refine ⟨rfl, ?_⟩
    have unfit : ¬ (Representable 1000 ∧ (incomingEntry 1000 1 (channelMessage "")).Valid) :=
      fun fits => (valid_drafted.mp fits.2).2.1.nonempty rfl
    obtain ⟨error, failed⟩ := storeNew_failed (tableJson []) sampleStore Disk.blank 2 unfit
    refine ⟨error, ?_⟩
    change ((storeNew (tableJson []) noFault sampleStore 1000 1 2 .incoming
      (messageSource (channelMessage "")) (messageChannel (channelMessage ""))
      (channelMessage "").text .received >>= _) Disk.blank).1 = _
    rw [Async.bind_apply, failed]
  · obtain ⟨contact, parsed, unnamed, key⟩ := parse_contactPacket_unnamed
    have begins : contact.hasKeyPrefix "07".toLower = true := by
      rw [Contact.hasKeyPrefix, key]
      decide +kernel
    have resolved : resolveContact String.toLower [contact] "07" = .ok contact := by
      have digits : ¬ ("07".isEmpty = true ∨ ¬ "07".toList.all isAsciiHexdigit = true) := by
        decide +kernel
      simp only [resolveContact, List.filter_cons, unnamed, List.filter_nil, begins]
      rw [if_neg digits]
      rfl
    have fits : TextFits 256 "07" := ⟨by decide, by decide, by decide⟩
    have roundTrips : ∀ entry ∈ [] ++ [] ++ [outgoingEntry 1000 1 "07" "hello"],
        (tableJson [outgoingEntry 1000 1 "07" "hello"]).RoundTrips entry := by
      unfold Json.RoundTrips
      decide +kernel
    obtain ⟨reached, ran, settled⟩ := beginOutgoing_done 2 (lawful_escapeText _)
      (contents_blank _) (rfl : sampleServices.historyStore = _) ⟨by decide, by decide⟩ fits
      ⟨by decide, by decide, by decide⟩ roundTrips
    have kept : outgoingEntry 1000 1 "07" "hello" ∈
        sampleStore.upserted (outgoingEntry 1000 1 "07" "hello")
          (sampleStore.mergeEntries [] []) := by
      decide +kernel
    refine ⟨contact, parsed, resolved, reached, ran, ?_⟩
    exact sent_fails settled rfl kept rfl fun unnamedFits => unnamedFits.nonempty unnamed

end Meshquill.Cli
