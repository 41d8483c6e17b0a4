import Meshquill.Cli.Recorded

/-!
# Status updates while a history is cleared

A status update loads the record, releases the locks, and then writes the changed record in a
second transaction. A clear of another process can take place between the two. The write then
finds no record with its identifier and adds it again: a record that was cleared comes back.

The processes are modelled as a sequence of transactions, each of which the locks make
indivisible. Any number of updates may be between their two transactions, any step of a
transaction may fail, and a process that dies leaves an update that never writes.
`cleared_records_stay_cleared` says that a clear is final if no update is under way when it takes
place.
-/
namespace Meshquill.Cli

open Store

/-! ## Transactions -/

/-- A transaction on the history. -/
inductive HistoryAction where
  /-- Store a new record. -/
  | record (entry : HistoryEntry) (faults : Faults HistoryStore.UpsertStep)
  /-- The first transaction of an update. -/
  | load (update : Nat) (id : Uuid) (change : RecordChange)
      (faults : Faults HistoryStore.LockedLoadStep)
  /-- The second transaction of an update. -/
  | write (update : Nat) (faults : Faults HistoryStore.UpsertStep)
  /-- The clear of another process. -/
  | clear (faults : Faults HistoryStore.LockedClearStep)

/-- What the processes share, and what the updates hold that have loaded their record. -/
structure Shared where
  disk : Disk
  pending : Nat → Option (RecordChange × HistoryEntry)

/-- No update is under way. -/
def Shared.idle (disk : Disk) : Shared := ⟨disk, fun _ => none⟩

/-- The record that a load has found. -/
def foundRecord : Exit CliError (Option HistoryEntry) → Option HistoryEntry
  | .done entry => entry
  | .failed _ => none
  | .dropped => none

def Shared.step (json : Json) (store : HistoryStore) (state : Shared) : HistoryAction → Shared
  | .record entry faults =>
    { state with disk := (storeUpsert json faults store entry state.disk).2 }
  | .load update id change faults =>
    { disk := (loadHistoryEntry json faults store id state.disk).2
      pending := Function.update state.pending update
        ((foundRecord (loadHistoryEntry json faults store id state.disk).1).map (change, ·)) }
  | .write update faults =>
    match state.pending update with
    | none => state
    | some (change, entry) =>
      { disk := (writeChange json faults store change (some entry) state.disk).2
        pending := Function.update state.pending update none }
  | .clear faults => { state with disk := (store.clear faults state.disk).2 }

def Shared.run (json : Json) (store : HistoryStore) (state : Shared)
    (actions : List HistoryAction) : Shared :=
  actions.foldl (Shared.step json store) state

/-- After its second transaction an update is over. -/
theorem pending_write (json : Json) (store : HistoryStore) (state : Shared) (update : Nat)
    (faults : Faults HistoryStore.UpsertStep) :
    (state.step json store (.write update faults)).pending =
      Function.update state.pending update none := by
  cases pending : state.pending update with
  | none =>
    simp only [Shared.step, pending]
    rw [← pending, Function.update_eq_self]
  | some held => simp only [Shared.step, pending]

/-! ## The updates of the services -/

section Updates

variable {json : Json} {services : WorkflowServices} {store : HistoryStore}
  {loading : Faults HistoryStore.LockedLoadStep} {writing : Faults HistoryStore.UpsertStep}

/-- What a change does to the files, as two transactions with nothing in between. -/
def transactions (json : Json) (store : HistoryStore)
    (loading : Faults HistoryStore.LockedLoadStep) (writing : Faults HistoryStore.UpsertStep)
    (id : Uuid) (disk : Disk) (change : RecordChange) : Disk :=
  ((Shared.idle disk).run json store [.load 0 id change loading, .write 0 writing]).disk

/-- A change of a record is its two transactions. -/
theorem changeRecord_transactions (enabled : services.historyStore = some store)
    (messageId id : Uuid) (change : RecordChange) (disk : Disk) :
    (services.changeRecord json loading writing ⟨messageId, some id⟩ change disk).2 =
      transactions json store loading writing id disk change := by
  simp only [WorkflowServices.changeRecord, enabled, Async.bind_apply, transactions, Shared.run,
    List.foldl_cons, List.foldl_nil, Shared.step, Shared.idle, Function.update_self]
  rcases loadHistoryEntry json loading store id disk with ⟨(_ | entry) | error | _, reached⟩
  all_goals rfl

/-- Telling the hooks leaves the disk alone. -/
theorem notify_reaches (event : HookEvent) (disk : Disk) :
    (services.notify event disk).2 = disk := by
  unfold WorkflowServices.notify
  cases services.dispatch with
  | none => rfl
  | some dispatch =>
    dsimp only
    rw [Async.ofExcept_eq_exit]
    rfl

/-- Every update of the status of a record is these two transactions. -/
theorem updates_transactions (enabled : services.historyStore = some store)
    (messageId id : Uuid) (disk : Disk) :
    let update := transactions json store loading writing id disk
    let record : OutgoingRecord := ⟨messageId, some id⟩
    (∀ destination text name ackCode,
      (services.sent json loading writing record destination text name ackCode disk).2 =
        update (.sent destination ackCode)) ∧
    (∀ name source roundTripMs ackCode,
      (services.acknowledged json loading writing record name source roundTripMs ackCode disk).2 =
        update (.acknowledged ackCode)) ∧
    (∀ operation name, (services.timedOut json loading writing record operation name disk).2 =
      update .timedOut) ∧
    (services.failed json loading writing record disk).2 = update .failed := by
  refine ⟨fun _ _ _ _ => ?_, fun _ _ _ _ => ?_, fun _ _ => ?_, ?_⟩
  case refine_4 => exact changeRecord_transactions enabled ..
  all_goals
    rw [← changeRecord_transactions enabled messageId]
    exact Async.bind_reaches (fun _ _ => notify_reaches ..) disk

end Updates

/-! ## What the files and the updates hold -/

variable {json : Json} {store : HistoryStore} {good : HistoryEntry → Prop} {state : Shared}
  {start : Disk} {actions before after : List HistoryAction}

/-- The files hold only good entries, and the updates write only good ones. -/
structure Confined (json : Json) (store : HistoryStore) (good : HistoryEntry → Prop)
    (state : Shared) : Prop where
  files : Within json store good state.disk
  updates : ∀ update change entry changed, state.pending update = some (change, entry) →
    change.apply entry = .ok changed → good changed

/-- What the action records is good, and its change leads from good entries to good ones. -/
structure Adds (good : HistoryEntry → Prop) (action : HistoryAction) : Prop where
  recorded : ∀ entry faults, action = .record entry faults → good entry
  changed : ∀ update id change faults entry changed, action = .load update id change faults →
    good entry → change.apply entry = .ok changed → good changed

section Steps

variable (lawful : json.Lawful) (faithful : ∀ entry, good entry → json.RoundTrips entry)

include lawful faithful

variable {disk : Disk} {entry : HistoryEntry}

theorem within_storeUpsert (within : Within json store good disk) (new : good entry)
    (faults : Faults HistoryStore.UpsertStep) :
    Within json store good (storeUpsert json faults store entry disk).2 := by
  have ends := ends_mapError CliError.ofStore (within.ends_upsert lawful faithful new faults)
  rcases ends.cases with ⟨_, -, still⟩ | ⟨-, still⟩
  · exact still
  · exact still

theorem within_writeChange {change : RecordChange} (within : Within json store good disk)
    (new : ∀ changed, change.apply entry = .ok changed → good changed)
    (faults : Faults HistoryStore.UpsertStep) :
    Within json store good (writeChange json faults store change (some entry) disk).2 := by
  cases applied : change.apply entry with
  | error error =>
    simp only [writeChange, applied, Async.bind_apply, Async.ofExcept_error]
    exact within
  | ok changed =>
    simp only [writeChange, applied, Async.bind_apply, Async.ofExcept_ok]
    exact within_storeUpsert lawful faithful within (new changed applied) faults

/-- A load leaves good entries and returns one of them. -/
theorem within_loadHistoryEntry (within : Within json store good disk) (id : Uuid)
    (faults : Faults HistoryStore.LockedLoadStep) :
    Within json store good (loadHistoryEntry json faults store id disk).2 ∧
      ∀ entry, foundRecord (loadHistoryEntry json faults store id disk).1 = some entry →
        good entry := by
  have ends : Ends disk (loadHistoryEntry json faults store id)
      (fun found reached => Within json store good reached ∧
        ∀ entry, found = some entry → good entry) (Within json store good) := by
    refine ends_bind (ends_mapError CliError.ofStore (within.ends_load lawful faithful faults)) ?_
    rintro entries reached ⟨still, held⟩
    refine ends_pure _ ⟨still, fun entry found => ?_⟩
    exact held entry (List.mem_of_find?_eq_some found)
  rcases ran : loadHistoryEntry json faults store id disk with ⟨found | error | _, reached⟩
  all_goals
    have ended := ends disk rfl
    rw [ran] at ended
  · exact ended
  · exact ⟨ended, nofun⟩
  · exact ⟨ended, nofun⟩

/-- One transaction keeps everything good. -/
theorem Confined.step (confined : Confined json store good state) {action : HistoryAction}
    (adds : Adds good action) : Confined json store good (state.step json store action) := by
  cases action with
  | record entry faults =>
    have new := adds.recorded entry faults rfl
    exact ⟨within_storeUpsert lawful faithful confined.files new faults, confined.updates⟩
  | load update id change faults =>
    obtain ⟨still, found⟩ := within_loadHistoryEntry lawful faithful confined.files id faults
    refine ⟨still, fun other otherChange entry changed holds applied => ?_⟩
    by_cases here : other = update
    · subst here
      simp only [Shared.step, Function.update_self, Option.map_eq_some_iff] at holds
      obtain ⟨_, loaded, same⟩ := holds
      cases same
      exact adds.changed other id change faults entry changed rfl (found entry loaded) applied
    · simp only [Shared.step, Function.update_of_ne here] at holds
      exact confined.updates other otherChange entry changed holds applied
  | write update faults =>
    cases pending : state.pending update with
    | none =>
      simp only [Shared.step, pending]
      exact confined
    | some held =>
      obtain ⟨change, entry⟩ := held
      simp only [Shared.step, pending]
      refine ⟨within_writeChange lawful faithful confined.files
        (fun changed => confined.updates update change entry changed pending) faults, ?_⟩
      intro other otherChange otherEntry changed holds applied
      by_cases here : other = update
      · subst here
        simp only [Function.update_self] at holds
        cases holds
      · simp only [Function.update_of_ne here] at holds
        exact confined.updates other otherChange otherEntry changed holds applied
  | clear faults => exact ⟨confined.files.clear faults, confined.updates⟩

theorem Confined.run (confined : Confined json store good state)
    (adds : ∀ action ∈ actions, Adds good action) :
    Confined json store good (state.run json store actions) := by
  induction actions generalizing state with
  | nil => exact confined
  | cons action actions ih =>
    obtain ⟨first, rest⟩ := List.forall_mem_cons.mp adds
    exact ih (confined.step lawful faithful first) rest

end Steps

/-- A clear that returns while no update is under way leaves nothing at all. -/
theorem confined_clear {faults : Faults HistoryStore.LockedClearStep}
    (returned : (store.clear faults state.disk).1 = .done ())
    (quiet : ∀ update, state.pending update = none) :
    Confined json store good (state.step json store (.clear faults)) where
  files := within_of_unused ((ends_clear faults store).returns returned)
  updates update change entry changed holds := by
    cases (quiet update).symm.trans holds

/-! ## Records and their identifiers -/

/-- A file of the history holds a record with this identifier. -/
def Stored (json : Json) (store : HistoryStore) (disk : Disk) (id : Uuid) : Prop :=
  ∃ path ∈ store.paths, ∃ entries, Reads json path (disk.files path) entries ∧
    ∃ entry ∈ entries, entry.id = id

/-- A load that nothing interrupts returns a record with this identifier. -/
def Loadable (json : Json) (store : HistoryStore) (disk : Disk) (id : Uuid) : Prop :=
  ∃ entries, loadable json store disk = .done entries ∧ ∃ entry ∈ entries, entry.id = id

/-- The identifiers of the new records. -/
def recordedIds : List HistoryAction → List Uuid
  | [] => []
  | .record entry _ :: actions => entry.id :: recordedIds actions
  | _ :: actions => recordedIds actions

variable {entry changed : HistoryEntry} {change : RecordChange}

theorem mem_recordedIds {faults : Faults HistoryStore.UpsertStep}
    (inside : .record entry faults ∈ actions) : entry.id ∈ recordedIds actions := by
  induction actions with
  | nil => cases inside
  | cons action actions ih =>
    rcases List.mem_cons.mp inside with rfl | later
    · exact List.mem_cons_self
    · have among := ih later
      cases action
      case record => exact List.mem_cons_of_mem _ among
      all_goals exact among

theorem recordedIds_append (before after : List HistoryAction) :
    recordedIds (before ++ after) = recordedIds before ++ recordedIds after := by
  induction before with
  | nil => rfl
  | cons action before ih =>
    cases action
    case record entry _ => exact congrArg (entry.id :: ·) ih
    all_goals exact ih

/-- Every new record has an identifier of its own, as `Uuid::now_v7` gives them. -/
structure Fresh (json : Json) (store : HistoryStore) (start : Disk)
    (actions : List HistoryAction) : Prop where
  distinct : (recordedIds actions).Nodup
  unused : ∀ id ∈ recordedIds actions, ¬ Stored json store start id

/-- The entries that can come up in a run: those of the files it starts on, the new ones, and
what the changes make of them. -/
inductive Arises (json : Json) (store : HistoryStore) (start : Disk)
    (actions : List HistoryAction) : HistoryEntry → Prop
  | stored {path : PathBuf} {entries : List HistoryEntry} {entry : HistoryEntry}
    (owned : path ∈ store.paths) (reads : Reads json path (start.files path) entries)
    (inside : entry ∈ entries) : Arises json store start actions entry
  | recorded {entry : HistoryEntry} {faults : Faults HistoryStore.UpsertStep}
    (inside : .record entry faults ∈ actions) : Arises json store start actions entry
  | changed {update : Nat} {id : Uuid} {change : RecordChange}
    {faults : Faults HistoryStore.LockedLoadStep} {entry changed : HistoryEntry}
    (inside : .load update id change faults ∈ actions)
    (arises : Arises json store start actions entry) (applied : change.apply entry = .ok changed) :
    Arises json store start actions changed

/-- A change is one of the peer, the status and the acknowledgement. -/
theorem RecordChange.apply_frame (applied : change.apply entry = .ok changed) :
    changed = { entry with
      peer := changed.peer
      status := changed.status
      acknowledgement := changed.acknowledgement } := by
  cases change with
  | acknowledged ackCode =>
    rw [RecordChange.apply] at applied
    split at applied
    · cases applied
    · cases applied
      rfl
  | sent | timedOut | failed =>
    cases applied
    rfl

theorem RecordChange.id_apply (applied : change.apply entry = .ok changed) :
    changed.id = entry.id := by
  rw [apply_frame applied]

/-- What arises, with an identifier that is allowed. -/
def ArisesAmong (json : Json) (store : HistoryStore) (start : Disk)
    (actions : List HistoryAction) (allowed : Uuid → Prop) (entry : HistoryEntry) : Prop :=
  Arises json store start actions entry ∧ allowed entry.id

section Runs

variable {all part : List HistoryAction} {allowed : Uuid → Prop}

/-- A run keeps to what arises and to the identifiers that are allowed. -/
theorem Confined.run_arisesAmong (lawful : json.Lawful)
    (roundTrips : ∀ entry, Arises json store start all entry → json.RoundTrips entry)
    (confined : Confined json store (ArisesAmong json store start all allowed) state)
    (within : part ⊆ all) (named : ∀ id ∈ recordedIds part, allowed id)
    (initial : actions <+: part) :
    Confined json store (ArisesAmong json store start all allowed)
      (state.run json store actions) := by
  refine confined.run lawful (fun entry among => roundTrips entry among.1) fun action inside => ?_
  have inPart := initial.subset inside
  refine ⟨?_, ?_⟩
  · rintro entry faults rfl
    exact ⟨.recorded (within inPart), named _ (mem_recordedIds inPart)⟩
  · rintro update id change faults entry changed rfl arises applied
    refine ⟨.changed (within inPart) arises.1 applied, ?_⟩
    rw [RecordChange.id_apply applied]
    exact arises.2

/-- Every stored record was there at the start or is new. -/
theorem stored_or_recorded (lawful : json.Lawful)
    (roundTrips : ∀ entry, Arises json store start all entry → json.RoundTrips entry)
    (within : part ⊆ all) (initial : actions <+: part) {id : Uuid}
    (stored : Stored json store ((Shared.idle start).run json store actions).disk id) :
    Stored json store start id ∨ id ∈ recordedIds part := by
  have confined : Confined json store (ArisesAmong json store start all
      fun id => Stored json store start id ∨ id ∈ recordedIds part) (Shared.idle start) := by
    refine ⟨fun path owned entries reads entry inside => ?_, fun _ _ _ _ holds => nomatch holds⟩
    exact ⟨.stored owned reads inside, .inl ⟨path, owned, entries, reads, entry, inside, rfl⟩⟩
  have ran := confined.run_arisesAmong lawful roundTrips within (fun _ named => .inr named) initial
  obtain ⟨path, owned, entries, reads, entry, inside, rfl⟩ := stored
  exact (ran.files path owned entries reads entry inside).2

/-- After a clear that no update was under way at, every record is new. -/
theorem recorded_of_loadable (lawful : json.Lawful)
    (roundTrips : ∀ entry, Arises json store start all entry → json.RoundTrips entry)
    (within : part ⊆ all) (initial : actions <+: part)
    {faults : Faults HistoryStore.LockedClearStep}
    (returned : (store.clear faults state.disk).1 = .done ())
    (quiet : ∀ update, state.pending update = none) {id : Uuid}
    (loadable : Loadable json store
      ((state.step json store (.clear faults)).run json store actions).disk id) :
    id ∈ recordedIds part := by
  have confined : Confined json store (ArisesAmong json store start all (· ∈ recordedIds part))
      (state.step json store (.clear faults)) := confined_clear returned quiet
  have ran := confined.run_arisesAmong lawful roundTrips within (fun _ named => named) initial
  obtain ⟨entries, returns, entry, inside, rfl⟩ := loadable
  have held := ran.files.ends_load lawful (fun entry among => roundTrips entry among.1) noFault
  exact ((held.returns returns).2 entry inside).2

end Runs

/-- Whatever is interleaved and whatever fails, a record that can be loaded was in a file at the
start or was recorded since, and only its peer, its status and its acknowledgement can differ. -/
theorem loadable_records_original (lawful : json.Lawful) (store : HistoryStore) (start : Disk)
    (actions : List HistoryAction)
    (roundTrips : ∀ entry, Arises json store start actions entry → json.RoundTrips entry)
    {entries : List HistoryEntry}
    (returned : loadable json store ((Shared.idle start).run json store actions).disk =
      .done entries) :
    ∀ entry ∈ entries, ∃ original,
      (Arises json store start [] original ∨ ∃ faults, .record original faults ∈ actions) ∧
        entry = { original with
          peer := entry.peer
          status := entry.status
          acknowledgement := entry.acknowledgement } := by
  have confined : Confined json store (Arises json store start actions) (Shared.idle start) :=
    ⟨fun _ owned _ reads _ inside => .stored owned reads inside, fun _ _ _ _ holds => nomatch holds⟩
  have ran := confined.run lawful roundTrips fun action inside =>
    ⟨fun entry faults same => .recorded (same ▸ inside),
      fun update id change faults entry changed same => .changed (same ▸ inside)⟩
  intro entry loaded
  have arises := ((ran.files.ends_load lawful roundTrips noFault).returns returned).2 entry loaded
  clear loaded
  induction arises with
  | stored owned reads inside => exact ⟨_, .inl (.stored owned reads inside), rfl⟩
  | recorded inside => exact ⟨_, .inr ⟨_, inside⟩, rfl⟩
  | changed _ _ applied ih =>
    obtain ⟨original, began, same⟩ := ih
    refine ⟨original, began, (RecordChange.apply_frame applied).trans ?_⟩
    rw [same]

/-! ## Clears -/

/-- Once a clear has returned, no record that was stored before is loadable again, provided that
no status update is between its two transactions when the clear takes place. -/
theorem cleared_records_stay_cleared (lawful : json.Lawful) (store : HistoryStore) (start : Disk)
    (before after : List HistoryAction) (faults : Faults HistoryStore.LockedClearStep)
    (fresh : Fresh json store start (before ++ .clear faults :: after))
    (roundTrips : ∀ entry, Arises json store start (before ++ .clear faults :: after) entry →
      json.RoundTrips entry)
    (returned : (store.clear faults ((Shared.idle start).run json store before).disk).1 = .done ())
    (quiet : ∀ update, ((Shared.idle start).run json store before).pending update = none) :
    ∀ earlier, earlier <+: before → ∀ id,
      Stored json store ((Shared.idle start).run json store earlier).disk id →
      ∀ later, later <+: after →
        ¬ Loadable json store
          ((Shared.idle start).run json store (before ++ .clear faults :: later)).disk id := by
  intro earlier first id stored later second loadable
  have ids := recordedIds_append before (.clear faults :: after)
  have within : after ⊆ before ++ .clear faults :: after :=
    fun _ inside => List.mem_append_right _ (List.mem_cons_of_mem _ inside)
  rw [Shared.run, List.foldl_append, List.foldl_cons] at loadable
  have new : id ∈ recordedIds after :=
    recorded_of_loadable lawful roundTrips within second returned quiet loadable
  have old := stored_or_recorded lawful roundTrips (List.subset_append_left _ _) first stored
  rcases old with old | old
  · exact fresh.unused id (ids ▸ List.mem_append_right _ new) old
  · exact List.disjoint_of_nodup_append (ids ▸ fresh.distinct) old new

/-- A clear without a failing step returns. -/
theorem clear_returns (store : HistoryStore) (disk : Disk) :
    (store.clear noFault disk).1 = .done () ∧
      store.anyPathExists (store.clear noFault disk).2 = false := by
  have returned : (store.clear noFault disk).1 = .done () := by
    simp only [HistoryStore.clear, HistoryStore.clearUnlocked]
    cases store.legacyPath <;> rfl
  exact ⟨returned, (ends_clear noFault store).returns returned⟩

/-- An update that has loaded its record before a clear and writes after it brings the record
back. -/
theorem loadable_late_update (lawful : json.Lawful) {disk : Disk} {entries : List HistoryEntry}
    (settled : Settled json store disk entries) {id : Uuid}
    (found : entries.find? (·.id = id) = some entry) (applied : change.apply entry = .ok changed)
    (valid : changed.Valid) (roundTrips : json.RoundTrips changed) :
    Loadable json store ((Shared.idle disk).run json store
      [.load 0 id change noFault, .clear noFault, .write 0 noFault]).disk id := by
  have named : changed.id = id := by
    have same : entry.id = id := by simpa using List.find?_some found
    rw [RecordChange.id_apply applied, same]
  have loaded := loadHistoryEntry_eq settled id
  rw [found] at loaded
  have contents : Contents json store (store.clear noFault disk).2 [] [] :=
    contents_nil (clear_returns store disk).2
  obtain ⟨reached, wrote, after⟩ := contents.upsert lawful valid
    fun other inside => List.mem_singleton.mp inside ▸ roundTrips
  rw [mergeEntries_nil, upserted_nil] at after
  have upserted : storeUpsert json noFault store changed (store.clear noFault disk).2 =
      (.done (), reached) := by
    rw [storeUpsert, Async.mapError, wrote]
  have ran : ((Shared.idle disk).run json store
      [.load 0 id change noFault, .clear noFault, .write 0 noFault]).disk = reached := by
    simp only [Shared.run, List.foldl, Shared.step, Shared.idle, loaded, foundRecord,
      Option.map_some, Function.update_self, writeChange, applied, Async.bind_apply,
      Async.ofExcept_ok, upserted]
  rw [ran]
  exact ⟨[changed], after.loadable_eq, changed, List.mem_cons_self, named⟩

/-! ## A message that fails -/

/-- A message that is being sent, and what becomes of it if it fails. -/
def sendingSample : HistoryEntry where
  version := historyFormatVersion
  id := 3
  recordedAtUnixMs := 1000
  direction := .outgoing
  peer := "relay"
  channel := none
  text := "hello"
  status := .pending
  acknowledgement := none

def failedSample : HistoryEntry := { sendingSample with status := .failed }

def updateJson : Json := tableJson [sendingSample, failedSample]

/-- The history holds the message. -/
def sendingDisk : Disk :=
  Disk.blank.set sampleStore.path (lines updateJson [sendingSample])

theorem lawful_updateJson : updateJson.Lawful := lawful_escapeText _

theorem roundTrips_updateJson :
    ∀ entry ∈ [sendingSample, failedSample], updateJson.RoundTrips entry := by
  unfold Json.RoundTrips
  decide +kernel

theorem settled_sendingDisk : Settled updateJson sampleStore sendingDisk [sendingSample] where
  reads := by
    rw [sendingDisk, Disk.files_set_same]
    refine reads_lines lawful_updateJson (by decide +kernel) (fun entry inside => ?_) (by decide)
    exact roundTrips_updateJson entry (List.mem_cons.mpr (.inl (List.mem_singleton.mp inside)))
  alone := rfl
  kept := by decide +kernel

theorem stored_sendingDisk : Stored updateJson sampleStore sendingDisk 3 :=
  ⟨sampleStore.path, List.mem_cons_self, [sendingSample], settled_sendingDisk.reads,
    sendingSample, List.mem_cons_self, rfl⟩

/-- Only the message and its failure can come up if the updates are failures. -/
theorem roundTrips_failing {actions : List HistoryAction}
    (failing : ∀ action ∈ actions, (∃ update faults, action = .load update 3 .failed faults) ∨
      (∃ update faults, action = .write update faults) ∨ ∃ faults, action = .clear faults) :
    ∀ entry, Arises updateJson sampleStore sendingDisk actions entry →
      updateJson.RoundTrips entry := by
  intro entry arises
  refine roundTrips_updateJson entry ?_
  induction arises with
  | stored owned reads inside =>
    rcases mem_paths.mp owned with rfl | named
    · rw [reads.unique settled_sendingDisk.reads] at inside
      exact List.mem_cons.mpr (.inl (List.mem_singleton.mp inside))
    · have absent := existingLegacy_eq_none.mp settled_sendingDisk.alone _ named
      rw [absent] at reads
      rw [reads.unique (reads_none updateJson _)] at inside
      cases inside
  | recorded inside =>
    rcases failing _ inside with ⟨_, _, same⟩ | ⟨_, _, same⟩ | ⟨_, same⟩
    all_goals cases same
  | changed inside arises applied ih =>
    rcases failing _ inside with ⟨_, _, same⟩ | ⟨_, _, same⟩ | ⟨_, same⟩
    all_goals cases same
    cases applied
    rcases List.mem_cons.mp ih with rfl | later
    · exact List.mem_cons_of_mem _ List.mem_cons_self
    · rw [List.mem_singleton.mp later]
      exact List.mem_cons_of_mem _ List.mem_cons_self

/-- Both transactions of a failure that comes before the clear, and of one that comes after. -/
theorem failed_record_stays_cleared :
    Stored updateJson sampleStore sendingDisk 3 ∧
      ¬ Loadable updateJson sampleStore ((Shared.idle sendingDisk).run updateJson sampleStore
        ([.load 0 3 .failed noFault, .write 0 noFault] ++
          .clear noFault :: [.load 0 3 .failed noFault, .write 0 noFault])).disk 3 := by
  refine ⟨stored_sendingDisk, cleared_records_stay_cleared lawful_updateJson sampleStore sendingDisk
    [.load 0 3 .failed noFault, .write 0 noFault] [.load 0 3 .failed noFault, .write 0 noFault]
    noFault ⟨List.nodup_nil, nofun⟩ (roundTrips_failing ?_) (clear_returns _ _).1 ?_ []
    List.nil_prefix 3 stored_sendingDisk _ List.prefix_rfl⟩
  · simp
  · intro update
    rw [Shared.run, List.foldl_cons, List.foldl_cons, List.foldl_nil, pending_write]
    by_cases here : update = 0
    · rw [here, Function.update_self]
    · rw [Function.update_of_ne here]
      exact Function.update_of_ne here _ _

/-- The failure has loaded the record before the clear and writes it after. -/
theorem late_failure_restores_record :
    updateJson.Lawful ∧
      Fresh updateJson sampleStore sendingDisk
        ([.load 0 3 .failed noFault] ++ .clear noFault :: [.write 0 noFault]) ∧
      (∀ entry, Arises updateJson sampleStore sendingDisk
        ([.load 0 3 .failed noFault] ++ .clear noFault :: [.write 0 noFault]) entry →
          updateJson.RoundTrips entry) ∧
      (sampleStore.clear noFault ((Shared.idle sendingDisk).run updateJson sampleStore
        [.load 0 3 .failed noFault]).disk).1 = .done () ∧
      Stored updateJson sampleStore sendingDisk 3 ∧
      Loadable updateJson sampleStore ((Shared.idle sendingDisk).run updateJson sampleStore
        ([.load 0 3 .failed noFault] ++ .clear noFault :: [.write 0 noFault])).disk 3 := by
  refine ⟨lawful_updateJson, ⟨List.nodup_nil, nofun⟩, roundTrips_failing ?_,
    (clear_returns _ _).1, stored_sendingDisk, ?_⟩
  · simp
  · have found : [sendingSample].find? (·.id = 3) = some sendingSample := rfl
    have roundTrips : updateJson.RoundTrips failedSample :=
      roundTrips_updateJson _ (List.mem_cons_of_mem _ List.mem_cons_self)
    exact loadable_late_update lawful_updateJson settled_sendingDisk found rfl
      (by decide +kernel) roundTrips

/-- The failure that is written after a clear brings the record back with its text. -/
theorem late_failure_keeps_text :
    ∃ entries, loadable updateJson sampleStore ((Shared.idle sendingDisk).run updateJson sampleStore
        [.load 0 3 .failed noFault, .clear noFault, .write 0 noFault]).disk = .done entries ∧
      ∀ entry ∈ entries, ∃ original,
        Arises updateJson sampleStore sendingDisk [] original ∧ entry.text = original.text := by
  have found : [sendingSample].find? (·.id = 3) = some sendingSample := rfl
  obtain ⟨entries, returned, -⟩ := loadable_late_update lawful_updateJson settled_sendingDisk found
    (rfl : RecordChange.failed.apply _ = _) (by decide +kernel)
    (roundTrips_updateJson _ (List.mem_cons_of_mem _ List.mem_cons_self))
  refine ⟨entries, returned, fun entry inside => ?_⟩
  obtain ⟨original, began, same⟩ := loadable_records_original lawful_updateJson sampleStore
    sendingDisk _ (roundTrips_failing (by simp)) returned entry inside
  refine ⟨original, began.resolve_right (by simp), ?_⟩
  rw [same]

end Meshquill.Cli
