import Meshquill.Store.Reconcile

/-!
# What a shared history retains

Any number of processes load and update one history. The locks put their calls in an order, and
each call finds the files as the one before it has left them. Pruning at every call adds up: what
a load returns is what would be retained of everything that was ever written
(`loads_retain_written`).
-/
namespace Meshquill.Store

open Checks HistoryStore

/-- A call to the history. -/
inductive HistoryCall where
  | load
  | upsert (entry : HistoryEntry)
deriving DecidableEq

/-- The disk after a call. -/
def HistoryCall.run (json : Json) (store : HistoryStore) (disk : Disk) : HistoryCall → Disk
  | .load => (store.load json noFault disk).2
  | .upsert entry => (store.upsert json noFault entry disk).2

/-- The disk after one call after another. -/
def runCalls (json : Json) (store : HistoryStore) (disk : Disk) (calls : List HistoryCall) : Disk :=
  calls.foldl (HistoryCall.run json store) disk

/-- What a call writes: an entry that fails its checks is refused. -/
def HistoryCall.written : HistoryCall → List HistoryEntry
  | .load => []
  | .upsert entry => if entry.Valid then [entry] else []

/-- Everything that is written, first to last, on top of what the files held. -/
def written (initial : List HistoryEntry) (calls : List HistoryCall) : List HistoryEntry :=
  initial ++ calls.flatMap HistoryCall.written

/-- An identifier is always written with the same recorded time. -/
def FixedTimes (log : List HistoryEntry) : Prop :=
  ∀ entry ∈ log, ∀ other ∈ log, entry.id = other.id →
    entry.recordedAtUnixMs = other.recordedAtUnixMs

variable {json : Json} {store : HistoryStore} {disk reached : Disk}
  {legacy canonical entries log : List HistoryEntry} {entry : HistoryEntry}

theorem FixedTimes.sameTimes (fixed : FixedTimes log) (older : legacy ⊆ log)
    (newer : canonical ⊆ log) : SameTimes legacy canonical :=
  fun entry inside later member => fixed entry (older inside) later (newer member)

/-- The files hold entries of the log and merge to what is retained of it. -/
def Stands (json : Json) (store : HistoryStore) (log : List HistoryEntry) (disk : Disk) : Prop :=
  ∃ legacy canonical, Contents json store disk legacy canonical ∧ legacy ++ canonical ⊆ log ∧
    store.mergeEntries legacy canonical =
      retain HistoryEntry.id HistoryEntry.rank store.maxMessages log

/-- A log whose entries the files can hold. -/
structure Recordable (json : Json) (log : List HistoryEntry) : Prop where
  valid : ∀ entry ∈ log, entry.Valid
  roundTrips : ∀ entry ∈ log, json.RoundTrips entry
  fixed : FixedTimes log

theorem Stands.loadable_eq (lawful : json.Lawful) (stands : Stands json store log disk) :
    loadable json store disk =
      .done (retain HistoryEntry.id HistoryEntry.rank store.maxMessages log) := by
  obtain ⟨legacy, canonical, contents, -, merged⟩ := stands
  rw [contents.loadable_eq lawful, merged]

/-- A load returns what is retained, and leaves it in the canonical file alone. -/
theorem Stands.loadUnlocked (lawful : json.Lawful) (recordable : Recordable json log)
    (stands : Stands json store log disk) :
    ∃ reached, store.loadUnlocked json noFault disk =
        (.done (retain HistoryEntry.id HistoryEntry.rank store.maxMessages log), reached) ∧
      Stands json store log reached ∧ store.existingLegacy reached = none := by
  obtain ⟨legacy, canonical, contents, inLog, merged⟩ := stands
  obtain ⟨loaded, ran, legacyRead, canonicalRead, read, -, stage, gone⟩ :=
    contents.load_returns lawful
  obtain ⟨rfl, rfl⟩ := contents.unique read
  have kept : ∀ entry ∈ store.mergeEntries legacy canonical, json.RoundTrips entry :=
    fun entry inside => recordable.roundTrips entry (inLog (mem_of_mem_retain inside))
  have times : SameTimes legacy canonical := recordable.fixed.sameTimes
    (List.append_subset.mp inLog).1 (List.append_subset.mp inLog).2
  obtain ⟨legacyNow, canonicalNow, now, same, within⟩ :=
    contents.stage lawful kept times.steadfast stage
  refine ⟨loaded, merged ▸ ran, ?_, gone⟩
  exact ⟨legacyNow, canonicalNow, now, List.Subset.trans within inLog, same.trans merged⟩

/-- Putting an entry into what is retained is writing it after the log. -/
theorem prune_put (recordable : Recordable json (log ++ [entry])) :
    store.prune (put HistoryEntry.id entry
        (retain HistoryEntry.id HistoryEntry.rank store.maxMessages log)) =
      retain HistoryEntry.id HistoryEntry.rank store.maxMessages (log ++ [entry]) := by
  have times : SameTimes log [entry] := recordable.fixed.sameTimes
    (List.subset_append_left _ _) (List.subset_append_right _ _)
  have distinct := (retains_retain telling_rank store.maxMessages log).nodup
  rw [← retain_append telling_rank times.steadfast]
  generalize retain HistoryEntry.id HistoryEntry.rank store.maxMessages log = kept at distinct ⊢
  rw [retain, collect_concat, collect_of_nodup distinct]
  rfl

theorem Recordable.mono {shorter : List HistoryEntry} (recordable : Recordable json log)
    (within : shorter ⊆ log) : Recordable json shorter where
  valid entry inside := recordable.valid entry (within inside)
  roundTrips entry inside := recordable.roundTrips entry (within inside)
  fixed first inside second member := recordable.fixed first (within inside) second (within member)

/-- An upsert of an entry that passes its checks returns, and the entry is written after the
log. -/
theorem Stands.upsert (lawful : json.Lawful) (recordable : Recordable json (log ++ [entry]))
    (stands : Stands json store log disk) :
    ∃ reached, store.upsert json noFault entry disk = (.done (), reached) ∧
      Stands json store (log ++ [entry]) reached := by
  have valid : entry.Valid := recordable.valid entry
    (List.mem_append_right _ (List.mem_singleton_self entry))
  obtain ⟨loaded, ran, -, gone⟩ :=
    stands.loadUnlocked lawful (recordable.mono (List.subset_append_left log [entry]))
  have kept : retain HistoryEntry.id HistoryEntry.rank store.maxMessages (log ++ [entry]) ⊆
      log ++ [entry] := fun _ inside => mem_of_mem_retain inside
  have after := recordable.mono kept
  have few : (retain HistoryEntry.id HistoryEntry.rank store.maxMessages
      (log ++ [entry])).length ≤ maxHistoryMessages := (length_newest_le _ _).trans store.bounded
  have upserted : store.upsert json noFault entry disk =
      store.persist json noFault
        (retain HistoryEntry.id HistoryEntry.rank store.maxMessages (log ++ [entry])) loaded := by
    rw [← prune_put recordable]
    simp only [HistoryStore.upsert, Async.bind_apply, show entry.validate = .ok () from valid,
      Async.ofExcept_ok, pass_none]
    rw [ran]
  refine ⟨_, upserted.trans (persist_eq lawful after.valid store loaded), [],
    retain HistoryEntry.id HistoryEntry.rank store.maxMessages (log ++ [entry]),
    ⟨?_, ?_, fun _ => rfl⟩, kept, retain_retain telling_rank _⟩
  · rw [Disk.files_set_same]
    exact reads_lines lawful after.valid after.roundTrips few
  · intro path named
    have other : path ≠ store.path := fun here => store.apart (here ▸ named)
    rw [Disk.files_set_other other, Disk.files_createDirAll,
      existingLegacy_eq_none.mp gone path named]
    exact reads_none json path

theorem Stands.run (lawful : json.Lawful) (call : HistoryCall)
    (recordable : Recordable json (log ++ call.written)) (stands : Stands json store log disk) :
    Stands json store (log ++ call.written) (call.run json store disk) := by
  cases call with
  | load =>
    rw [HistoryCall.written, List.append_nil] at recordable ⊢
    obtain ⟨reached, ran, after, -⟩ := stands.loadUnlocked lawful recordable
    have moved : HistoryCall.run json store disk .load = reached := congrArg Prod.snd ran
    rw [moved]
    exact after
  | upsert entry =>
    by_cases valid : entry.Valid
    · have recorded : HistoryCall.written (.upsert entry) = [entry] := if_pos valid
      rw [recorded] at recordable ⊢
      obtain ⟨reached, ran, after⟩ := stands.upsert lawful recordable
      have moved : HistoryCall.run json store disk (.upsert entry) = reached :=
        congrArg Prod.snd ran
      rw [moved]
      exact after
    · have refused : HistoryCall.written (.upsert entry) = [] := if_neg valid
      rw [refused, List.append_nil]
      have unmoved : HistoryCall.run json store disk (.upsert entry) = disk := by
        cases checked : entry.validate with
        | ok => exact absurd checked valid
        | error error => simp [HistoryCall.run, HistoryStore.upsert, checked]
      rw [unmoved]
      exact stands

/-- The files stand for the log after every sequence of calls. -/
theorem Stands.runCalls (lawful : json.Lawful) (calls : List HistoryCall)
    (recordable : Recordable json (written log calls)) (stands : Stands json store log disk) :
    Stands json store (written log calls) (runCalls json store disk calls) := by
  induction calls generalizing log disk with
  | nil =>
    rw [written, List.flatMap_nil, List.append_nil]
    exact stands
  | cons call calls ih =>
    have split : written log (call :: calls) = written (log ++ call.written) calls := by
      rw [written, written, List.flatMap_cons, List.append_assoc]
    rw [split] at recordable ⊢
    have first := stands.run lawful call (recordable.mono (List.subset_append_left _ _))
    exact ih recordable first

theorem stands_initially (contents : Contents json store disk legacy canonical) :
    Stands json store (legacy ++ canonical) disk :=
  ⟨legacy, canonical, contents, fun _ inside => inside, rfl⟩

/-- What a load returns after these calls. -/
def loadAfter (json : Json) (store : HistoryStore) (disk : Disk) (calls : List HistoryCall) :
    Exit StoreError (List HistoryEntry) :=
  (store.load json noFault (runCalls json store disk calls)).1

theorem valid_written (valid : ∀ entry ∈ log, entry.Valid) (calls : List HistoryCall) :
    ∀ entry ∈ written log calls, entry.Valid := by
  intro entry inside
  rcases List.mem_append.mp inside with inside | inside
  · exact valid entry inside
  · obtain ⟨call, -, member⟩ := List.mem_flatMap.mp inside
    cases call with
    | load => cases member
    | upsert other =>
      by_cases passed : other.Valid
      · rw [HistoryCall.written, if_pos passed, List.mem_singleton] at member
        exact member ▸ passed
      · rw [HistoryCall.written, if_neg passed] at member
        cases member

theorem loadAfter_eq (lawful : json.Lawful)
    (contents : Contents json store disk legacy canonical) {calls : List HistoryCall}
    (recordable : Recordable json (written (legacy ++ canonical) calls)) :
    loadAfter json store disk calls =
      .done (retain HistoryEntry.id HistoryEntry.rank store.maxMessages
        (written (legacy ++ canonical) calls)) :=
  ((stands_initially contents).runCalls lawful calls recordable).loadable_eq lawful

/-- Neighbouring upserts write the same in either order, or next to each other. -/
theorem written_swap (log : List HistoryEntry) (before after : List HistoryCall)
    (first second : HistoryEntry) :
    written log (before ++ .upsert first :: .upsert second :: after) =
        written log (before ++ .upsert second :: .upsert first :: after) ∨
      ∃ newer, written log (before ++ .upsert first :: .upsert second :: after) =
          written log before ++ first :: second :: newer ∧
        written log (before ++ .upsert second :: .upsert first :: after) =
          written log before ++ second :: first :: newer := by
  have unfolded : ∀ first second : HistoryEntry,
      written log (before ++ .upsert first :: .upsert second :: after) =
        written log before ++ (HistoryCall.written (.upsert first) ++
          (HistoryCall.written (.upsert second) ++ after.flatMap HistoryCall.written)) := by
    intro first second
    simp only [written, List.flatMap_append, List.flatMap_cons, List.append_assoc]
  rw [unfolded, unfolded]
  simp only [HistoryCall.written]
  by_cases firstValid : first.Valid
  · by_cases secondValid : second.Valid
    · rw [if_pos firstValid, if_pos secondValid]
      exact .inr ⟨_, rfl, rfl⟩
    · rw [if_neg secondValid]
      exact .inl rfl
  · rw [if_neg firstValid]
    exact .inl rfl

/-- After any calls in any order, a load returns the newest entries ever written, each in its last
version, sorted and valid; and two neighbouring upserts of different entries can change places. -/
theorem loads_retain_written (lawful : json.Lawful) (store : HistoryStore)
    (contents : Contents json store disk legacy canonical) (calls : List HistoryCall)
    (roundTrips : ∀ entry ∈ written (legacy ++ canonical) calls, json.RoundTrips entry)
    (fixed : FixedTimes (written (legacy ++ canonical) calls)) :
    (∃ entries, loadAfter json store disk calls = .done entries ∧
      Retains HistoryEntry.id HistoryEntry.rank store.maxMessages
        (written (legacy ++ canonical) calls) entries ∧
      (entries.map HistoryEntry.id).Nodup ∧ ∀ entry ∈ entries, entry.Valid) ∧
    ∀ before first second after, first.id ≠ second.id →
      calls = before ++ .upsert first :: .upsert second :: after →
      loadAfter json store disk (before ++ .upsert second :: .upsert first :: after) =
        loadAfter json store disk calls := by
  have recordable : Recordable json (written (legacy ++ canonical) calls) :=
    ⟨valid_written contents.valid_files calls, roundTrips, fixed⟩
  constructor
  · have retains := retains_retain telling_rank store.maxMessages
      (written (legacy ++ canonical) calls)
    exact ⟨_, loadAfter_eq lawful contents recordable, retains, retains.nodup,
      fun entry inside => recordable.valid entry (mem_of_mem_retain inside)⟩
  · rintro before first second after differs rfl
    rcases written_swap (legacy ++ canonical) before after first second with
      same | ⟨newer, inOrder, swapped⟩
    · rw [loadAfter_eq lawful contents recordable, same]
      exact loadAfter_eq lawful contents (same ▸ recordable)
    · have permuted : written (legacy ++ canonical)
            (before ++ .upsert second :: .upsert first :: after) ⊆
          written (legacy ++ canonical) (before ++ .upsert first :: .upsert second :: after) := by
        rw [inOrder, swapped]
        intro entry inside
        simp only [List.mem_append, List.mem_cons] at inside ⊢
        tauto
      rw [loadAfter_eq lawful contents recordable,
        loadAfter_eq lawful contents (recordable.mono permuted), inOrder, swapped,
        retain_swap telling_rank differs.symm]

/-- The legacy file is merged, then one entry is written again and the other is acknowledged. -/
def sampleCalls : List HistoryCall := [.load, .upsert replySample, .upsert sampleEntry]

theorem loads_retain_written_splitDisk :
    (∃ entries, loadAfter sampleJson sampleStore splitDisk sampleCalls = .done entries ∧
      Retains HistoryEntry.id HistoryEntry.rank sampleStore.maxMessages
        (written ([pendingSample, replySample] ++ [sampleEntry]) sampleCalls) entries ∧
      (entries.map HistoryEntry.id).Nodup ∧ ∀ entry ∈ entries, entry.Valid) ∧
    ∀ before first second after, first.id ≠ second.id →
      sampleCalls = before ++ .upsert first :: .upsert second :: after →
      loadAfter sampleJson sampleStore splitDisk
          (before ++ .upsert second :: .upsert first :: after) =
        loadAfter sampleJson sampleStore splitDisk sampleCalls :=
  loads_retain_written (lawful_escapeText _) sampleStore contents_splitDisk sampleCalls
    (by unfold Json.RoundTrips; decide +kernel) (by unfold FixedTimes; decide +kernel)

end Meshquill.Store
