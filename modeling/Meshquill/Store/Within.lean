import Meshquill.Store.Reconcile

/-!
# What the files can come to hold

However an operation of the history ends, its files hold only entries that were there before or
the entry it was given. `Within` states this for a predicate on entries, so that it can be used
with the identifiers that are known, and with those that must not come back.
-/
namespace Meshquill.Store

open Checks HistoryStore

variable {json : Json} {store : HistoryStore} {disk reached : Disk}
  {legacy canonical entries : List HistoryEntry} {entry : HistoryEntry}

/-! ## The history after an update

An update that nothing interrupts leaves the entries in the canonical file alone, sorted and
within the retention, so that the next load returns them without writing. This is the state
`Settled` describes. It takes no assumption on the times of the entries.
-/

/-- The canonical file holds the entries as a load returns them, and there is no legacy file. -/
structure Settled (json : Json) (store : HistoryStore) (disk : Disk)
    (entries : List HistoryEntry) : Prop where
  reads : Reads json store.path (disk.files store.path) entries
  alone : store.existingLegacy disk = none
  kept : store.mergeEntries [] entries = entries

namespace Settled

theorem contents (settled : Settled json store disk entries) :
    Contents json store disk [] entries where
  readsCanonical := settled.reads
  readsLegacy path named := by
    rw [existingLegacy_eq_none.mp settled.alone path named]
    exact reads_none json path
  withoutLegacy _ := rfl

/-- A load returns the entries and writes nothing. -/
theorem load_eq (settled : Settled json store disk entries) :
    store.load json noFault disk = (.done entries, disk) := by
  have reads := settled.reads.loadPath_eq
  simp only [load, loadUnlocked, Async.bind_apply, pass_none, reads, Async.get_apply,
    settled.alone, settle, settled.kept]
  simp [onlyIf]

theorem loadable_eq (settled : Settled json store disk entries) :
    loadable json store disk = .done entries :=
  congrArg Prod.fst settled.load_eq

end Settled

theorem prune_of_nodup (distinct : (entries.map HistoryEntry.id).Nodup) :
    store.prune entries = retain HistoryEntry.id HistoryEntry.rank store.maxMessages entries := by
  rw [retain, collect_of_nodup distinct]
  rfl

/-- The entries of a load have one identifier each. -/
theorem nodup_mergeEntries (store : HistoryStore) (legacy canonical : List HistoryEntry) :
    ((store.mergeEntries legacy canonical).map HistoryEntry.id).Nodup :=
  (retains_retain telling_rank store.maxMessages (legacy ++ canonical)).nodup

/-- What an upsert writes. -/
def HistoryStore.upserted (store : HistoryStore) (entry : HistoryEntry)
    (entries : List HistoryEntry) : List HistoryEntry :=
  store.prune (put HistoryEntry.id entry entries)

theorem upserted_eq_retain (distinct : (entries.map HistoryEntry.id).Nodup) :
    store.upserted entry entries = retain HistoryEntry.id HistoryEntry.rank store.maxMessages
      (put HistoryEntry.id entry entries) :=
  prune_of_nodup (nodup_put distinct entry)

/-- An upsert writes the new entry and some of the old ones with other identifiers. -/
theorem mem_upserted {other : HistoryEntry} (distinct : (entries.map HistoryEntry.id).Nodup)
    (inside : other ∈ store.upserted entry entries) :
    other = entry ∨ (other ∈ entries ∧ other.id ≠ entry.id) := by
  rw [upserted_eq_retain distinct] at inside
  exact (mem_put distinct).mp (mem_of_mem_retain inside)

theorem upserted_nil (store : HistoryStore) (entry : HistoryEntry) :
    store.upserted entry [] = [entry] := by
  have kept : newest store.maxMessages [entry] = [entry] := by
    rw [newest, List.length_singleton, Nat.sub_eq_zero_of_le store.positive, List.drop_zero]
  exact kept

/-- A new version of a stored entry takes its place if it keeps its identifier and its time. -/
theorem Settled.upserted_eq_map {stored : HistoryEntry} (settled : Settled json store disk entries)
    (change : HistoryEntry → HistoryEntry) (inside : stored ∈ entries)
    (sameId : (change stored).id = stored.id)
    (sameTime : (change stored).recordedAtUnixMs = stored.recordedAtUnixMs) :
    store.upserted (change stored) entries =
      entries.map fun other => if other.id = stored.id then change other else other := by
  have retains : Retains HistoryEntry.id HistoryEntry.rank store.maxMessages entries entries := by
    have merged := retains_retain telling_rank store.maxMessages ([] ++ entries)
    rwa [← mergeEntries_eq_retain, settled.kept, List.nil_append] at merged
  have distinct := retains.nodup
  have replaced : put HistoryEntry.id (change stored) entries =
      entries.map fun other => if other.id = stored.id then change other else other := by
    rw [put_of_old distinct (sameId ▸ List.mem_map_of_mem inside), sameId]
    refine List.map_congr_left fun other member => ?_
    by_cases same : other.id = stored.id
    · rw [if_pos same, if_pos same, List.inj_on_of_nodup_map distinct member inside same]
    · rw [if_neg same, if_neg same]
  have sameRank : ∀ other ∈ entries,
      HistoryEntry.rank (if other.id = stored.id then change other else other) = other.rank := by
    intro other member
    by_cases same : other.id = stored.id
    · obtain rfl := List.inj_on_of_nodup_map distinct member inside same
      rw [if_pos rfl, HistoryEntry.rank, HistoryEntry.rank, sameId, sameTime]
    · rw [if_neg same]
  rw [upserted_eq_retain distinct]
  refine (retains_retain telling_rank store.maxMessages _).unique ?_
  rw [replaced]
  refine ⟨?_, fun other => latest_of_nodup (replaced ▸ nodup_put distinct _), ?_, ?_⟩
  · rw [List.pairwise_map]
    refine retains.sorted.imp_of_mem fun first second less => ?_
    rw [sameRank _ first, sameRank _ second]
    exact less
  · rw [List.length_map]
    exact retains.bounded
  · exact fun other latest absent => absurd latest.mem absent

/-- An upsert of an entry that passes its checks settles the history. -/
theorem Contents.upsert (lawful : json.Lawful)
    (contents : Contents json store disk legacy canonical) (valid : entry.Valid)
    (roundTrips : ∀ other ∈ legacy ++ canonical ++ [entry], json.RoundTrips other) :
    ∃ reached, store.upsert json noFault entry disk = (.done (), reached) ∧
      Settled json store reached (store.upserted entry (store.mergeEntries legacy canonical)) := by
  obtain ⟨loaded, ran, -, -, -, -, -, gone⟩ := contents.load_returns lawful
  have distinct := nodup_mergeEntries store legacy canonical
  have held : ∀ other ∈ store.mergeEntries legacy canonical, other ∈ legacy ++ canonical :=
    fun other inside => mem_of_mem_retain inside
  have written : ∀ other ∈ store.upserted entry (store.mergeEntries legacy canonical),
      other.Valid ∧ json.RoundTrips other := by
    intro other inside
    rcases mem_upserted distinct inside with rfl | ⟨old, -⟩
    · exact ⟨valid, roundTrips other (by simp)⟩
    · exact ⟨contents.valid other old, roundTrips other (List.mem_append_left _ (held other old))⟩
  have few : (store.upserted entry (store.mergeEntries legacy canonical)).length ≤
      maxHistoryMessages := (length_newest_le _ _).trans store.bounded
  have upserted : store.upsert json noFault entry disk = store.persist json noFault
      (store.upserted entry (store.mergeEntries legacy canonical)) loaded := by
    simp only [HistoryStore.upsert, Async.bind_apply, show entry.validate = .ok () from valid,
      Async.ofExcept_ok, pass_none, HistoryStore.upserted]
    rw [ran]
  refine ⟨_, upserted.trans (persist_eq lawful (fun other inside => (written other inside).1)
    store loaded), ?_, ?_, ?_⟩
  · rw [Disk.files_set_same]
    exact reads_lines lawful (fun other inside => (written other inside).1)
      (fun other inside => (written other inside).2) few
  · rw [existingLegacy_eq_none] at gone ⊢
    intro path named
    have other : path ≠ store.path := fun here => store.apart (here ▸ named)
    rw [Disk.files_set_other other, Disk.files_createDirAll]
    exact gone path named
  · rw [upserted_eq_retain distinct]
    exact retain_retain telling_rank _

/-- An entry that fails its checks is refused before the history is touched. -/
theorem upsert_of_error {error : StoreError} (refused : entry.validate = .error error)
    (faults : Faults UpsertStep) : store.upsert json faults entry disk = (.failed error, disk) := by
  simp [HistoryStore.upsert, refused]

/-! ## The files of a history -/

/-- Where the files of a history are. -/
def HistoryStore.paths (store : HistoryStore) : List PathBuf :=
  store.path :: store.legacyPath.toList

theorem mem_paths {path : PathBuf} :
    path ∈ store.paths ↔ path = store.path ∨ store.legacyPath = some path := by
  rw [HistoryStore.paths, List.mem_cons, Option.mem_toList]

/-- The history has no files. -/
theorem anyPathExists_eq_false : store.anyPathExists disk = false ↔
    ∀ path ∈ store.paths, disk.files path = none := by
  have legacyAbsent : store.legacyPath.any disk.pathExists = false ↔
      ∀ path, store.legacyPath = some path → disk.files path = none := by
    cases store.legacyPath with
    | none => exact iff_of_true rfl nofun
    | some path => simp [Disk.pathExists]
  rw [anyPathExists, Bool.or_eq_false_iff, legacyAbsent, Disk.pathExists,
    Option.isSome_eq_false_iff, Option.isNone_iff_eq_none]
  simp only [mem_paths]
  constructor
  · rintro ⟨absent, legacyAbsent⟩ path (rfl | named)
    · exact absent
    · exact legacyAbsent path named
  · intro absent
    exact ⟨absent _ (.inl rfl), fun path named => absent path (.inr named)⟩

/-! ## What a history holds -/

theorem contents_nil (unused : store.anyPathExists disk = false) :
    Contents json store disk [] [] := by
  have absent := anyPathExists_eq_false.mp unused
  refine ⟨?_, ?_, fun _ => rfl⟩
  · rw [absent _ (mem_paths.mpr (.inl rfl))]
    exact reads_none json _
  · intro path named
    rw [absent _ (mem_paths.mpr (.inr named))]
    exact reads_none json path

theorem mergeEntries_nil (store : HistoryStore) : store.mergeEntries [] [] = [] :=
  List.eq_nil_iff_forall_not_mem.mpr fun _ inside => List.not_mem_nil (mem_of_mem_retain inside)

/-! ## Clearing a history

A history has a canonical file and perhaps a legacy one. However a clear ends, all it does is to
remove some of them (`ends_clearUnlocked`), and without a failing step it removes both.
-/

/-- Some files of the history are gone, and nothing else has changed. -/
structure Reduced (store : HistoryStore) (disk reached : Disk) : Prop where
  others : ∀ path, path ∉ store.paths → reached.files path = disk.files path
  own : ∀ path, reached.files path = disk.files path ∨ reached.files path = none

theorem reduced_refl (store : HistoryStore) (disk : Disk) : Reduced store disk disk :=
  ⟨fun _ _ => rfl, fun _ => .inl rfl⟩

theorem Reduced.set (reduced : Reduced store disk reached) {path : PathBuf}
    (inside : path ∈ store.paths) : Reduced store disk (reached.set path none) where
  others other outside := by
    have differs : other ≠ path := fun here => outside (here ▸ inside)
    rw [Disk.files_set_other differs]
    exact reduced.others other outside
  own other := by
    by_cases here : other = path
    · right
      rw [here, Disk.files_set_same]
    · rw [Disk.files_set_other here]
      exact reduced.own other

/-- A removal that may fail. -/
theorem Reduced.remove (reduced : Reduced store disk reached) (fault : Option Fault)
    {path : PathBuf} (inside : path ∈ store.paths) :
    Ends reached (removeFileIfExists fault path) (fun _ => Reduced store disk)
      (Reduced store disk) := by
  refine (ends_perform fault .io _).mono ?_ ?_
  · rintro _ _ ⟨-, rfl⟩
    exact reduced.set inside
  · rintro _ ⟨-, rfl⟩
    exact reduced

theorem Reduced.clearLegacy (reduced : Reduced store disk reached) (fault : Option Fault) :
    Ends reached (clearLegacy fault store.legacyPath) (fun _ => Reduced store disk)
      (Reduced store disk) := by
  cases named : store.legacyPath with
  | none => exact ends_pure () reduced
  | some path => exact reduced.remove fault (mem_paths.mpr (.inr named))

theorem ends_clearUnlocked (faults : Faults ClearStep) (store : HistoryStore) :
    Ends disk (store.clearUnlocked faults) (fun _ => Reduced store disk)
      (Reduced store disk) := by
  have first := (reduced_refl store disk).remove (faults .canonical) (mem_paths.mpr (.inl rfl))
  apply ends_bind (ends_attempt_always first)
  intro canonical middle reduced
  apply ends_bind (ends_attempt_always (reduced.clearLegacy (faults .legacy)))
  intro legacy last reduced
  refine (ends_ofExcept _ reduced).mono ?_ fun _ holds => holds
  rintro _ _ ⟨-, rfl⟩
  exact reduced

/-! ## What the files hold -/

variable {good : HistoryEntry → Prop}

/-- Whatever can be read from the files is good. -/
def Within (json : Json) (store : HistoryStore) (good : HistoryEntry → Prop) (disk : Disk) : Prop :=
  ∀ path ∈ store.paths, ∀ entries, Reads json path (disk.files path) entries →
    ∀ entry ∈ entries, good entry

theorem Within.congr (within : Within json store good disk) (same : reached.files = disk.files) :
    Within json store good reached := by
  intro path owned entries reads
  exact within path owned entries (same ▸ reads)

theorem Within.contents (within : Within json store good disk)
    (contents : Contents json store disk legacy canonical) :
    ∀ entry ∈ legacy ++ canonical, good entry := by
  intro entry inside
  rcases List.mem_append.mp inside with inside | inside
  · cases named : store.legacyPath with
    | none => exact absurd (contents.withoutLegacy named ▸ inside) List.not_mem_nil
    | some path =>
      have owned : path ∈ store.paths := mem_paths.mpr (.inr named)
      exact within path owned legacy (contents.readsLegacy path named) entry inside
  · have owned : store.path ∈ store.paths := mem_paths.mpr (.inl rfl)
    exact within store.path owned canonical contents.readsCanonical entry inside

/-- Removing files adds nothing. -/
theorem Within.reduced (within : Within json store good disk)
    (reduced : Reduced store disk reached) : Within json store good reached := by
  intro path owned entries reads entry inside
  rcases reduced.own path with same | gone
  · exact within path owned entries (same ▸ reads) entry inside
  · rw [gone] at reads
    rw [reads.unique (reads_none json path)] at inside
    cases inside

theorem within_of_unused (unused : store.anyPathExists disk = false) :
    Within json store good disk := by
  intro path owned entries reads entry inside
  rw [anyPathExists_eq_false.mp unused path owned] at reads
  rw [reads.unique (reads_none json path)] at inside
  cases inside

/-- Replacing the canonical file adds what is written. -/
theorem Within.replace (lawful : json.Lawful) (within : Within json store good disk)
    (faithful : ∀ entry, good entry → json.RoundTrips entry)
    (valid : ∀ entry ∈ entries, entry.Valid) (written : ∀ entry ∈ entries, good entry)
    (few : entries.length ≤ maxHistoryMessages) :
    Within json store good (disk.set store.path (lines json entries)) := by
  intro path owned read reads entry inside
  by_cases here : path = store.path
  · rw [here, Disk.files_set_same] at reads
    have trips : ∀ entry ∈ entries, json.RoundTrips entry :=
      fun other member => faithful other (written other member)
    rw [reads.unique (reads_lines lawful valid trips few)] at inside
    exact written entry inside
  · rw [Disk.files_set_other here] at reads
    exact within path owned read reads entry inside

section Operations

variable (lawful : json.Lawful) (faithful : ∀ entry, good entry → json.RoundTrips entry)

include lawful faithful

variable (within : Within json store good disk)

include within

theorem Within.stage
    (contents : Contents json store disk legacy canonical)
    (stage : Stage json store disk (store.mergeEntries legacy canonical) reached) :
    Within json store good reached := by
  have written : ∀ entry ∈ store.mergeEntries legacy canonical, good entry :=
    fun entry inside => within.contents contents entry (mem_of_mem_retain inside)
  have replaced := within.replace lawful faithful contents.valid written
    (length_mergeEntries store legacy canonical)
  cases stage with
  | untouched same => exact within.congr same
  | replaced same => exact replaced.congr same
  | removed path named same =>
    have owned : path ∈ store.paths := mem_paths.mpr (.inr named)
    exact (replaced.reduced ((reduced_refl store _).set owned)).congr same

/-- A load, however it ends. -/
theorem Within.ends_loadUnlocked
    (faults : Faults LoadStep) :
    Ends disk (store.loadUnlocked json faults)
      (fun entries reached => Within json store good reached ∧
        (∀ entry ∈ entries, good entry ∧ entry.Valid) ∧ (entries.map HistoryEntry.id).Nodup)
      (Within json store good) := by
  refine (Store.ends_loadUnlocked lawful faults store).mono ?_ ?_
  · rintro entries reached ⟨legacy, canonical, contents, rfl, stage, -⟩
    refine ⟨within.stage lawful faithful contents stage, fun entry inside => ?_,
      nodup_mergeEntries store legacy canonical⟩
    exact ⟨within.contents contents entry (mem_of_mem_retain inside), contents.valid entry inside⟩
  · rintro reached (rfl | ⟨legacy, canonical, contents, same | ⟨-, same⟩⟩)
    · exact within
    · exact within.congr same
    · exact within.stage lawful faithful contents (.replaced same)

theorem Within.ends_load
    (faults : Faults LockedLoadStep) :
    Ends disk (store.load json faults)
      (fun entries reached => Within json store good reached ∧ ∀ entry ∈ entries, good entry)
      (Within json store good) := by
  refine ends_then (ends_pass _ fun _ => within) fun _ _ => ?_
  refine (within.ends_loadUnlocked lawful faithful _).mono ?_ fun _ holds => holds
  exact fun entries reached holds => ⟨holds.1, fun entry inside => (holds.2.1 entry inside).1⟩

/-- An upsert, however it ends. -/
theorem Within.ends_upsert (new : good entry)
    (faults : Faults UpsertStep) :
    Ends disk (store.upsert json faults entry) (fun _ => Within json store good)
      (Within json store good) := by
  refine ends_then (ends_ofExcept _ within) fun _ valid => ?_
  refine ends_then (ends_pass _ fun _ => within) fun _ _ => ?_
  refine ends_bind (within.ends_loadUnlocked lawful faithful _) ?_
  rintro entries reached ⟨still, held, distinct⟩
  have written : ∀ other ∈ store.upserted entry entries, good other ∧ other.Valid := by
    intro other inside
    rcases mem_upserted distinct inside with rfl | ⟨old, -⟩
    · exact ⟨new, valid⟩
    · exact held other old
  have replaced := still.replace lawful faithful (fun other inside => (written other inside).2)
    (fun other inside => (written other inside).1) ((length_newest_le _ _).trans store.bounded)
  refine (ends_persist lawful (fun other inside => (written other inside).2) _ store).mono ?_ ?_
  · exact fun _ written same => replaced.congr same
  · rintro final (same | ⟨-, same⟩)
    · exact still.congr same
    · exact replaced.congr same

end Operations

/-! ## After a clear -/

theorem ends_clearLegacy (fault : Option Fault) (legacyPath : Option PathBuf) :
    Ends disk (clearLegacy fault legacyPath)
      (fun _ reached => (∀ path, legacyPath = some path → reached.files path = none) ∧
        ∀ path, disk.files path = none → reached.files path = none) fun _ => True := by
  cases legacyPath with
  | none => exact ends_pure () ⟨nofun, fun _ gone => gone⟩
  | some legacyPath =>
    refine (ends_perform fault .io _).mono ?_ fun _ _ => trivial
    rintro _ _ ⟨-, rfl⟩
    refine ⟨?_, fun path gone => ?_⟩
    · intro path named
      rw [Option.some.inj named, Disk.files_set_same]
    · by_cases here : path = legacyPath
      · rw [here, Disk.files_set_same]
      · rw [Disk.files_set_other here, gone]

/-- A clear that returns has removed both files, whatever steps might have failed. -/
theorem ends_clear (faults : Faults LockedClearStep) (store : HistoryStore) :
    Ends disk (store.clear faults) (fun _ reached => store.anyPathExists reached = false)
      fun _ => True := by
  refine ends_then (ends_pass _ fun _ => trivial) fun _ _ => ?_
  refine ends_bind (ends_attempt (ends_perform _ .io _) fun _ _ => trivial) ?_
  intro canonical middle first
  refine ends_bind (ends_attempt (ends_clearLegacy _ store.legacyPath) fun _ _ => trivial) ?_
  intro legacy last second
  refine (ends_ofExcept _ (Eq.refl last)).mono ?_ fun _ _ => trivial
  rintro _ _ ⟨both, rfl⟩
  obtain ⟨rfl, rfl⟩ := check_ok.mp both
  obtain ⟨_, -, -, rfl⟩ | ⟨⟨_, refused⟩, -⟩ := first
  · obtain ⟨_, -, gone, kept⟩ | ⟨⟨_, refused⟩, -⟩ := second
    · refine anyPathExists_eq_false.mpr fun path owned => ?_
      rcases mem_paths.mp owned with rfl | named
      · exact kept _ Disk.files_set_same
      · exact gone path named
    · cases refused
  · cases refused

/-- A clear, however it ends. -/
theorem Within.clear (within : Within json store good disk) (faults : Faults LockedClearStep) :
    Within json store good (store.clear faults disk).2 := by
  have ends : Ends disk (store.clear faults) (fun _ => Reduced store disk)
      (Reduced store disk) :=
    ends_then (ends_pass _ fun _ => reduced_refl store disk) fun _ _ => ends_clearUnlocked _ store
  rcases ends.cases with ⟨_, -, reduced⟩ | ⟨-, reduced⟩
  · exact within.reduced reduced
  · exact within.reduced reduced

end Meshquill.Store
