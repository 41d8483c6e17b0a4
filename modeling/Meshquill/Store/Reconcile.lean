import Meshquill.Store.HistoryFile

/-!
# Loads that merge the legacy file

A load merges the legacy file into the canonical one, replaces the canonical file, and removes
the legacy file. Whatever step it does not get past, the disk is in one of three stages, and the
next load does not tell them apart (`Contents.loadable_stage`): merging the legacy file with the
result of the merge gives the result again, as long as an identifier has one recorded time.
-/
namespace Meshquill.Store

open Checks HistoryStore

variable {json : Json} {store : HistoryStore} {disk reached : Disk}
  {legacy canonical entries : List HistoryEntry}

/-- Identifiers are told apart by time and identifier. -/
theorem telling_rank : Telling HistoryEntry.id HistoryEntry.rank := by
  intro first second same
  have pairs : (first.recordedAtUnixMs.toNat, first.id.toNat) =
      (second.recordedAtUnixMs.toNat, second.id.toNat) := toLex.injective same
  exact BitVec.eq_of_toNat_eq (Prod.mk.inj pairs).2

/-! ## Merging -/

theorem mergeEntries_eq_retain (store : HistoryStore) (lower higher : List HistoryEntry) :
    store.mergeEntries lower higher =
      retain HistoryEntry.id HistoryEntry.rank store.maxMessages (lower ++ higher) := rfl

theorem length_mergeEntries (store : HistoryStore) (lower higher : List HistoryEntry) :
    (store.mergeEntries lower higher).length ≤ maxHistoryMessages :=
  (length_newest_le _ _).trans store.bounded

/-! ## What the files hold -/

/-- The entries of the legacy file and of the canonical one. A file that does not exist has
none. -/
structure Contents (json : Json) (store : HistoryStore) (disk : Disk)
    (legacy canonical : List HistoryEntry) : Prop where
  readsCanonical : Reads json store.path (disk.files store.path) canonical
  readsLegacy : ∀ path, store.legacyPath = some path → Reads json path (disk.files path) legacy
  withoutLegacy : store.legacyPath = none → legacy = []

section Read

variable (contents : Contents json store disk legacy canonical)

include contents

theorem Contents.valid_files :
    ∀ entry ∈ legacy ++ canonical, entry.Valid := by
  intro entry inside
  rcases List.mem_append.mp inside with inside | inside
  · cases named : store.legacyPath with
    | none => exact absurd (contents.withoutLegacy named ▸ inside) List.not_mem_nil
    | some path => exact (contents.readsLegacy path named).2 entry inside
  · exact contents.readsCanonical.2 entry inside

theorem Contents.valid :
    ∀ entry ∈ store.mergeEntries legacy canonical, entry.Valid :=
  fun entry inside => contents.valid_files entry (mem_of_mem_retain inside)

theorem Contents.unique {legacyAgain canonicalAgain : List HistoryEntry}
    (again : Contents json store disk legacyAgain canonicalAgain) :
    legacy = legacyAgain ∧ canonical = canonicalAgain := by
  refine ⟨?_, contents.readsCanonical.unique again.readsCanonical⟩
  cases named : store.legacyPath with
  | none => rw [contents.withoutLegacy named, again.withoutLegacy named]
  | some path => exact (contents.readsLegacy path named).unique (again.readsLegacy path named)

end Read

/-- A path without a file holds no entries. -/
theorem Reads.eq_nil {path : PathBuf} {contents : Option Bytes}
    (reads : Reads json path contents entries) (missing : contents = none) : entries = [] :=
  (missing ▸ reads).unique (reads_none json path)

theorem existingLegacy_eq_none : store.existingLegacy disk = none ↔
    ∀ path, store.legacyPath = some path → disk.files path = none := by
  rw [existingLegacy, Option.filter_eq_none_iff]
  simp [Disk.pathExists]

theorem existingLegacy_eq_some {path : PathBuf} (found : store.existingLegacy disk = some path) :
    store.legacyPath = some path :=
  (Option.filter_eq_some_iff.mp found).1

/-- Without a legacy file there are no legacy entries. -/
theorem Contents.legacy_eq_nil (contents : Contents json store disk legacy canonical)
    (absent : store.existingLegacy disk = none) : legacy = [] := by
  cases named : store.legacyPath with
  | none => exact contents.withoutLegacy named
  | some path =>
    exact (contents.readsLegacy path named).eq_nil (existingLegacy_eq_none.mp absent path named)

/-! ## Persisting -/

theorem ends_persist (lawful : json.Lawful) (valid : ∀ entry ∈ entries, entry.Valid)
    (faults : Faults ReplaceStep) (store : HistoryStore) :
    Ends disk (store.persist json faults entries)
      (fun _ reached => reached.files = (disk.set store.path (lines json entries)).files)
      (fun reached => reached.files = disk.files ∨ (Unsynced faults ∧
        reached.files = (disk.set store.path (lines json entries)).files)) := by
  have whole : contentsOf (entryChunks json entries) = .ok (lines json entries) :=
    contentsOf_entryChunks lawful valid
  refine ends_bind ((ends_perform _ _ _).mono (fun _ _ holds => holds.2) ?_) ?_
  · rintro _ ⟨-, rfl⟩
    exact .inl rfl
  · rintro _ _ rfl
    refine ends_then (ends_pass _ fun _ => .inl rfl) fun _ _ => ?_
    refine (ends_replaceFile faults store.path _).mono ?_ ?_
    · rintro _ _ ⟨contents, written, rfl⟩
      cases whole.symm.trans written
      rfl
    · rintro _ (same | ⟨unsynced, contents, written, rfl⟩)
      · exact .inl same
      · cases whole.symm.trans written
        exact .inr ⟨unsynced, rfl⟩

/-! ## The stages of a load -/

/-- What the files can be in the course of a load that would return these entries. -/
inductive Stage (json : Json) (store : HistoryStore) (disk : Disk) (entries : List HistoryEntry)
    (reached : Disk) : Prop
  | untouched (same : reached.files = disk.files)
  | replaced (same : reached.files = (disk.set store.path (lines json entries)).files)
  | removed (path : PathBuf) (named : store.legacyPath = some path)
    (same : reached.files = ((disk.set store.path (lines json entries)).set path none).files)

/-- The load may leave the legacy file although it has replaced the canonical one. -/
def Lingering (faults : Faults LoadStep) : Prop :=
  Unsynced (fun step => faults (.replace step)) ∨ faults .removeLegacy ≠ none

/-- A load that stops has changed nothing, or it has read both files and replaced the canonical
one. -/
def Stopped (json : Json) (faults : Faults LoadStep) (store : HistoryStore)
    (disk reached : Disk) : Prop :=
  reached = disk ∨ ∃ legacy canonical, Contents json store disk legacy canonical ∧
    (reached.files = disk.files ∨ Lingering faults ∧
      reached.files =
        (disk.set store.path (lines json (store.mergeEntries legacy canonical))).files)

/-- A load that returns has merged the files and leaves no legacy file. -/
def Returned (json : Json) (store : HistoryStore) (disk : Disk) (entries : List HistoryEntry)
    (reached : Disk) : Prop :=
  ∃ legacy canonical, Contents json store disk legacy canonical ∧
    entries = store.mergeEntries legacy canonical ∧ Stage json store disk entries reached ∧
    store.existingLegacy reached = none

theorem ends_settle (lawful : json.Lawful) (faults : Faults LoadStep)
    (reads : Reads json store.path (disk.files store.path) canonical)
    (absent : store.existingLegacy disk = none) :
    Ends disk (store.settle json faults canonical) (Returned json store disk)
      (Stopped json faults store disk) := by
  have contents : Contents json store disk [] canonical := by
    refine ⟨reads, fun path named => ?_, fun _ => rfl⟩
    rw [existingLegacy_eq_none.mp absent path named]
    exact reads_none json path
  refine ends_bind (ends_onlyIf ?_ ?_) fun _ reached holds => ends_pure _ holds
  · intro _
    refine (ends_persist lawful contents.valid _ store).mono ?_ ?_
    · intro _ reached same
      refine ⟨[], canonical, contents, rfl, .replaced same, ?_⟩
      refine existingLegacy_eq_none.mpr fun path named => ?_
      have other : path ≠ store.path := fun here => store.apart (here ▸ named)
      rw [same, Disk.files_set_other other]
      exact existingLegacy_eq_none.mp absent path named
    · rintro reached (same | ⟨unsynced, same⟩)
      · exact .inr ⟨[], canonical, contents, .inl same⟩
      · exact .inr ⟨[], canonical, contents, .inr ⟨.inl unsynced, same⟩⟩
  · intro _
    exact ⟨[], canonical, contents, rfl, .untouched rfl, absent⟩

theorem ends_reconcile (lawful : json.Lawful) (faults : Faults LoadStep) {path : PathBuf}
    (reads : Reads json store.path (disk.files store.path) canonical)
    (found : store.existingLegacy disk = some path) :
    Ends disk (store.reconcile json faults path canonical) (Returned json store disk)
      (Stopped json faults store disk) := by
  have named := existingLegacy_eq_some found
  refine ends_then ((ends_loadPath json _ path).mono (fun _ _ holds => holds) fun _ => .inl) ?_
  intro legacy readsLegacy
  have contents : Contents json store disk legacy canonical := by
    refine ⟨reads, fun other same => ?_, fun none => ?_⟩
    · cases named.symm.trans same
      exact readsLegacy
    · cases named.symm.trans none
  refine ends_bind ((ends_persist lawful contents.valid _ store).mono (fun _ _ holds => holds) ?_) ?_
  · rintro _ (same | ⟨unsynced, same⟩)
    · exact .inr ⟨legacy, canonical, contents, .inl same⟩
    · exact .inr ⟨legacy, canonical, contents, .inr ⟨.inl unsynced, same⟩⟩
  · intro _ replaced same
    refine ends_bind ((ends_perform _ _ _).mono (fun _ _ holds => holds.2) ?_) ?_
    · rintro _ ⟨faulty, rfl⟩
      exact .inr ⟨legacy, canonical, contents, .inr ⟨.inr faulty, same⟩⟩
    · rintro _ _ rfl
      have gone : (replaced.set path none).files =
          ((disk.set store.path (lines json (store.mergeEntries legacy canonical))).set path
            none).files := by
        funext other
        by_cases here : other = path
        · rw [here, Disk.files_set_same, Disk.files_set_same]
        · rw [Disk.files_set_other here, Disk.files_set_other here, same]
      refine ends_pure _ ⟨legacy, canonical, contents, rfl, .removed path named gone, ?_⟩
      refine existingLegacy_eq_none.mpr fun other same => ?_
      cases named.symm.trans same
      exact Disk.files_set_same

theorem ends_loadUnlocked (lawful : json.Lawful) (faults : Faults LoadStep)
    (store : HistoryStore) :
    Ends disk (store.loadUnlocked json faults) (Returned json store disk)
      (Stopped json faults store disk) := by
  refine ends_then ((ends_loadPath json _ store.path).mono (fun _ _ holds => holds) fun _ => .inl) ?_
  intro canonical reads
  apply ends_get
  cases found : store.existingLegacy disk with
  | none => exact ends_settle lawful faults reads found
  | some path => exact ends_reconcile lawful faults reads found

/-! ## The next load -/

/-- The canonical file holds the merged entries once it is replaced. -/
theorem Contents.replaced (lawful : json.Lawful)
    (contents : Contents json store disk legacy canonical)
    (roundTrips : ∀ entry ∈ store.mergeEntries legacy canonical, json.RoundTrips entry)
    (same : reached.files =
      (disk.set store.path (lines json (store.mergeEntries legacy canonical))).files) :
    Contents json store reached legacy (store.mergeEntries legacy canonical) where
  readsCanonical := by
    rw [same, Disk.files_set_same]
    exact reads_lines lawful contents.valid roundTrips (length_mergeEntries store legacy canonical)
  readsLegacy path named := by
    have other : path ≠ store.path := fun here => store.apart (here ▸ named)
    rw [same, Disk.files_set_other other]
    exact contents.readsLegacy path named
  withoutLegacy := contents.withoutLegacy

/-- Files at a later stage hold entries that merge to the same. -/
theorem Contents.stage (lawful : json.Lawful) (contents : Contents json store disk legacy canonical)
    (roundTrips : ∀ entry ∈ store.mergeEntries legacy canonical, json.RoundTrips entry)
    (steadfast : Steadfast HistoryEntry.id HistoryEntry.rank legacy canonical)
    (stage : Stage json store disk (store.mergeEntries legacy canonical) reached) :
    ∃ legacyNow canonicalNow, Contents json store reached legacyNow canonicalNow ∧
      store.mergeEntries legacyNow canonicalNow = store.mergeEntries legacy canonical ∧
      legacyNow ++ canonicalNow ⊆ legacy ++ canonical := by
  have merged : store.mergeEntries legacy canonical ⊆ legacy ++ canonical :=
    fun _ inside => mem_of_mem_retain inside
  cases stage with
  | untouched same =>
    refine ⟨legacy, canonical, ⟨?_, ?_, contents.withoutLegacy⟩, rfl, fun _ inside => inside⟩
    · rw [same]
      exact contents.readsCanonical
    · rw [same]
      exact contents.readsLegacy
  | replaced same =>
    exact ⟨legacy, _, contents.replaced lawful roundTrips same, retain_again telling_rank steadfast,
      List.append_subset.mpr ⟨List.subset_append_left _ _, merged⟩⟩
  | removed path named same =>
    have other : store.path ≠ path := fun here => store.apart (here ▸ named)
    refine ⟨[], _, ⟨?_, ?_, fun _ => rfl⟩, retain_retain telling_rank _, merged⟩
    · rw [same, Disk.files_set_other other, Disk.files_set_same]
      exact reads_lines lawful contents.valid roundTrips
        (length_mergeEntries store legacy canonical)
    · intro again alsoNamed
      cases named.symm.trans alsoNamed
      rw [same, Disk.files_set_same]
      exact reads_none json path

/-- What an uninterrupted load returns. -/
def loadable (json : Json) (store : HistoryStore) (disk : Disk) :
    Exit StoreError (List HistoryEntry) :=
  (store.load json noFault disk).1

/-- Files that can be read are merged. -/
theorem Contents.loadable_eq (lawful : json.Lawful)
    (contents : Contents json store disk legacy canonical) :
    loadable json store disk = .done (store.mergeEntries legacy canonical) := by
  have reads := contents.readsCanonical.loadPath_eq
  simp only [loadable, load, loadUnlocked, Async.bind_apply, pass_none, reads, Async.get_apply]
  cases found : store.existingLegacy disk with
  | none =>
    have nothing := contents.legacy_eq_nil found
    subst nothing
    simp only [settle, Async.bind_apply, onlyIf]
    split_ifs
    · rw [persist_eq lawful contents.valid]
      rfl
    · rfl
  | some path =>
    have legacyReads := (contents.readsLegacy path (existingLegacy_eq_some found)).loadPath_eq
    simp only [reconcile, Async.bind_apply, legacyReads, persist_eq lawful contents.valid]
    rfl

/-- A load of files that can be read returns if nothing fails. -/
theorem Contents.load_returns (lawful : json.Lawful)
    (contents : Contents json store disk legacy canonical) :
    ∃ loaded, store.loadUnlocked json noFault disk =
        (.done (store.mergeEntries legacy canonical), loaded) ∧
      Returned json store disk (store.mergeEntries legacy canonical) loaded := by
  have returns : (store.loadUnlocked json noFault disk).1 =
      .done (store.mergeEntries legacy canonical) := contents.loadable_eq lawful
  rcases (ends_loadUnlocked lawful noFault store).cases with ⟨entries, done, returned⟩ | ⟨stopped, -⟩
  · cases returns.symm.trans done
    exact ⟨_, Prod.ext returns rfl, returned⟩
  · exact absurd returns (stopped _)

/-- However a load ends, the next one returns what it would have returned itself. -/
theorem loadable_after_load (lawful : json.Lawful) (faults : Faults LoadStep)
    (roundTrips : ∀ legacy canonical, Contents json store disk legacy canonical →
      ∀ entry ∈ legacy ++ canonical, json.RoundTrips entry)
    (steadfast : ∀ legacy canonical, Contents json store disk legacy canonical →
      Steadfast HistoryEntry.id HistoryEntry.rank legacy canonical) :
    loadable json store (store.loadUnlocked json faults disk).2 = loadable json store disk := by
  have later : ∀ {legacy canonical reached}, Contents json store disk legacy canonical →
      Stage json store disk (store.mergeEntries legacy canonical) reached →
      loadable json store reached = loadable json store disk := by
    intro legacy canonical reached contents stage
    have written : ∀ entry ∈ store.mergeEntries legacy canonical, json.RoundTrips entry :=
      fun entry inside => roundTrips _ _ contents entry (mem_of_mem_retain inside)
    obtain ⟨legacyNow, canonicalNow, now, same, -⟩ :=
      contents.stage lawful written (steadfast _ _ contents) stage
    rw [now.loadable_eq lawful, contents.loadable_eq lawful, same]
  rcases (ends_loadUnlocked lawful faults store).cases with
    ⟨entries, -, legacy, canonical, contents, rfl, stage, -⟩ |
    ⟨-, same | ⟨legacy, canonical, contents, same | ⟨-, same⟩⟩⟩
  · exact later contents stage
  · rw [same]
  · exact later contents (.untouched same)
  · exact later contents (.replaced same)

/-- A load does nothing, or what it does once it has the locks. -/
theorem load_reaches (json : Json) (faults : Faults LockedLoadStep) (store : HistoryStore)
    (disk : Disk) : (store.load json faults disk).2 = disk ∨
      (store.load json faults disk).2 =
        (store.loadUnlocked json (fun step => faults (.load step)) disk).2 := by
  simp only [load, Async.bind_apply]
  rcases faults .lock with _ | _ | _
  · exact .inr rfl
  · exact .inl rfl
  · exact .inl rfl

/-! ## The law of an interrupted load -/

/-- An identifier in both files has the same recorded time in them. -/
def SameTimes (legacy canonical : List HistoryEntry) : Prop :=
  ∀ entry ∈ legacy, ∀ later ∈ canonical, entry.id = later.id →
    entry.recordedAtUnixMs = later.recordedAtUnixMs

theorem SameTimes.steadfast (times : SameTimes legacy canonical) :
    Steadfast HistoryEntry.id HistoryEntry.rank legacy canonical := by
  intro entry inside later member same
  rw [HistoryEntry.rank, HistoryEntry.rank, times entry inside later member same, same]

/-- Wherever a load stops or crashes, the next one returns what an uninterrupted first one would
have returned. If both files can be read, that is the newest last versions of the entries of the
legacy file and then the canonical one, each once. -/
theorem interrupted_load_recovers (lawful : json.Lawful) (store : HistoryStore) (disk : Disk)
    (roundTrips : ∀ legacy canonical, Contents json store disk legacy canonical →
      ∀ entry ∈ legacy ++ canonical, json.RoundTrips entry)
    (times : ∀ legacy canonical, Contents json store disk legacy canonical →
      SameTimes legacy canonical) (faults : Faults LockedLoadStep) :
    (store.load json noFault (store.load json faults disk).2).1 =
        (store.load json noFault disk).1 ∧
      ∀ legacy canonical, Contents json store disk legacy canonical →
        ∃ entries, (store.load json noFault disk).1 = .done entries ∧
          Retains HistoryEntry.id HistoryEntry.rank store.maxMessages (legacy ++ canonical)
            entries := by
  constructor
  · have steadfast : ∀ legacy canonical, Contents json store disk legacy canonical →
        Steadfast HistoryEntry.id HistoryEntry.rank legacy canonical :=
      fun legacy canonical contents => (times legacy canonical contents).steadfast
    rcases load_reaches json faults store disk with same | same
    · rw [same]
    · rw [same]
      exact loadable_after_load lawful _ roundTrips steadfast
  · intro legacy canonical contents
    exact ⟨_, contents.loadable_eq lawful, retains_retain telling_rank _ _⟩

/-- The entry before its acknowledgement. -/
def pendingSample : HistoryEntry :=
  { sampleEntry with status := .pending, acknowledgement := none }

def replySample : HistoryEntry where
  version := 1
  id := 2
  recordedAtUnixMs := 2000
  direction := .incoming
  peer := "base"
  channel := none
  text := "thanks"
  status := .received
  acknowledgement := none

def sampleJson : Json := tableJson [sampleEntry, pendingSample, replySample]

/-- The entry stands in both files, in the legacy one before its acknowledgement. -/
def splitDisk : Disk where
  files path :=
    if path = ["data", "history", "field.jsonl"] then some (lines sampleJson [sampleEntry])
    else if path = ["config", "history", "field.jsonl"] then
      some (lines sampleJson [pendingSample, replySample])
    else none
  directories _ := true

theorem contents_splitDisk :
    Contents sampleJson sampleStore splitDisk [pendingSample, replySample] [sampleEntry] where
  readsCanonical := reads_lines (lawful_escapeText _) (by decide +kernel)
    (by unfold Json.RoundTrips; decide +kernel) (by decide)
  readsLegacy := by
    rintro path ⟨⟩
    exact reads_lines (lawful_escapeText _) (by decide +kernel)
      (by unfold Json.RoundTrips; decide +kernel) (by decide)
  withoutLegacy := nofun

/-- The process ends between the replacement and the removal. -/
def crashBeforeRemoval : Faults LockedLoadStep := fun step =>
  if step = .load .removeLegacy then some .crash else none

theorem splitDisk_load_recovers :
    (sampleStore.load sampleJson noFault
        (sampleStore.load sampleJson crashBeforeRemoval splitDisk).2).1 =
        (sampleStore.load sampleJson noFault splitDisk).1 ∧
      ∀ legacy canonical, Contents sampleJson sampleStore splitDisk legacy canonical →
        ∃ entries, (sampleStore.load sampleJson noFault splitDisk).1 = .done entries ∧
          Retains HistoryEntry.id HistoryEntry.rank sampleStore.maxMessages (legacy ++ canonical)
            entries := by
  refine interrupted_load_recovers (lawful_escapeText _) sampleStore splitDisk ?_ ?_
    crashBeforeRemoval
  · intro legacy canonical contents
    obtain ⟨rfl, rfl⟩ := contents_splitDisk.unique contents
    unfold Json.RoundTrips
    decide +kernel
  · intro legacy canonical contents
    obtain ⟨rfl, rfl⟩ := contents_splitDisk.unique contents
    unfold SameTimes
    decide +kernel

end Meshquill.Store
