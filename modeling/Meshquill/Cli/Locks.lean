import Mathlib.Order.Lex
import Meshquill.Cli.Error
import Meshquill.Locking
import Meshquill.Store.Relative
import Meshquill.Store.Within

/-!
# The locks of configurations and histories

Each file has a lock file beside it. A transaction takes the locks of its files in the order of
their paths, and a rename of a profile takes the lock of the configuration before those of the two
histories. No processes wait for each other in a cycle (`lock_paths_deadlock_free`), unless a path
is the configuration of a rename and also a history: two renames that use each other's
configuration as a history wait for each other (`renames_wait_for_each_other`).

The files of a history have the name of their profile, and none of them is the configuration
(`mem_paths_historyStoreFor`).
-/
namespace Meshquill.Cli

open Checks Store HistoryStore Locking

/-! ## Where the files are -/

/-- Where the configuration and the histories are. An explicit configuration has a directory of
its own for its histories, which is named by the digest of its path. The path does not contain its
own digest, and the default one ends in a fixed name. -/
structure Locations where
  dataDir : PathBuf
  configPath : PathBuf
  explicitConfig : Bool
  digest : String
  apart : if explicitConfig then digest ∉ configPath else configPath.getLast? = some "config.toml"

structure HistoryPaths where
  canonical : PathBuf
  legacy : PathBuf

namespace Locations

def configStore (locations : Locations) : ConfigStore := ⟨locations.configPath⟩

def canonicalParent (locations : Locations) : PathBuf :=
  if locations.explicitConfig then locations.dataDir ++ ["history", locations.digest]
  else locations.dataDir ++ ["history"]

/-- `history_paths`. -/
def historyPaths (locations : Locations) (profile : String) : Except StoreError HistoryPaths := do
  validating (validateIdentifier profile) "history.profile" "profile must be a safe identifier"
  return {
    canonical := locations.canonicalParent ++ [profile ++ ".jsonl"]
    legacy := parent locations.configPath ++ ["history", profile ++ ".jsonl"] }

/-- `history_store_for`. -/
def historyStoreFor (locations : Locations) (profile : String) (maxMessages : UInt32) :
    Except StoreError HistoryStore := do
  let paths ← locations.historyPaths profile
  HistoryStore.withLegacy paths.canonical paths.legacy maxMessages.toNat

end Locations

variable {locations : Locations}

/-! ## Paths -/

variable {store : HistoryStore} {profile : String}

theorem withLegacy_ok {canonicalPath legacyPath : PathBuf} {maxMessages : Nat}
    (made : withLegacy canonicalPath legacyPath maxMessages = .ok store) :
    store.path = canonicalPath ∧ (∀ path, store.legacyPath = some path → path = legacyPath) ∧
      store.maxMessages = maxMessages := by
  unfold withLegacy at made
  split_ifs at made
  · cases made
    exact ⟨rfl, nofun, rfl⟩
  · cases made
    exact ⟨rfl, fun path named => (Option.some.inj named).symm, rfl⟩

theorem jsonl_ne {name : String} (other : ¬ ".jsonl".toList <:+ name.toList) :
    profile ++ ".jsonl" ≠ name := by
  rintro rfl
  exact other (String.toList_append ▸ List.suffix_append _ _)

theorem canonicalPath_ne (profile : String) :
    locations.canonicalParent ++ [profile ++ ".jsonl"] ≠ locations.configPath := by
  intro same
  have apart := locations.apart
  unfold Locations.canonicalParent at same
  by_cases explicit : locations.explicitConfig = true
  · rw [if_pos explicit] at apart same
    apply apart
    rw [← same]
    simp
  · rw [if_neg explicit] at apart
    rw [← same, List.getLast?_concat] at apart
    exact jsonl_ne (by decide) (Option.some.inj apart)

/-- The files of a history have the name of the profile, and none is the configuration. -/
theorem mem_paths_historyStoreFor {maxMessages : UInt32}
    (made : locations.historyStoreFor profile maxMessages = .ok store) {path : PathBuf}
    (inside : path ∈ store.paths) :
    path.getLast? = some (profile ++ ".jsonl") ∧ path ≠ locations.configPath := by
  obtain ⟨paths, found, made⟩ := bind_ok.mp made
  obtain ⟨-, found⟩ := check_ok.mp found
  cases found
  obtain ⟨canonicalPath, legacyPath, -⟩ := withLegacy_ok made
  rcases mem_paths.mp inside with rfl | named
  · rw [canonicalPath]
    refine ⟨List.getLast?_concat, fun same => ?_⟩
    exact canonicalPath_ne profile same
  · rw [legacyPath path named]
    refine ⟨by simp, fun same => ?_⟩
    have longer := congrArg List.length same
    rw [parent, List.length_append, List.length_dropLast] at longer
    simp only [List.length_cons, List.length_nil] at longer
    omega

/-! ## Samples -/

def sampleLocations : Locations where
  dataDir := ["data"]
  configPath := ["config", "config.toml"]
  explicitConfig := false
  digest := ""
  apart := by decide

/-- The history of a profile. -/
def sampleHistory (profile : String) : HistoryStore where
  path := ["data", "history", profile ++ ".jsonl"]
  legacyPath := some ["config", "history", profile ++ ".jsonl"]
  maxMessages := 256
  positive := by decide
  bounded := by decide
  apart := by simp

theorem historyStoreFor_sample (valid : validateIdentifier profile = true) :
    sampleLocations.historyStoreFor profile 256 = .ok (sampleHistory profile) := by
  have found : sampleLocations.historyPaths profile = .ok {
      canonical := ["data", "history", profile ++ ".jsonl"]
      legacy := ["config", "history", profile ++ ".jsonl"] } :=
    check_ok.mpr ⟨validating_ok.mpr valid, rfl⟩
  refine bind_ok.mpr ⟨_, found, ?_⟩
  have named : ["config", "history", profile ++ ".jsonl"] ≠
      ["data", "history", profile ++ ".jsonl"] := by simp
  have range : 1 ≤ (256 : UInt32).toNat ∧ (256 : UInt32).toNat ≤ maxHistoryMessages := by decide
  simp only [withLegacy, dif_pos range, if_neg named]
  rfl

/-! ## Lock files -/

/-- `Path::file_name`. -/
def fileName (path : PathBuf) : Option String := path.getLast?.filter (· ≠ "..")

def sidecarLockPath (target : PathBuf) : PathBuf :=
  parent target ++ [(fileName target).getD "meshquill" ++ ".lock"]

/-- The lock file of a named file is the one that `FileSystem` takes, by its components. -/
theorem shown_sidecarLockPath (anchor : Anchor) (above : List PathStep) {name : String}
    (file : name ≠ "..") :
    let path : UnixPath := ⟨anchor, above ++ [.normal (utf8 name)]⟩
    (FileSystem.sidecarLockPath path).shown = sidecarLockPath path.shown := by
  have lock : fromUtf8 (utf8 name ++ utf8 ".lock") = some (name ++ ".lock") := by
    rw [← utf8_append, fromUtf8_utf8]
  have kept : (some name).filter (fun other => !decide (other = "..")) = some name := by
    simp [Option.filter, file]
  have joined (start : UnixPath) (name : Bytes) :
      (start.join (.ofName name)).shown = start.shown ++ UnixPath.shown (.ofName name) := by
    unfold UnixPath.join
    split
    · rename_i blank
      rw [blank.resolve_left nofun]
      rfl
    · exact List.map_append
  intro path
  rw [FileSystem.sidecarLockPath, joined]
  simp [path, UnixPath.parent, UnixPath.fileName, UnixPath.ofName, UnixPath.shown,
    sidecarLockPath, parent, fileName, fromUtf8_utf8, lock, kept]

/-- `acquire_target_locks`: the lock files that it takes, in the order of a `BTreeSet`. -/
def targetLocks (targets : List PathBuf) : List PathBuf :=
  (OrderedMap.ofEntries (targets.map fun target => (sidecarLockPath target, ()))).entries.map
    Prod.fst

inductive Transaction where
  /-- A transaction under `lock_exclusive`. -/
  | config (store : ConfigStore)
  /-- `load`, `upsert` and `clear`. -/
  | history (store : HistoryStore)
  /-- `copy_to`. -/
  | copy (source destination : HistoryStore)
  /-- `move_to_with` under `lock_exclusive`. -/
  | rename (config : ConfigStore) (source destination : HistoryStore)

namespace Transaction

/-- The history files that a transaction locks. -/
def historyTargets : Transaction → List PathBuf
  | config _ => []
  | history store => store.paths
  | copy source destination | rename _ source destination => source.paths ++ destination.paths

/-- The lock files that a transaction takes, in order. -/
def lockPaths : Transaction → List PathBuf
  | config store => targetLocks [store.path]
  | rename store source destination =>
    targetLocks [store.path] ++ targetLocks (source.paths ++ destination.paths)
  | transaction => targetLocks transaction.historyTargets

end Transaction

/-- The configuration of a rename is not locked as a history. -/
def Apart (transactions : Transaction → Prop) : Prop :=
  ∀ store source destination, transactions (.rename store source destination) →
    ∀ transaction, transactions transaction →
      ∀ target ∈ transaction.historyTargets, sidecarLockPath target ≠ sidecarLockPath store.path

/-! ## The order of the locks -/

section Order

variable {targets : List PathBuf} {path : PathBuf} {transactions : Transaction → Prop}
  {transaction : Transaction}

theorem targetLocks_sorted (targets : List PathBuf) : (targetLocks targets).Pairwise (· < ·) :=
  List.pairwise_map.mpr (OrderedMap.sorted _)

theorem mem_targetLocks (member : path ∈ targetLocks targets) :
    ∃ target ∈ targets, sidecarLockPath target = path := by
  obtain ⟨entry, inside, rfl⟩ := List.mem_map.mp member
  obtain ⟨target, isTarget, rfl⟩ := List.mem_map.mp (OrderedMap.mem_ofEntries inside)
  exact ⟨target, isTarget, rfl⟩

/-- The lock of the configuration of a rename. -/
def IsOwnerLock (transactions : Transaction → Prop) (path : PathBuf) : Prop :=
  ∃ store source destination, transactions (.rename store source destination) ∧
    sidecarLockPath store.path = path

open Classical in
/-- The configurations of renames come first, and then the path decides. -/
noncomputable def lockRank (transactions : Transaction → Prop) (path : PathBuf) :
    Bool ×ₗ PathBuf :=
  toLex (decide (¬ IsOwnerLock transactions path), path)

theorem lockRank_lt_of_lt {first second : PathBuf}
    (early : ¬ IsOwnerLock transactions first) (late : ¬ IsOwnerLock transactions second)
    (below : first < second) : lockRank transactions first < lockRank transactions second := by
  rw [lockRank, lockRank, Prod.Lex.toLex_lt_toLex]
  exact .inr ⟨by simp [early, late], below⟩

theorem lockRank_lt_of_owner {first second : PathBuf}
    (early : IsOwnerLock transactions first) (late : ¬ IsOwnerLock transactions second) :
    lockRank transactions first < lockRank transactions second := by
  rw [lockRank, lockRank, Prod.Lex.toLex_lt_toLex]
  exact .inl (by simp [early, late])

theorem historyLock_not_owner (apart : Apart transactions) (running : transactions transaction)
    (member : path ∈ targetLocks transaction.historyTargets) :
    ¬ IsOwnerLock transactions path := by
  obtain ⟨target, isTarget, rfl⟩ := mem_targetLocks member
  rintro ⟨store, source, destination, renames, same⟩
  exact apart store source destination renames transaction running target isTarget same.symm

theorem historyLocks_rise (apart : Apart transactions) (running : transactions transaction) :
    (targetLocks transaction.historyTargets).Pairwise
      (lockRank transactions · < lockRank transactions ·) := by
  refine (targetLocks_sorted _).imp_of_mem fun first second below => ?_
  exact lockRank_lt_of_lt (historyLock_not_owner apart running first)
    (historyLock_not_owner apart running second) below

/-- Every transaction takes its locks by rising rank. -/
theorem lockPaths_rise (apart : Apart transactions) (running : transactions transaction) :
    transaction.lockPaths.Pairwise (lockRank transactions · < lockRank transactions ·) := by
  have histories := historyLocks_rise apart running
  cases transaction with
  | config store => exact List.pairwise_singleton _ _
  | history | copy => exact histories
  | rename store source destination =>
    refine List.pairwise_append.mpr ⟨List.pairwise_singleton _ _, histories, ?_⟩
    intro first isFirst second isSecond
    obtain rfl := List.mem_singleton.mp isFirst
    exact lockRank_lt_of_owner ⟨store, source, destination, running, rfl⟩
      (historyLock_not_owner apart running isSecond)

end Order

/-! ## Processes with one configuration -/

section Locations

variable {locations : Locations} {target : PathBuf} {name : String}

def Locations.IsHistory (locations : Locations) (store : HistoryStore) : Prop :=
  ∃ profile maxMessages, locations.historyStoreFor profile maxMessages = .ok store

/-- The transactions of the processes that use this configuration. -/
def Locations.Runs (locations : Locations) : Transaction → Prop
  | .config store => store = locations.configStore
  | .history store => locations.IsHistory store
  | .copy source destination => locations.IsHistory source ∧ locations.IsHistory destination
  | .rename store source destination =>
    store = locations.configStore ∧ locations.IsHistory source ∧ locations.IsHistory destination

/-- Only the file itself has the lock file of a history. -/
theorem sidecarLockPath_inj {profile : String} {other : PathBuf}
    (named : target.getLast? = some (profile ++ ".jsonl"))
    (same : sidecarLockPath target = sidecarLockPath other) : target = other := by
  have ends : fileName target = some (profile ++ ".jsonl") := by
    simpa [fileName, named] using jsonl_ne (by decide)
  rw [sidecarLockPath, sidecarLockPath, ends] at same
  obtain ⟨parents, names⟩ := List.append_inj' same rfl
  have name : (fileName other).getD "meshquill" = profile ++ ".jsonl" :=
    ((String.append_left_inj ".lock").mp (List.singleton_inj.mp names)).symm
  cases found : fileName other with
  | none =>
    rw [found] at name
    exact absurd name.symm (jsonl_ne (by decide))
  | some last =>
    rw [found, Option.getD_some] at name
    have lastOther : other.getLast? = some last := (Option.filter_eq_some_iff.mp found).1
    rw [← List.dropLast_append_getLast? _ (Option.mem_def.mpr named),
      ← List.dropLast_append_getLast? _ (Option.mem_def.mpr lastOther), name]
    exact congrArg (· ++ _) parents

theorem historyTargets_apart {transaction : Transaction} (running : locations.Runs transaction)
    (isTarget : target ∈ transaction.historyTargets) :
    sidecarLockPath target ≠ sidecarLockPath locations.configPath := by
  have apart : ∀ {store}, locations.IsHistory store → target ∈ store.paths →
      sidecarLockPath target ≠ sidecarLockPath locations.configPath := by
    rintro store ⟨profile, maxMessages, made⟩ inside same
    obtain ⟨named, differs⟩ := mem_paths_historyStoreFor made inside
    exact differs (sidecarLockPath_inj named same)
  cases transaction with
  | config store => cases isTarget
  | history store => exact apart running isTarget
  | copy source destination =>
    obtain ⟨isSource, isDestination⟩ := running
    rcases List.mem_append.mp isTarget with inside | inside
    · exact apart isSource inside
    · exact apart isDestination inside
  | rename store source destination =>
    obtain ⟨-, isSource, isDestination⟩ := running
    rcases List.mem_append.mp isTarget with inside | inside
    · exact apart isSource inside
    · exact apart isDestination inside

/-- Processes with one configuration do not use it as a history. -/
theorem apart_runs (locations : Locations) : Apart locations.Runs := by
  rintro store source destination ⟨rfl, -, -⟩ transaction running target isTarget
  exact historyTargets_apart running isTarget

end Locations

/-! ## Deadlocks -/

variable {ι : Type} [DecidableEq ι]

/-- Whatever the processes do, none waits for itself, directly or through others, and one of those
in a transaction can go on. -/
theorem lock_paths_deadlock_free (transactions : Transaction → Prop) (apart : Apart transactions)
    (moves : List (Move ι Transaction))
    (running : ∀ process transaction, .start process transaction ∈ moves → transactions transaction)
    (reached : Table ι PathBuf)
    (ran : Transition.run (Table.step Transaction.lockPaths) idle moves = some reached) :
    (∀ process, ¬ Relation.TransGen reached.Waits process process) ∧
      ∀ process, reached.wanted process ≠ none →
        ∃ other, reached.wanted other ≠ none ∧ reached.CanGoOn other := by
  apply deadlock_free (lockRank transactions)
  · intro process transaction member
    exact lockPaths_rise apart (running process transaction member)
  · exact ran

/-- Two renames of one profile, of which one has the lock of the configuration. -/
def sampleMoves : List (Move Bool Transaction) :=
  [.start true (.rename sampleLocations.configStore (sampleHistory "field") (sampleHistory "base")),
    .start false
      (.rename sampleLocations.configStore (sampleHistory "field") (sampleHistory "base")),
    .take true]

theorem sample_renames_deadlock_free :
    ∃ reached, Transition.run (Table.step Transaction.lockPaths) idle sampleMoves = some reached ∧
      reached.Waits false true ∧
      (∀ process, ¬ Relation.TransGen reached.Waits process process) ∧
      ∃ other, reached.wanted other ≠ none ∧ reached.CanGoOn other := by
  have field : sampleLocations.IsHistory (sampleHistory "field") :=
    ⟨"field", 256, historyStoreFor_sample (by decide +kernel)⟩
  have base : sampleLocations.IsHistory (sampleHistory "base") :=
    ⟨"base", 256, historyStoreFor_sample (by decide +kernel)⟩
  refine ⟨_, rfl, ⟨_, _, rfl, rfl⟩, ?_⟩
  have holds := lock_paths_deadlock_free sampleLocations.Runs (apart_runs sampleLocations)
    sampleMoves (by simp [sampleMoves, Locations.Runs, field, base]) _ rfl
  exact ⟨holds.1, holds.2 true nofun⟩

/-- A history in one file. -/
def singleHistory (path : PathBuf) : HistoryStore :=
  { sampleHistory "field" with path, legacyPath := none, apart := nofun }

/-- Each of two renames has the configuration that the other one moves as a history. -/
theorem renames_wait_for_each_other :
    ∃ reached, Transition.run (Table.step Transaction.lockPaths) idle
        [.start true (.rename ⟨["a"]⟩ (singleHistory ["b"]) (singleHistory ["c"])),
          .start false (.rename ⟨["b"]⟩ (singleHistory ["a"]) (singleHistory ["c"])),
          .take true, .take false] = some reached ∧
      reached.Waits true false ∧ reached.Waits false true ∧
      ∀ process, ¬ reached.CanGoOn process := by
  refine ⟨_, rfl, ⟨_, _, rfl, rfl⟩, ⟨_, _, rfl, rfl⟩, ?_⟩
  rintro (_ | _)
  all_goals exact nofun

end Meshquill.Cli
