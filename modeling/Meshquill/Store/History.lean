import Meshquill.Retention
import Meshquill.Store.Entry

/-!
# The message history of a profile

`HistoryStore`: a canonical file and a legacy file beside the configuration, which is merged into
the canonical one when it is found. Each operation takes the steps of the source in their order
and may be interrupted at any of them. The operations run while the locks of the files are held,
so that no other one changes the files meanwhile. Taking the locks is one step here.

`Contents` says what the two files hold. `loadable` is what a load returns that nothing
interrupts.
-/
namespace Meshquill.Store

open Checks

def maxHistoryMessages : Nat := 100000

/-- `HistoryStore`; both constructors check the bounds and drop a legacy path that is not apart
from the canonical one. -/
structure HistoryStore where
  path : PathBuf
  legacyPath : Option PathBuf
  maxMessages : Nat
  positive : 1 ≤ maxMessages
  bounded : maxMessages ≤ maxHistoryMessages
  apart : legacyPath ≠ some path

/-- `HistoryStore::with_legacy`. -/
def HistoryStore.withLegacy (canonicalPath legacyPath : PathBuf) (maxMessages : Nat) :
    Except StoreError HistoryStore :=
  if range : 1 ≤ maxMessages ∧ maxMessages ≤ maxHistoryMessages then
    .ok {
      path := canonicalPath
      legacyPath := if legacyPath = canonicalPath then none else some legacyPath
      maxMessages
      positive := range.1
      bounded := range.2
      apart := by
        by_cases same : legacyPath = canonicalPath
        · rw [if_pos same]
          exact nofun
        · rw [if_neg same]
          exact fun equal => same (Option.some.inj equal) }
  else .error (.validation "history.max_messages" "must be between 1 and 100000")

/-! ## Reading -/

/-- The steps of reading a history file. -/
inductive ReadStep where
  | metadata
  | openFile
  | readLine (index : Nat)
deriving DecidableEq

/-- `read_line` on what remains of the file, within the bound on a line and its terminator. -/
def readLine (bytes : Bytes) : Bytes × Bytes :=
  let window := bytes.take (maxHistoryEntryBytes + 3)
  let line := window.take ((window.takeWhile (· ≠ 10)).length + 1)
  (line, bytes.drop line.length)

/-- `strip_suffix`, which leaves a text without the suffix as it is. -/
def stripSuffix (suffix : Char) (text : String) : String :=
  if text.toList.getLast? = some suffix then String.ofList text.toList.dropLast else text

variable (json : Json)

/-- A line without its terminator is read as an entry. -/
def decodeLine (path : PathBuf) (line : Bytes) : Except StoreError HistoryEntry :=
  match fromUtf8 line with
  | none => .error (.io "stream did not contain valid UTF-8")
  | some text => do
    let text := stripSuffix '\r' (stripSuffix '\n' text)
    validating (text.utf8ByteSize ≤ maxHistoryEntryBytes) "history.entry"
      "history entry exceeds its byte bound"
    let entry ← (json.parse text).mapError (.parse path)
    entry.validate
    return entry

/-- The loop over the lines. The fuel exceeds the number of bytes, and a line has at least one. -/
def readEntries (json : Json) (faults : Faults ReadStep) (path : PathBuf) :
    Nat → Bytes → List HistoryEntry → Storing (List HistoryEntry)
  | 0, _, entries => pure entries
  | fuel + 1, bytes, entries => do
    pass (faults (.readLine entries.length))
    if (readLine bytes).1 = [] then
      return entries
    else do
      let entry ← Async.ofExcept (decodeLine json path (readLine bytes).1)
      Async.ofExcept (validating (entries.length + 1 ≤ maxHistoryMessages) "history.file"
        "history file contains more entries than the global input bound")
      readEntries json faults path fuel (readLine bytes).2 (entries ++ [entry])

/-- `load_path`, given what stands under the path. -/
def readFile (faults : Faults ReadStep) (path : PathBuf) :
    Option Bytes → Storing (List HistoryEntry)
  | none => pure []
  | some bytes => do
    pass (faults .metadata)
    Async.ofExcept (validating (bytes.length ≤ maxHistoryMessages * (maxHistoryEntryBytes + 2))
      "history.file" "history file exceeds the global input bound")
    pass (faults .openFile)
    readEntries json faults path (bytes.length + 1) bytes []

def loadPath (faults : Faults ReadStep) (path : PathBuf) : Storing (List HistoryEntry) := do
  let disk ← Async.get
  readFile json faults path (disk.files path)

/-! ## Writing -/

/-- The line of an entry, if it is within its bound. -/
def encodeEntry (entry : HistoryEntry) : Except StoreError Bytes := do
  validating ((utf8 (json.encode entry)).length ≤ maxHistoryEntryBytes) "history.entry"
    "serialized history entry exceeds its byte bound"
  return utf8 (json.encode entry)

/-- The writes of the lines and of their terminators. -/
def entryChunks (entries : List HistoryEntry) : List (Except StoreError Bytes) :=
  entries.flatMap fun entry => [encodeEntry json entry, .ok [10]]

namespace HistoryStore

def persist (json : Json) (faults : Faults ReplaceStep) (store : HistoryStore)
    (entries : List HistoryEntry) : Storing Unit := do
  perform (faults .createDirectory) .io (·.createDirAll (parent store.path))
  pass (faults .restrictDirectory)
  replaceFile faults store.path (entryChunks json entries)

variable (store : HistoryStore)

/-- Sort by time and identifier, and drop what exceeds the retention from the front. -/
def prune (entries : List HistoryEntry) : List HistoryEntry :=
  newest store.maxMessages (entries.insertionSort (·.rank ≤ ·.rank))

/-- `merge_entries`. The map is given in the order of insertion, since it is sorted next. -/
def mergeEntries (lowerPriority higherPriority : List HistoryEntry) : List HistoryEntry :=
  store.prune (collect HistoryEntry.id (lowerPriority ++ higherPriority))

/-! ## Operations -/

/-- The steps of a load. -/
inductive LoadStep where
  | readCanonical (step : ReadStep)
  | readLegacy (step : ReadStep)
  | replace (step : ReplaceStep)
  | removeLegacy
deriving DecidableEq

/-- The legacy file, if there is one. -/
def existingLegacy (disk : Disk) : Option PathBuf :=
  store.legacyPath.filter disk.pathExists

/-- Without a legacy file: write the canonical one back if entries were merged or dropped. -/
def settle (json : Json) (faults : Faults LoadStep) (store : HistoryStore)
    (canonical : List HistoryEntry) : Storing (List HistoryEntry) := do
  let entries := store.mergeEntries [] canonical
  onlyIf (entries.length ≠ canonical.length)
    (store.persist json (fun step => faults (.replace step)) entries)
  return entries

/-- With a legacy file: merge it into the canonical one and remove it. -/
def reconcile (json : Json) (faults : Faults LoadStep) (store : HistoryStore)
    (legacyPath : PathBuf) (canonical : List HistoryEntry) : Storing (List HistoryEntry) := do
  let legacy ← loadPath json (fun step => faults (.readLegacy step)) legacyPath
  let entries := store.mergeEntries legacy canonical
  store.persist json (fun step => faults (.replace step)) entries
  removeFileIfExists (faults .removeLegacy) legacyPath
  return entries

def loadUnlocked (json : Json) (faults : Faults LoadStep) (store : HistoryStore) :
    Storing (List HistoryEntry) := do
  let canonical ← loadPath json (fun step => faults (.readCanonical step)) store.path
  let disk ← Async.get
  match store.existingLegacy disk with
  | none => store.settle json faults canonical
  | some legacyPath => store.reconcile json faults legacyPath canonical

/-- The steps of a load that takes the locks. -/
inductive LockedLoadStep where
  | lock
  | load (step : LoadStep)
deriving DecidableEq

def load (json : Json) (faults : Faults LockedLoadStep) (store : HistoryStore) :
    Storing (List HistoryEntry) := do
  pass (faults .lock)
  store.loadUnlocked json fun step => faults (.load step)

/-- The steps of an upsert. -/
inductive UpsertStep where
  | lock
  | load (step : LoadStep)
  | replace (step : ReplaceStep)
deriving DecidableEq

def upsert (json : Json) (faults : Faults UpsertStep) (store : HistoryStore)
    (entry : HistoryEntry) : Storing Unit := do
  Async.ofExcept entry.validate
  pass (faults .lock)
  let entries ← store.loadUnlocked json fun step => faults (.load step)
  store.persist json (fun step => faults (.replace step))
    (store.prune (put HistoryEntry.id entry entries))

/-- The files of a history. -/
inductive ClearStep where
  | canonical
  | legacy
deriving DecidableEq

/-- Remove the legacy file, if the history has one. -/
def clearLegacy (fault : Option Fault) : Option PathBuf → Storing Unit
  | none => pure ()
  | some legacyPath => removeFileIfExists fault legacyPath

/-- Both files are removed; the first error is reported. -/
def clearUnlocked (faults : Faults ClearStep) (store : HistoryStore) : Storing Unit := do
  let canonical ← Async.attempt (removeFileIfExists (faults .canonical) store.path)
  let legacy ← Async.attempt (clearLegacy (faults .legacy) store.legacyPath)
  Async.ofExcept do
    canonical
    legacy

/-- The steps of a clear that takes the locks. -/
inductive LockedClearStep where
  | lock
  | clear (step : ClearStep)
deriving DecidableEq

def clear (faults : Faults LockedClearStep) (store : HistoryStore) : Storing Unit := do
  pass (faults .lock)
  store.clearUnlocked fun step => faults (.clear step)

def anyPathExists (disk : Disk) : Bool :=
  disk.pathExists store.path || store.legacyPath.any disk.pathExists

end HistoryStore

end Meshquill.Store
