import Meshquill.Store.ConfigFile

/-!
# Relative configuration paths

`ConfigStore` derives a directory from its path in four places: for the lock file, for the
directory of the lock file, for the temporary file and for a backup. The parent of a bare file name
is the empty path. The fallback to the current directory is for paths without a parent only, so
the lock tries to restrict a directory under the empty path, which does not exist.

The file system is a parameter. Its operations take places, which are absolute; a program names
paths, and the system looks a relative one up from the working directory. Two spellings of one
path that agree on their parents then make every step at the same places. `ConfigFile` has the
same save over a disk that knows files by their components, where a path has one spelling.
-/
namespace Meshquill.Store

/-! ## Paths -/

/-- A component of a path below its start. -/
inductive PathStep where
  | parentDir
  | normal (name : Bytes)
deriving DecidableEq

/-- How a path starts: at the root, with a dot, or with its first name. -/
inductive Anchor where
  | root
  | current
  | bare
deriving DecidableEq

/-- `Path`, by its components. A dot is a component at the start of a path only. -/
structure UnixPath where
  anchor : Anchor
  steps : List PathStep
deriving DecidableEq

/-- Where the system finds a file: the steps from the root. -/
abbrev Place := List PathStep

namespace UnixPath

def empty : UnixPath := ⟨.bare, []⟩

/-- `Path::new(".")`. -/
def here : UnixPath := ⟨.current, []⟩

def ofName (name : Bytes) : UnixPath := ⟨.bare, [.normal name]⟩

/-- `Path::parent`. -/
def parent (path : UnixPath) : Option UnixPath :=
  if path.steps = [] then if path.anchor = .current then some empty else none
  else some { path with steps := path.steps.dropLast }

/-- `Path::file_name`. -/
def fileName (path : UnixPath) : Option Bytes :=
  match path.steps.getLast? with
  | some (.normal name) => some name
  | _ => none

/-- `Path::join`. -/
def join (path other : UnixPath) : UnixPath :=
  if other.anchor = .root ∨ path = empty then other
  else { path with steps := path.steps ++ other.steps }

/-- Where the system looks for a path. It looks nowhere for the empty path. -/
def resolve (directory : Place) (path : UnixPath) : Option Place :=
  match path.anchor with
  | .root => some path.steps
  | .current => some (directory ++ path.steps)
  | .bare => if path.steps = [] then none else some (directory ++ path.steps)

/-- How an error shows the path. -/
def shown (path : UnixPath) : PathBuf :=
  path.steps.map fun
    | .parentDir => ".."
    | .normal name => (fromUtf8 name).getD "�"

variable {directory : Place} {path other above : UnixPath}

theorem parent_join_ofName (filled : path ≠ empty) (name : Bytes) :
    (path.join (ofName name)).parent = some path := by
  rw [join, if_neg (not_or.mpr ⟨by simp [ofName], filled⟩)]
  simp [parent, ofName]

theorem resolve_join_ofName (filled : path ≠ empty) (name : Bytes) :
    (path.join (ofName name)).resolve directory =
      (path.resolve directory).map (· ++ [.normal name]) := by
  rw [join, if_neg (not_or.mpr ⟨by simp [ofName], filled⟩)]
  obtain ⟨anchor, steps⟩ := path
  cases anchor with
  | root => rfl
  | current => simp [resolve, ofName]
  | bare =>
    have some : steps ≠ [] := fun blank => filled (by rw [blank, empty])
    simp [resolve, ofName, some]

/-- Only the empty path is looked for nowhere. -/
theorem resolve_isSome (filled : path ≠ empty) : (path.resolve directory).isSome := by
  obtain ⟨anchor, steps⟩ := path
  cases anchor with
  | root | current => rfl
  | bare =>
    have some : steps ≠ [] := fun blank => filled (by rw [blank, empty])
    simp [resolve, some]

end UnixPath

/-! ## The file system -/

/-- How a file is opened. -/
inductive OpenOptions where
  | read
  | createNew
  | createOrOpen
deriving DecidableEq

/-- What the store uses of the system: places are absolute, open files are handles `η`. -/
structure FileSystem (σ η : Type) where
  pathExists : Place → σ → Bool
  createDirAll : Place → Async String σ Unit
  setPermissions : Nat → Place → Async String σ Unit
  openFile : OpenOptions → Place → Async String σ η
  restrict : Nat → η → Async String σ Unit
  tryLock : η → Async String σ Bool
  /-- How often the lock is tried again before the timeout has passed. -/
  retries : Nat
  sleep : σ → σ
  /-- Closing the file releases the lock. -/
  close : η → σ → σ
  writeAll : Bytes → η → Async String σ Unit
  flush : η → Async String σ Unit
  syncAll : η → Async String σ Unit
  /-- A rename of the temporary file. -/
  persist : η → Place → Async String σ Unit
  /-- A temporary file is removed, unless it has been persisted. -/
  discard : η → σ → σ
  readAll : η → Async String σ Bytes
  copy : η → η → Async String σ Unit
  /-- The part of a temporary name that makes it new. -/
  random : σ → String
  now : σ → Nat
  processId : Nat

namespace FileSystem

variable {σ η α : Type} (system : FileSystem σ η) (directory : Place)

/-- A step at a path, with its report of an error. Nothing can be done at the empty path. -/
def reach (report : String → StoreError) (path : UnixPath) (action : Place → Async String σ α) :
    Async StoreError σ α :=
  match path.resolve directory with
  | none => Async.fail (report "No such file or directory (os error 2)")
  | some place => (action place).mapError report

/-- `Path::exists`. -/
def existsAt (path : UnixPath) (state : σ) : Bool :=
  match path.resolve directory with
  | none => false
  | some place => system.pathExists place state

/-- `fs::create_dir_all`. There is nothing to create for the empty path. -/
def createDirectories (path : UnixPath) : Async StoreError σ Unit :=
  match path.resolve directory with
  | none => pure ()
  | some place => (system.createDirAll place).mapError .io

/-- A directory is created, and restricted if it did not exist. -/
def prepareDirectory (path : UnixPath) : Async StoreError σ Unit := do
  let state ← Async.get
  system.createDirectories directory path
  if system.existsAt directory path state then pure ()
  else reach directory .io path (system.setPermissions 0o700)

def lockWithin (path : UnixPath) (file : η) : Nat → Async StoreError σ η
  | 0 => Async.fail (.lockTimeout path.shown)
  | retries + 1 => do
    Async.modify system.sleep
    if ← (system.tryLock file).mapError .io then pure file
    else lockWithin path file retries

def sidecarLockPath (target : UnixPath) : UnixPath :=
  (target.parent.getD .here).join
    (.ofName (target.fileName.getD (utf8 "meshquill") ++ utf8 ".lock"))

def acquireLockPath (path : UnixPath) : Async StoreError σ η := do
  system.prepareDirectory directory (path.parent.getD .here)
  let file ← reach directory .io path (system.openFile .createOrOpen)
  (system.restrict 0o600 file).mapError .io
  if ← (system.tryLock file).mapError .io then pure file
  else system.lockWithin path file system.retries

/-- `lock_exclusive`. -/
def lockExclusive (path : UnixPath) : Async StoreError σ η :=
  system.acquireLockPath directory (sidecarLockPath path)

/-- What is dropped at the end of a block, however it ends. -/
def dropping (update : σ → σ) (body : Async StoreError σ α) : Async StoreError σ α :=
  fun state => ((body state).1, update (body state).2)

/-- A transaction: the lock is released however it ends. -/
def locked (path : UnixPath) (body : Async StoreError σ α) : Async StoreError σ α := do
  let lock ← system.lockExclusive directory path
  dropping (system.close lock) body

/-- The temporary file is filled and takes the place of the file. -/
def persistText (path : UnixPath) (text : String) (temporary : η) : Async StoreError σ Unit := do
  (system.restrict 0o600 temporary).mapError .io
  (system.writeAll (utf8 text) temporary).mapError .io
  (system.flush temporary).mapError .io
  (system.syncAll temporary).mapError .io
  reach directory (.atomicRename path.shown) path (system.persist temporary)

def replaceText (path : UnixPath) (text : String) : Async StoreError σ Unit := do
  let parent := path.parent.getD .here
  let state ← Async.get
  let name := utf8 (".meshquill-config-" ++ system.random state ++ ".tmp")
  let temporary ← reach directory .io (parent.join (.ofName name)) (system.openFile .createNew)
  dropping (system.discard temporary) (system.persistText directory path text temporary)
  let opened ← reach directory .io parent (system.openFile .read)
  (system.syncAll opened).mapError .io

def saveUnlocked (toml : Toml) (read : Mqtt.ReadFile) (config : Config) (path : UnixPath) :
    Async StoreError σ Unit := do
  Async.ofExcept (config.validate read)
  match path.parent with
  | some parent => system.prepareDirectory directory parent
  | none => pure ()
  let text ← Async.ofExcept (config.toTomlString toml)
  system.replaceText directory path text

def save (toml : Toml) (read : Mqtt.ReadFile) (config : Config) (path : UnixPath) :
    Async StoreError σ Unit :=
  system.locked directory path (system.saveUnlocked directory toml read config path)

def backupPath (path : UnixPath) (state : σ) : UnixPath :=
  (path.parent.getD .here).join (.ofName (utf8 ((path.fileName.bind fromUtf8).getD "config.toml" ++
    "." ++ toString (system.now state) ++ "." ++ toString system.processId ++ ".bak")))

def createBackup (path backup : UnixPath) : Async StoreError σ Unit := do
  let source ← reach directory .io path (system.openFile .read)
  let target ← reach directory .io backup (system.openFile .createNew)
  (system.restrict 0o600 target).mapError .io
  (system.copy source target).mapError .io
  (system.flush target).mapError .io
  (system.syncAll target).mapError .io

def backupUnlocked (path : UnixPath) : Async StoreError σ UnixPath := do
  let state ← Async.get
  if system.existsAt directory path state then do
    system.createBackup directory path (system.backupPath path state)
    return system.backupPath path state
  else return system.backupPath path state

def backup (path : UnixPath) : Async StoreError σ UnixPath :=
  system.locked directory path (system.backupUnlocked directory path)

/-- `load_with_overrides`. -/
def load (toml : Toml) (read : Mqtt.ReadFile) (overrides : List (String × String))
    (path : UnixPath) : Async StoreError σ LoadOutcome := do
  let state ← Async.get
  if system.existsAt directory path state then do
    let file ← reach directory .io path (system.openFile .read)
    let bytes ← (system.readAll file).mapError .io
    let raw ← Async.ofExcept (readRaw bytes)
    Async.ofExcept (loadText toml read overrides path.shown raw)
  else return .missing

end FileSystem

/-! ## Runs that end alike -/

/-- Both return, with related values, or both fail, and they leave the same state. Errors differ,
since they show paths. -/
inductive Alike {ε σ α : Type} (same : α → α → Prop) : Exit ε α × σ → Exit ε α × σ → Prop
  | done {value other : α} (state : σ) (related : same value other) :
      Alike same (.done value, state) (.done other, state)
  | failed (error other : ε) (state : σ) : Alike same (.failed error, state) (.failed other, state)
  | dropped (state : σ) : Alike same (.dropped, state) (.dropped, state)

/-- From every state they end alike. -/
def Agree {ε σ α : Type} (same : α → α → Prop) (one other : Async ε σ α) : Prop :=
  ∀ state, Alike same (one state) (other state)

section Agreement

variable {ε σ α β : Type} {same : α → α → Prop} {alike : β → β → Prop}

theorem agree_refl (body : Async ε σ α) : Agree (· = ·) body body := by
  intro state
  rcases body state with ⟨exit, reached⟩
  cases exit with
  | done value => exact .done reached rfl
  | failed error => exact .failed error error reached
  | dropped => exact .dropped reached

variable {next later : α → Async ε σ β} {one : Except ε α} {ε' : Type}

theorem agree_bind {one other : Async ε σ α} (first : Agree same one other)
    (second : ∀ value value', same value value' → Agree alike (next value) (later value')) :
    Agree alike (one >>= next) (other >>= later) := by
  intro state
  have ends := first state
  rw [Async.bind_apply, Async.bind_apply]
  revert ends
  generalize one state = left
  generalize other state = right
  intro ends
  cases ends with
  | done reached related => exact second _ _ related reached
  | failed error error' reached => exact .failed error error' reached
  | dropped reached => exact .dropped reached

/-- The first steps are the same. -/
theorem agree_then {first : Async ε σ α}
    (second : ∀ value, Agree alike (next value) (later value)) :
    Agree alike (first >>= next) (first >>= later) := by
  refine agree_bind (agree_refl first) ?_
  rintro value _ rfl
  exact second value

theorem agree_ofExcept {other : Except ε α} (same : one.toOption = other.toOption) :
    Agree (· = ·) (Async.ofExcept one : Async ε σ α) (Async.ofExcept other) := by
  intro state
  cases one with
  | ok value =>
    cases other with
    | ok other => exact .done state (Option.some.inj same)
    | error error => cases same
  | error error =>
    cases other with
    | ok value => cases same
    | error error' => exact .failed error error' state

theorem agree_mapError (change report : ε' → ε) (body : Async ε' σ α) :
    Agree (· = ·) (body.mapError change) (body.mapError report) := by
  intro state
  rw [Async.mapError, Async.mapError]
  rcases body state with ⟨exit, reached⟩
  cases exit with
  | done value => exact .done reached rfl
  | failed error => exact .failed _ _ reached
  | dropped => exact .dropped reached

theorem toOption_bind {other : Except ε α} {next later : α → Except ε β}
    (same : one.toOption = other.toOption)
    (second : ∀ value, (next value).toOption = (later value).toOption) :
    (one >>= next).toOption = (other >>= later).toOption := by
  cases one with
  | ok value =>
    cases other with
    | ok other =>
      rw [← Option.some.inj same]
      exact second value
    | error error => cases same
  | error error =>
    cases other with
    | ok value => cases same
    | error error' => rfl

theorem toOption_mapError (change report : ε' → ε) (result : Except ε' α) :
    (result.mapError change).toOption = (result.mapError report).toOption := by
  cases result <;> rfl

end Agreement

/-! ## Two spellings of one path -/

/-- Two paths at one place with one name, whose parents are at one place. -/
structure Spells (directory : Place) (path other above otherAbove : UnixPath) : Prop where
  place : path.resolve directory = other.resolve directory
  name : path.fileName = other.fileName
  parent : path.parent = some above
  otherParent : other.parent = some otherAbove
  filled : above ≠ .empty
  otherFilled : otherAbove ≠ .empty
  abovePlace : above.resolve directory = otherAbove.resolve directory

section Spelling

variable {σ η α : Type} {system : FileSystem σ η} {directory : Place}
  {path other above otherAbove : UnixPath}

theorem agree_reach (report otherReport : String → StoreError)
    (place : path.resolve directory = other.resolve directory)
    (action : Place → Async String σ α) :
    Agree (· = ·) (FileSystem.reach directory report path action)
      (FileSystem.reach directory otherReport other action) := by
  rw [FileSystem.reach, FileSystem.reach, place]
  cases other.resolve directory with
  | none => exact fun state => .failed _ _ state
  | some place => exact agree_mapError report otherReport (action place)

theorem agree_dropping {same : α → α → Prop} {body otherBody : Async StoreError σ α}
    (update : σ → σ) (bodies : Agree same body otherBody) :
    Agree same (FileSystem.dropping update body) (FileSystem.dropping update otherBody) := by
  intro state
  have ends := bodies state
  rw [FileSystem.dropping, FileSystem.dropping]
  revert ends
  generalize body state = left
  generalize otherBody state = right
  intro ends
  cases ends with
  | done reached related => exact .done (update reached) related
  | failed error error' reached => exact .failed error error' (update reached)
  | dropped reached => exact .dropped (update reached)

theorem existsAt_congr (place : path.resolve directory = other.resolve directory) :
    system.existsAt directory path = system.existsAt directory other := by
  funext state
  rw [FileSystem.existsAt, FileSystem.existsAt, place]

theorem prepareDirectory_congr (place : path.resolve directory = other.resolve directory) :
    system.prepareDirectory directory path = system.prepareDirectory directory other := by
  have restricted : ∀ action : Place → Async String σ Unit,
      FileSystem.reach directory .io path action = FileSystem.reach directory .io other action := by
    intro action
    rw [FileSystem.reach, FileSystem.reach, place]
  rw [FileSystem.prepareDirectory, FileSystem.prepareDirectory, FileSystem.createDirectories,
    FileSystem.createDirectories, place, existsAt_congr place, restricted]

theorem agree_lockWithin (file : η) (retries : Nat) :
    Agree (· = ·) (system.lockWithin path file retries) (system.lockWithin other file retries) := by
  induction retries with
  | zero => exact fun state => .failed _ _ state
  | succ retries ih =>
    refine agree_then fun _ => agree_then fun acquired => ?_
    cases acquired with
    | true => exact agree_refl _
    | false => exact ih

namespace Spells

variable (spells : Spells directory path other above otherAbove)

include spells

/-- Files beside the two are at one place. -/
theorem beside (name : Bytes) : (above.join (.ofName name)).resolve directory =
    (otherAbove.join (.ofName name)).resolve directory := by
  rw [UnixPath.resolve_join_ofName spells.filled, UnixPath.resolve_join_ofName spells.otherFilled,
    spells.abovePlace]

theorem lockExclusive : Agree (· = ·) (system.lockExclusive directory path)
    (system.lockExclusive directory other) := by
  have lockPaths : FileSystem.sidecarLockPath path = above.join
        (.ofName (other.fileName.getD (utf8 "meshquill") ++ utf8 ".lock")) ∧
      FileSystem.sidecarLockPath other = otherAbove.join
        (.ofName (other.fileName.getD (utf8 "meshquill") ++ utf8 ".lock")) := by
    constructor
    · rw [FileSystem.sidecarLockPath, spells.parent, spells.name, Option.getD_some]
    · rw [FileSystem.sidecarLockPath, spells.otherParent, Option.getD_some]
  rw [FileSystem.lockExclusive, FileSystem.lockExclusive, lockPaths.1, lockPaths.2,
    FileSystem.acquireLockPath, FileSystem.acquireLockPath,
    UnixPath.parent_join_ofName spells.filled, UnixPath.parent_join_ofName spells.otherFilled,
    Option.getD_some, Option.getD_some, prepareDirectory_congr spells.abovePlace]
  refine agree_then fun _ => agree_bind (agree_reach _ _ (spells.beside _) _) ?_
  rintro file _ rfl
  refine agree_then fun _ => agree_then fun acquired => ?_
  cases acquired with
  | true => exact agree_refl _
  | false => exact agree_lockWithin file _

theorem locked {same : α → α → Prop} {body otherBody : Async StoreError σ α}
    (bodies : Agree same body otherBody) :
    Agree same (system.locked directory path body) (system.locked directory other otherBody) := by
  refine agree_bind spells.lockExclusive ?_
  rintro lock _ rfl
  exact agree_dropping _ bodies

theorem persistText (text : String) (temporary : η) :
    Agree (· = ·) (system.persistText directory path text temporary)
      (system.persistText directory other text temporary) :=
  agree_then fun _ => agree_then fun _ => agree_then fun _ => agree_then fun _ =>
    agree_reach _ _ spells.place _

theorem replaceText (text : String) : Agree (· = ·) (system.replaceText directory path text)
    (system.replaceText directory other text) := by
  rw [FileSystem.replaceText, FileSystem.replaceText, spells.parent, spells.otherParent]
  refine agree_then fun state => agree_bind (agree_reach _ _ (spells.beside _) _) ?_
  rintro temporary _ rfl
  refine agree_bind (agree_dropping _ (spells.persistText text temporary)) fun _ _ _ => ?_
  refine agree_bind (agree_reach _ _ spells.abovePlace _) ?_
  rintro opened _ rfl
  exact agree_refl _

theorem save (toml : Toml) (read : Mqtt.ReadFile) (config : Config) :
    Agree (· = ·) (system.save directory toml read config path)
      (system.save directory toml read config other) := by
  apply spells.locked
  rw [FileSystem.saveUnlocked, FileSystem.saveUnlocked, spells.parent, spells.otherParent]
  refine agree_then fun _ => ?_
  dsimp only
  rw [prepareDirectory_congr spells.abovePlace]
  exact agree_then fun _ => agree_then fun text => spells.replaceText text

theorem backup : Agree (fun one another => one.resolve directory = another.resolve directory)
    (system.backup directory path) (system.backup directory other) := by
  have besides : ∀ state, (system.backupPath path state).resolve directory =
      (system.backupPath other state).resolve directory := by
    intro state
    rw [FileSystem.backupPath, FileSystem.backupPath, spells.parent, spells.otherParent,
      spells.name]
    exact spells.beside _
  have copies : ∀ state, Agree (· = ·)
      (system.createBackup directory path (system.backupPath path state))
      (system.createBackup directory other (system.backupPath other state)) := by
    intro state
    refine agree_bind (agree_reach _ _ spells.place _) ?_
    rintro source _ rfl
    refine agree_bind (agree_reach _ _ (besides state) _) ?_
    rintro target _ rfl
    exact agree_refl _
  apply spells.locked
  refine agree_then fun state => ?_
  rw [existsAt_congr spells.place]
  by_cases present : system.existsAt directory other state = true
  · rw [if_pos present, if_pos present]
    exact agree_bind (copies state) fun _ _ _ => fun reached => .done reached (besides state)
  · rw [if_neg present, if_neg present]
    exact fun reached => .done reached (besides state)

end Spells

/-- The path of a document enters errors only. -/
theorem toOption_readDocument (toml : Toml) (path other : PathBuf) (value : Value) :
    (readDocument toml path value).toOption = (readDocument toml other value).toOption := by
  rw [readDocument, readDocument]
  cases value.version with
  | some version =>
    by_cases current : version = configVersion.toNat
    · simp only [if_pos current]
      exact toOption_bind (toOption_mapError _ _ (toml.decode value)) fun _ => rfl
    · simp only [if_neg current]
  | none =>
    simp only [fromLegacyValue]
    cases LegacyConfig.read value <;> rfl

theorem toOption_loadText (toml : Toml) (read : Mqtt.ReadFile)
    (overrides : List (String × String)) (path other : PathBuf) (raw : String) :
    (loadText toml read overrides path raw).toOption =
      (loadText toml read overrides other raw).toOption := by
  refine toOption_bind rfl fun _ => toOption_bind (toOption_mapError _ _ _) fun value => ?_
  exact toOption_bind (toOption_readDocument toml path other value) fun _ => rfl

theorem Spells.load (spells : Spells directory path other above otherAbove) (toml : Toml)
    (read : Mqtt.ReadFile) (overrides : List (String × String)) :
    Agree (· = ·) (system.load directory toml read overrides path)
      (system.load directory toml read overrides other) := by
  refine agree_then fun state => ?_
  rw [existsAt_congr spells.place]
  by_cases present : system.existsAt directory other state = true
  · rw [if_pos present, if_pos present]
    refine agree_bind (agree_reach _ _ spells.place _) ?_
    rintro file _ rfl
    refine agree_then fun bytes => agree_then fun raw => ?_
    exact agree_ofExcept (toOption_loadText toml read overrides _ _ raw)
  · rw [if_neg present, if_neg present]
    exact agree_refl _

end Spelling

/-! ## From the working directory -/

/-- Whatever the system does, from every state in which the working directory exists, the four
operations end alike with either path. -/
def Interchangeable (directory : Place) (path other : UnixPath) : Prop :=
  ∀ (σ η : Type) (system : FileSystem σ η) (toml : Toml) (read : Mqtt.ReadFile) (state : σ),
    system.pathExists directory state = true →
      Alike (· = ·) (system.lockExclusive directory path state)
        (system.lockExclusive directory other state) ∧
      (∀ config, Alike (· = ·) (system.save directory toml read config path state)
        (system.save directory toml read config other state)) ∧
      Alike (fun one another => one.resolve directory = another.resolve directory)
        (system.backup directory path state) (system.backup directory other state) ∧
      ∀ overrides, Alike (· = ·) (system.load directory toml read overrides path state)
        (system.load directory toml read overrides other state)

/-- The absolute path of the working directory. -/
def absolute (directory : Place) : UnixPath := ⟨.root, directory⟩

section Relative

variable {directory : Place} {path above : UnixPath}

theorem absolute_ne_empty : absolute directory ≠ .empty := by
  simp [absolute, UnixPath.empty]

theorem join_absolute (relative : path.anchor ≠ .root) :
    (absolute directory).join path = absolute (directory ++ path.steps) := by
  rw [UnixPath.join, if_neg (not_or.mpr ⟨relative, absolute_ne_empty⟩)]
  rfl

theorem spells_absolute (relative : path.anchor ≠ .root) (parent : path.parent = some above)
    (filled : above ≠ .empty) :
    Spells directory path ((absolute directory).join path) above
      ((absolute directory).join above) := by
  obtain ⟨anchor, steps⟩ := path
  have long : steps ≠ [] := by
    rintro rfl
    rw [UnixPath.parent, if_pos rfl] at parent
    split at parent
    · exact filled (Option.some.inj parent).symm
    · cases parent
  rw [UnixPath.parent, if_neg long] at parent
  obtain rfl := Option.some.inj parent
  dsimp only at relative filled ⊢
  rw [join_absolute relative, join_absolute relative]
  have place : ∀ steps, (⟨anchor, steps⟩ : UnixPath) ≠ .empty →
      UnixPath.resolve directory ⟨anchor, steps⟩ = some (directory ++ steps) := by
    intro steps filled
    cases anchor with
    | root => exact absurd rfl relative
    | current => rfl
    | bare => exact if_neg fun (blank : steps = []) => filled (by rw [blank, UnixPath.empty])
  refine ⟨?_, ?_, ?_, ?_, filled, absolute_ne_empty, place _ filled⟩
  · exact place steps fun blank => long (congrArg UnixPath.steps blank)
  · simp [UnixPath.fileName, absolute, List.getLast?_append_of_ne_nil _ long]
  · rw [UnixPath.parent, if_neg long]
  · rw [UnixPath.parent, if_neg (by simp [absolute, long])]
    simp [absolute, List.dropLast_append_of_ne_nil long]

/-- Of the relative paths only the empty one has no parent. -/
theorem eq_empty_of_parent (relative : path.anchor ≠ .root) (parent : path.parent = none) :
    path = .empty := by
  obtain ⟨anchor, steps⟩ := path
  by_cases short : steps = []
  · rw [UnixPath.parent, if_pos short] at parent
    subst short
    cases anchor with
    | root => exact absurd rfl relative
    | current => cases parent
    | bare => rfl
  · rw [UnixPath.parent, if_neg short] at parent
    cases parent

/-- No path from the root has the empty path as its parent. -/
theorem parent_absolute : (absolute directory).parent ≠ some .empty := by
  rw [UnixPath.parent]
  split
  · simp [absolute]
  · exact fun same => absolute_ne_empty (Option.some.inj same)

/-- The lock of a path whose parent is the empty path is never acquired. -/
theorem lockExclusive_bare {σ η : Type} (system : FileSystem σ η)
    (bare : path.parent = some .empty) (state : σ) :
    ∃ error, system.lockExclusive directory path state = (.failed error, state) := by
  have lockPath : FileSystem.sidecarLockPath path =
      .ofName (path.fileName.getD (utf8 "meshquill") ++ utf8 ".lock") := by
    rw [FileSystem.sidecarLockPath, bare, Option.getD_some, UnixPath.join, if_pos (.inr rfl)]
  rw [FileSystem.lockExclusive, lockPath]
  exact ⟨_, rfl⟩

end Relative

/-- A system in which every step succeeds, except that nothing can be read. -/
def openSystem : FileSystem Unit Unit where
  pathExists _ _ := true
  createDirAll _ := pure ()
  setPermissions _ _ := pure ()
  openFile _ _ := pure ()
  restrict _ _ := pure ()
  tryLock _ := pure true
  retries := 0
  sleep := id
  close _ := id
  writeAll _ _ := pure ()
  flush _ := pure ()
  syncAll _ := pure ()
  persist _ _ := pure ()
  discard _ := id
  readAll _ := Async.fail "Is a directory (os error 21)"
  copy _ _ := pure ()
  random _ := "a"
  now _ := 0
  processId := 1

theorem lockExclusive_openSystem (directory : Place) {path : UnixPath}
    (parent : path.parent ≠ some .empty) :
    openSystem.lockExclusive directory path () = (.done (), ()) := by
  have filled : path.parent.getD .here ≠ .empty := by
    cases above : path.parent with
    | none => simp [UnixPath.here, UnixPath.empty]
    | some found =>
      rintro rfl
      exact parent above
  obtain ⟨place, found⟩ := Option.isSome_iff_exists.mp (@UnixPath.resolve_isSome directory _ filled)
  have lockFound : ∀ name, ((path.parent.getD .here).join (.ofName name)).resolve directory =
      some (place ++ [.normal name]) := by
    intro name
    rw [UnixPath.resolve_join_ofName filled, found, Option.map_some]
  rw [FileSystem.lockExclusive, FileSystem.sidecarLockPath, FileSystem.acquireLockPath,
    UnixPath.parent_join_ofName filled, Option.getD_some]
  simp only [FileSystem.prepareDirectory, FileSystem.createDirectories, FileSystem.existsAt,
    FileSystem.reach, found, lockFound]
  rfl

/-- Locking, saving, backing up and loading by a relative path do what they do by the path from
the root exactly if the parent of the path is not empty: a bare file name cannot even be locked. -/
theorem relative_interchangeable_iff (directory : Place) (path : UnixPath)
    (relative : path.anchor ≠ .root) :
    Interchangeable directory path ((absolute directory).join path) ↔
      ∃ above, path.parent = some above ∧ above ≠ .empty := by
  constructor
  · intro interchangeable
    obtain ⟨locks, -, -, loads⟩ := interchangeable Unit Unit openSystem (sampleToml 1)
      (fun _ _ => .ok []) () rfl
    cases parent : path.parent with
    | none =>
      -- Only the empty path has no parent. It does not exist, but the directory does.
      have blank := eq_empty_of_parent relative parent
      subst blank
      cases loads []
    | some above =>
      refine ⟨above, rfl, ?_⟩
      rintro rfl
      obtain ⟨error, failed⟩ := @lockExclusive_bare directory _ _ _ openSystem parent ()
      rw [failed, join_absolute relative,
        lockExclusive_openSystem directory parent_absolute] at locks
      cases locks
  · rintro ⟨above, parent, filled⟩ σ η system toml read state _
    have spells := @spells_absolute directory _ _ relative parent filled
    refine ⟨spells.lockExclusive state, fun config => spells.save toml read config state,
      spells.backup state, fun overrides => spells.load toml read overrides state⟩

/-- The configuration in a directory below the working directory. -/
def nestedPath : UnixPath := ⟨.bare, [.normal (utf8 "field"), .normal (utf8 "config.toml")]⟩

theorem nestedPath_interchangeable :
    Interchangeable [.normal (utf8 "home")] nestedPath
      ((absolute [.normal (utf8 "home")]).join nestedPath) :=
  (relative_interchangeable_iff _ nestedPath (by simp [nestedPath])).mpr
    ⟨.ofName (utf8 "field"), rfl, by simp [UnixPath.ofName, UnixPath.empty]⟩

/-- In a system where every step succeeds, the lock of a bare file name fails, and that of its path
from the root does not. -/
theorem bare_name_not_locked :
    (∃ error, openSystem.lockExclusive [.normal (utf8 "home")] (.ofName (utf8 "config.toml")) () =
      (.failed error, ())) ∧
    openSystem.lockExclusive [.normal (utf8 "home")]
      ((absolute [.normal (utf8 "home")]).join (.ofName (utf8 "config.toml"))) () = (.done (), ()) ∧
    ¬ Interchangeable [.normal (utf8 "home")] (.ofName (utf8 "config.toml"))
      ((absolute [.normal (utf8 "home")]).join (.ofName (utf8 "config.toml"))) := by
  have bare := @lockExclusive_bare [.normal (utf8 "home")] (.ofName (utf8 "config.toml")) _ _
    openSystem rfl ()
  have fromRoot : openSystem.lockExclusive [.normal (utf8 "home")]
      ((absolute [.normal (utf8 "home")]).join (.ofName (utf8 "config.toml"))) () =
        (.done (), ()) := by
    rw [join_absolute (by simp [UnixPath.ofName])]
    exact lockExclusive_openSystem _ parent_absolute
  refine ⟨bare, fromRoot, fun interchangeable => ?_⟩
  obtain ⟨locks, -⟩ :=
    interchangeable Unit Unit openSystem (sampleToml 1) (fun _ _ => .ok []) () rfl
  obtain ⟨error, failed⟩ := bare
  rw [failed, fromRoot] at locks
  cases locks

end Meshquill.Store
