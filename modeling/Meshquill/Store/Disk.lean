import Meshquill.Async
import Meshquill.Domain

/-!
# Files and how they are replaced

What the store does to the file system, step by step. A step that fails leaves the disk as it
was, and so does one that the process does not live to take: the effects of the steps before it
stay. Only a write may take place in part. The permissions that the store sets are not modelled.

`replaceFile` is the common part of `save_unlocked` and `persist`. It fills a temporary file,
write by write, and then moves what is there under the name of the file. `ends_replaceFile` says
how it can end: an error before the rename means that the file is as it was, but an error after
it does not.
-/
namespace Meshquill.Store

/-- `PathBuf`, by its components. -/
abbrev PathBuf := List String

/-- `StoreError`, apart from the platform paths. -/
inductive StoreError where
  | io (message : String)
  | lockTimeout (path : PathBuf)
  | serde (message : String)
  | parse (path : PathBuf) (message : String)
  | unsupportedVersion (version : UInt8)
  | validation (field message : String)
  | secretUnavailable (backend message : String)
  | promptRequired
  | atomicRename (path : PathBuf) (message : String)
deriving DecidableEq

/-- The files by name, which directories exist, and the temporary files, the one in use first.
The names of these are drawn at random, so that no file has one. -/
structure Disk where
  files : PathBuf → Option Bytes
  directories : PathBuf → Bool
  temporaries : List Bytes := []

namespace Disk

/-- `Path::exists`, for a path that does not name a directory. -/
def pathExists (disk : Disk) (path : PathBuf) : Bool := (disk.files path).isSome

/-- Put this under the name, whatever stood there. -/
def set (disk : Disk) (path : PathBuf) (contents : Option Bytes) : Disk :=
  { disk with files := fun other => if other = path then contents else disk.files other }

/-- `fs::create_dir_all`: the directory and those above it. -/
def createDirAll (disk : Disk) (path : PathBuf) : Disk :=
  { disk with directories := fun other => other.isPrefixOf path || disk.directories other }

/-- No files and no directories. -/
def blank : Disk := { files := fun _ => none, directories := fun _ => false }

/-- One more temporary file, with these contents. -/
def holding (disk : Disk) (contents : Bytes) : Disk :=
  { disk with temporaries := contents :: disk.temporaries }

/-- Write to the end of the temporary file. -/
def append (disk : Disk) (bytes : Bytes) : Disk :=
  { disk with temporaries := disk.temporaries.modifyHead (· ++ bytes) }

/-- Remove the temporary file, as `NamedTempFile` does when it goes out of scope. -/
def dropTemporary (disk : Disk) : Disk := { disk with temporaries := disk.temporaries.tail }

/-- Move the temporary file to the path. -/
def rename (disk : Disk) (path : PathBuf) : Disk :=
  (disk.set path disk.temporaries.head?).dropTemporary

variable {disk : Disk} {path other : PathBuf} {contents : Option Bytes}

@[simp] theorem files_set_same : (disk.set path contents).files path = contents := if_pos rfl

theorem files_set_other (differs : other ≠ path) :
    (disk.set path contents).files other = disk.files other := if_neg differs

@[simp] theorem files_createDirAll : (disk.createDirAll path).files = disk.files := rfl

end Disk

/-- What happens in the place of a step. Of a write, this many bytes are written before. -/
inductive Fault where
  | error (message : String) (written : Nat := 0)
  | crash (written : Nat := 0)
deriving DecidableEq

/-- The steps that do not take place. -/
abbrev Faults (Step : Type) := Step → Option Fault

/-- Every step takes place. -/
abbrev noFault {Step : Type} : Faults Step := fun _ => none

/-- What the store does to the disk. -/
abbrev Storing := Async StoreError Disk

variable (fault : Option Fault)

/-- A step that changes the disk. -/
def perform (report : String → StoreError) (effect : Disk → Disk) :
    Storing Unit := fun disk =>
  match fault with
  | none => (.done (), effect disk)
  | some (.error message _) => (.failed (report message), disk)
  | some (.crash _) => (.dropped, disk)

/-- A step that the disk does not show. -/
def pass : Storing Unit := perform fault .io id

@[simp] theorem pass_none (disk : Disk) : pass none disk = (.done (), disk) := rfl

/-- Act only under a condition. -/
def onlyIf (condition : Bool) (action : Storing Unit) : Storing Unit :=
  if condition then action else pure ()

@[simp] theorem onlyIf_true (action : Storing Unit) : onlyIf true action = action := rfl

@[simp] theorem onlyIf_false (action : Storing Unit) : onlyIf false action = pure () := rfl

/-- The parent directory of a file. -/
def parent (path : PathBuf) : PathBuf := path.dropLast

/-- `remove_file_if_exists`. -/
def removeFileIfExists (path : PathBuf) : Storing Unit :=
  perform fault .io (·.set path none)

/-! ## Replacement -/

/-- The steps of a replacement. -/
inductive ReplaceStep where
  | createDirectory
  | restrictDirectory
  | createTemporary
  | restrictTemporary
  | write (index : Nat)
  | flush
  | syncFile
  | rename
  | openDirectory
  | syncDirectory
deriving DecidableEq

/-- Write these bytes to the temporary file. -/
def writeAll (bytes : Bytes) : Storing Unit := fun disk =>
  match fault with
  | none => (.done (), disk.append bytes)
  | some (.error message written) => (.failed (.io message), disk.append (bytes.take written))
  | some (.crash written) => (.dropped, disk.append (bytes.take written))

/-- Write to the temporary file. A part of the contents may turn out not to be writable. -/
def writeChunks (faults : Faults ReplaceStep) :
    Nat → List (Except StoreError Bytes) → Storing Unit
  | _, [] => pure ()
  | index, chunk :: chunks => do
    writeAll (faults (.write index)) (← Async.ofExcept chunk)
    writeChunks faults (index + 1) chunks

/-- An error drops the temporary file. A crash does not. -/
def withTemporary (body : Storing Unit) : Storing Unit := fun disk =>
  match body disk with
  | (.failed error, reached) => (.failed error, reached.dropTemporary)
  | ended => ended

/-- Fill the temporary file, sync it and move it to the path. -/
def fillTemporary (faults : Faults ReplaceStep) (path : PathBuf)
    (chunks : List (Except StoreError Bytes)) : Storing Unit := do
  pass (faults .restrictTemporary)
  writeChunks faults 0 chunks
  pass (faults .flush)
  pass (faults .syncFile)
  perform (faults .rename) (.atomicRename path) (·.rename path)

/-- Sync the directory of a file that was renamed into it. -/
def syncParent (faults : Faults ReplaceStep) : Storing Unit := do
  pass (faults .openDirectory)
  pass (faults .syncDirectory)

/-- Put these contents under the path, by way of a temporary file. -/
def replaceFile (faults : Faults ReplaceStep) (path : PathBuf)
    (chunks : List (Except StoreError Bytes)) : Storing Unit := do
  perform (faults .createTemporary) .io (·.holding [])
  withTemporary (fillTemporary faults path chunks)
  syncParent faults

/-- What the chunks amount to. -/
def contentsOf : List (Except StoreError Bytes) → Except StoreError Bytes
  | [] => .ok []
  | chunk :: chunks => do
    let bytes ← chunk
    let rest ← contentsOf chunks
    return bytes ++ rest

theorem contentsOf_single (bytes : Bytes) : contentsOf [.ok bytes] = .ok bytes :=
  congrArg Except.ok (List.append_nil bytes)

/-! ## How a transaction ends -/

/-- What holds of the disk after a transaction that starts on this one: `done` if it returns a
value, and `stopped` if it does not. -/
def Ends {ε α : Type} (disk : Disk) (body : Async ε Disk α) (done : α → Disk → Prop)
    (stopped : Disk → Prop) : Prop :=
  Async.Outcome (· = disk) body done (fun _ => stopped) stopped

section Ends

variable {ε α β : Type} {disk : Disk} {body : Async ε Disk α} {next : α → Async ε Disk β}
  {done returned : α → Disk → Prop} {final : β → Disk → Prop} {stopped halted : Disk → Prop}

theorem Ends.mono (ends : Ends disk body done stopped)
    (values : ∀ value reached, done value reached → returned value reached)
    (others : ∀ reached, stopped reached → halted reached) :
    Ends disk body returned halted :=
  Async.Outcome.mono ends values (fun _ => others) others

theorem ends_pure (value : α) (ready : done value disk) :
    Ends disk (pure value : Async ε Disk α) done stopped :=
  Async.outcome_pure value fun _ same => same ▸ ready

theorem ends_fail (error : ε) (ready : stopped disk) :
    Ends disk (Async.fail error : Async ε Disk α) done stopped :=
  Async.outcome_fail error fun _ same => same ▸ ready

theorem ends_bind (head : Ends disk body done stopped)
    (tail : ∀ value reached, done value reached → Ends reached (next value) final stopped) :
    Ends disk (body >>= next) final stopped :=
  Async.outcome_bind head fun value reached holds => tail value reached holds reached rfl

/-- The result of a transaction and the disk it leaves. -/
theorem Ends.cases (ends : Ends disk body done stopped) :
    (∃ value, (body disk).1 = .done value ∧ done value (body disk).2) ∨
      ((∀ value, (body disk).1 ≠ .done value) ∧ stopped (body disk).2) := by
  have ended := ends disk rfl
  rcases ran : body disk with ⟨value | error | _, reached⟩
  all_goals rw [ran] at ended
  · exact .inl ⟨value, rfl, ended⟩
  · exact .inr ⟨nofun, ended⟩
  · exact .inr ⟨nofun, ended⟩

theorem Ends.returns {value : α} (ends : Ends disk body done stopped)
    (returned : (body disk).1 = .done value) : done value (body disk).2 := by
  rcases ends.cases with ⟨found, exits, holds⟩ | ⟨stops, -⟩
  · cases exits.symm.trans returned
    exact holds
  · exact absurd returned (stops value)

/-- A first part that leaves the disk as it is. -/
theorem ends_then {good : α → Prop}
    (head : Ends disk body (fun value reached => good value ∧ reached = disk) stopped)
    (tail : ∀ value, good value → Ends disk (next value) final stopped) :
    Ends disk (body >>= next) final stopped :=
  ends_bind head fun value _ holds => holds.2 ▸ tail value holds.1

theorem ends_get {next : Disk → Async ε Disk α} (tail : Ends disk (next disk) done stopped) :
    Ends disk (Async.get >>= next) done stopped :=
  fun _ same => same ▸ tail disk rfl

theorem ends_onlyIf {condition : Bool} {action : Storing Unit} {done : Unit → Disk → Prop}
    (acts : condition = true → Ends disk action done stopped)
    (skips : condition = false → done () disk) :
    Ends disk (onlyIf condition action) done stopped := by
  cases condition with
  | false => exact ends_pure () (skips rfl)
  | true => exact acts rfl

theorem ends_ofExcept (result : Except ε α) (ready : stopped disk) :
    Ends disk (Async.ofExcept result)
      (fun value reached => result = .ok value ∧ reached = disk) stopped := by
  cases result with
  | ok value => exact ends_pure value ⟨rfl, rfl⟩
  | error error => exact ends_fail error ready

/-- An observed result. -/
theorem ends_attempt {failed : Disk → Prop} (ends : Ends disk body done failed)
    (crashed : ∀ reached, failed reached → stopped reached) :
    Ends disk (Async.attempt body)
      (fun result reached => (∃ value, result = .ok value ∧ done value reached) ∨
        (∃ error, result = .error error) ∧ failed reached) stopped := by
  rintro state rfl
  have ended := ends state rfl
  unfold Async.attempt
  rcases ran : body state with ⟨value | error | _, reached⟩
  all_goals rw [ran] at ended
  · exact .inl ⟨value, rfl, ended⟩
  · exact .inr ⟨⟨error, rfl⟩, ended⟩
  · exact crashed reached ended

/-- What holds however the body ends holds however its result is observed. -/
theorem ends_attempt_always {always : Disk → Prop}
    (ends : Ends disk body (fun _ => always) always) :
    Ends disk (Async.attempt body) (fun _ => always) always := by
  refine (ends_attempt ends fun _ holds => holds).mono ?_ fun _ holds => holds
  rintro _ reached (⟨_, -, holds⟩ | ⟨-, holds⟩)
  · exact holds
  · exact holds

theorem ends_mapError {ε' : Type} (change : ε → ε') (ends : Ends disk body done stopped) :
    Ends disk (body.mapError change) done stopped := by
  rintro state rfl
  have ended := ends state rfl
  unfold Async.mapError
  rcases ran : body state with ⟨value | error | _, reached⟩
  all_goals rw [ran] at ended; exact ended

theorem ends_perform (fault : Option Fault) (report : String → StoreError)
    (effect : Disk → Disk) :
    Ends disk (perform fault report effect)
      (fun _ reached => fault = none ∧ reached = effect disk)
      (fun reached => fault ≠ none ∧ reached = disk) := by
  rintro state rfl
  rcases fault with _ | message | _
  · exact ⟨rfl, rfl⟩
  · exact ⟨nofun, rfl⟩
  · exact ⟨nofun, rfl⟩

theorem ends_pass (fault : Option Fault) (ready : fault ≠ none → stopped disk) :
    Ends disk (pass fault) (fun _ reached => fault = none ∧ reached = disk) stopped :=
  (ends_perform fault .io id).mono (fun _ _ holds => holds)
    fun _ ⟨faulty, same⟩ => same ▸ ready faulty

theorem ends_onlyIf_pass (condition : Bool) (fault : Option Fault) (ready : stopped disk) :
    Ends disk (onlyIf condition (pass fault)) (fun _ reached => True ∧ reached = disk) stopped :=
  ends_onlyIf (fun _ => (ends_pass fault fun _ => ready).mono (fun _ _ holds => ⟨trivial, holds.2⟩)
    fun _ holds => holds) fun _ => ⟨trivial, rfl⟩

end Ends

/-! ## The law of a replacement -/

section Replacement

variable {faults : Faults ReplaceStep} {path : PathBuf} {disk : Disk} {contents : Bytes}
  {chunks : List (Except StoreError Bytes)}

theorem ends_writeAll (fault : Option Fault) (before bytes : Bytes) :
    Ends (disk.holding before) (writeAll fault bytes)
      (fun _ reached => reached = disk.holding (before ++ bytes))
      (fun reached => reached.files = disk.files) := by
  rintro _ rfl
  rcases fault with _ | ⟨message, written⟩ | written <;> rfl

/-- Writes that return have added all the chunks to the temporary file. -/
theorem ends_writeChunks (faults : Faults ReplaceStep) (index : Nat) (before : Bytes)
    (chunks : List (Except StoreError Bytes)) :
    Ends (disk.holding before) (writeChunks faults index chunks)
      (fun _ reached => ∃ contents, contentsOf chunks = .ok contents ∧
        reached = disk.holding (before ++ contents))
      (fun reached => reached.files = disk.files) := by
  induction chunks generalizing index before with
  | nil => exact ends_pure () ⟨[], rfl, by rw [List.append_nil]⟩
  | cons chunk chunks ih =>
    refine ends_then (ends_ofExcept chunk rfl) ?_
    rintro bytes rfl
    refine ends_bind (ends_writeAll _ before bytes) ?_
    rintro _ _ rfl
    refine (ih (index + 1) (before ++ bytes)).mono ?_ fun _ holds => holds
    rintro _ _ ⟨contents, written, rfl⟩
    refine ⟨bytes ++ contents, ?_, by rw [List.append_assoc]⟩
    rw [contentsOf, written]
    rfl

/-- A temporary file is dropped on the way out, which changes no file. -/
theorem ends_withTemporary {body : Storing Unit} {done : Unit → Disk → Prop} {start : Disk}
    (ends : Ends start body done fun reached => reached.files = disk.files) :
    Ends start (withTemporary body) done fun reached => reached.files = disk.files := by
  rintro state rfl
  have ended := ends state rfl
  unfold withTemporary
  rcases ran : body state with ⟨value | error | _, reached⟩
  all_goals rw [ran] at ended; exact ended

/-- What the temporary file holds when it is renamed is all of the contents. -/
theorem ends_fillTemporary (faults : Faults ReplaceStep) (path : PathBuf)
    (chunks : List (Except StoreError Bytes)) :
    Ends (disk.holding []) (fillTemporary faults path chunks)
      (fun _ reached => ∃ contents, contentsOf chunks = .ok contents ∧
        reached = disk.set path contents)
      (fun reached => reached.files = disk.files) := by
  refine ends_then (ends_pass _ fun _ => rfl) fun _ _ => ?_
  refine ends_bind (ends_writeChunks faults 0 [] chunks) ?_
  rintro _ _ ⟨contents, written, rfl⟩
  refine ends_then (ends_pass _ fun _ => rfl) fun _ _ => ?_
  refine ends_then (ends_pass _ fun _ => rfl) fun _ _ => ?_
  refine (ends_perform _ _ _).mono ?_ ?_
  · rintro _ _ ⟨-, rfl⟩
    exact ⟨contents, written, rfl⟩
  · rintro _ ⟨-, rfl⟩
    rfl

/-- The directory cannot be opened or synced. -/
def Unsynced (faults : Faults ReplaceStep) : Prop :=
  faults .openDirectory ≠ none ∨ faults .syncDirectory ≠ none

theorem ends_syncParent (faults : Faults ReplaceStep) :
    Ends disk (syncParent faults) (fun _ reached => ¬ Unsynced faults ∧ reached = disk)
      (fun reached => Unsynced faults ∧ reached = disk) := by
  apply ends_then (ends_pass _ fun faulty => ⟨.inl faulty, rfl⟩)
  intro _ opened
  refine (ends_pass _ fun faulty => ⟨.inr faulty, rfl⟩).mono ?_ fun _ holds => holds
  rintro _ _ ⟨synced, same⟩
  exact ⟨fun faulty => faulty.elim (· opened) (· synced), same⟩

/-- A replacement that returns has replaced the file. One that does not return has left the files
alone or has replaced the one and not synced its directory. -/
theorem ends_replaceFile (faults : Faults ReplaceStep) (path : PathBuf)
    (chunks : List (Except StoreError Bytes)) :
    Ends disk (replaceFile faults path chunks)
      (fun _ reached => ∃ contents, contentsOf chunks = .ok contents ∧
        reached = disk.set path contents)
      (fun reached => reached.files = disk.files ∨ (Unsynced faults ∧
        ∃ contents, contentsOf chunks = .ok contents ∧ reached = disk.set path contents)) := by
  refine ends_bind ((ends_perform _ _ _).mono (fun _ _ holds => holds.2)
    fun _ holds => .inl (holds.2 ▸ rfl)) ?_
  rintro _ _ rfl
  refine ends_bind ((ends_withTemporary (ends_fillTemporary faults path chunks)).mono
    (fun _ _ holds => holds) fun _ => .inl) ?_
  rintro _ _ ⟨contents, written, rfl⟩
  refine (ends_syncParent faults).mono ?_ ?_
  · rintro _ _ ⟨-, rfl⟩
    exact ⟨contents, written, rfl⟩
  · rintro _ ⟨unsynced, rfl⟩
    exact .inr ⟨unsynced, contents, written, rfl⟩

theorem writeChunks_done (sound : ∀ index, faults (.write index) = none)
    (written : contentsOf chunks = .ok contents) (index : Nat) (before : Bytes) (disk : Disk) :
    writeChunks faults index chunks (disk.holding before) =
      (.done (), disk.holding (before ++ contents)) := by
  induction chunks generalizing index before contents with
  | nil =>
    cases written
    rw [List.append_nil]
    rfl
  | cons chunk chunks ih =>
    cases chunk with
    | error error => cases written
    | ok bytes =>
      rcases later : contentsOf chunks with error | rest
      · rw [contentsOf, later] at written
        cases written
      · rw [contentsOf, later] at written
        cases written
        simp only [writeChunks, sound, Async.bind_apply, Async.ofExcept_ok, ← List.append_assoc]
        exact ih later (index + 1) (before ++ bytes)

/-- If nothing goes wrong before the directory is synced, the file is replaced. -/
theorem replaceFile_eq (sound : ∀ step, step ≠ .openDirectory → step ≠ .syncDirectory →
      faults step = none)
    (written : contentsOf chunks = .ok contents) (disk : Disk) :
    replaceFile faults path chunks disk = syncParent faults (disk.set path contents) := by
  have filled : fillTemporary faults path chunks (disk.holding []) =
      (.done (), disk.set path contents) := by
    have writes : ∀ index, faults (.write index) = none := fun index => sound _ nofun nofun
    simp only [fillTemporary, sound .restrictTemporary nofun nofun, sound .flush nofun nofun,
      sound .syncFile nofun nofun, sound .rename nofun nofun, Async.bind_apply, pass_none,
      writeChunks_done writes written]
    rfl
  rw [replaceFile, Async.bind_apply, sound .createTemporary nofun nofun]
  simp only [perform, Async.bind_apply, withTemporary, filled]

end Replacement

end Meshquill.Store
