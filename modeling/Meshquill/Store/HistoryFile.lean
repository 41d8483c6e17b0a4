import Meshquill.Store.History

/-!
# History files

What is written to a history file is read back from it. Reading takes a line at a time, within a
window that a line of the bound and its terminator fit into, and the lines of valid entries are
within the bound. Reading does not touch the disk, and what it returns in spite of failing steps
it also returns without them.
-/
namespace Meshquill.Store

open Checks

variable {json : Json} {path : PathBuf} {faults : Faults ReadStep} {disk : Disk}
  {entries : List HistoryEntry} {entry : HistoryEntry} {line rest bytes : Bytes}

/-! ## Lines -/

/-- A line is read with its terminator. -/
theorem readLine_line (single : (10 : UInt8) ∉ line) (short : line.length ≤ maxHistoryEntryBytes) :
    readLine (line ++ 10 :: rest) = (line ++ [10], rest) := by
  have inside : ∀ byte ∈ line, decide (byte ≠ 10) = true := by
    intro byte member
    exact decide_eq_true fun newline => single (newline ▸ member)
  obtain ⟨room, fits⟩ : ∃ room, maxHistoryEntryBytes + 3 = line.length + (room + 1) :=
    ⟨maxHistoryEntryBytes + 2 - line.length, by omega⟩
  have window : (line ++ 10 :: rest).take (maxHistoryEntryBytes + 3) =
      line ++ 10 :: rest.take room := by
    rw [fits, List.take_length_add_append, List.take_succ_cons]
  have upTo : (line ++ 10 :: rest.take room).takeWhile (· ≠ 10) = line := by
    rw [List.takeWhile_append_of_pos inside, List.takeWhile_cons_of_neg (by decide),
      List.append_nil]
  have first : (line ++ 10 :: rest.take room).take (line.length + 1) = line ++ [10] := by
    rw [List.take_length_add_append]
    rfl
  rw [readLine, window, upTo, first, List.length_append]
  refine Prod.ext rfl ?_
  exact List.drop_length_add_append 1

theorem stripSuffix_append (suffix : Char) (text : String) :
    stripSuffix suffix (text ++ String.ofList [suffix]) = text := by
  have split : (text ++ String.ofList [suffix]).toList = text.toList ++ [suffix] := by
    rw [String.toList_append, String.toList_ofList]
  rw [stripSuffix, split, if_pos List.getLast?_concat, List.dropLast_concat, String.ofList_toList]

theorem stripSuffix_of_ne {suffix last : Char} {text : String} {inside : List Char}
    (ends : text.toList = inside ++ [last]) (differs : last ≠ suffix) :
    stripSuffix suffix text = text := by
  refine if_neg fun same => differs ?_
  rw [ends, List.getLast?_concat] at same
  exact Option.some.inj same

/-- The lines of entries, each with its terminator. -/
def lines (json : Json) (entries : List HistoryEntry) : Bytes :=
  entries.flatMap fun entry => utf8 (json.encode entry) ++ [10]

theorem lines_cons (json : Json) (entry : HistoryEntry) (entries : List HistoryEntry) :
    lines json (entry :: entries) = utf8 (json.encode entry) ++ 10 :: lines json entries := by
  rw [lines, List.flatMap_cons, List.append_assoc]
  rfl

section Written

variable (lawful : json.Lawful)

include lawful

theorem decodeLine_encode (valid : entry.Valid)
    (roundTrips : json.RoundTrips entry) :
    decodeLine json path (utf8 (json.encode entry) ++ [10]) = .ok entry := by
  have terminator : ([10] : Bytes) = utf8 (String.ofList ['\n']) := by rw [utf8_ofList]; decide
  obtain ⟨inside, ends⟩ := encode_eq_concat json entry
  have stripped : stripSuffix '\r' (json.encode entry) = json.encode entry :=
    stripSuffix_of_ne ends (by decide)
  have short : validating ((json.encode entry).utf8ByteSize ≤ maxHistoryEntryBytes)
      "history.entry" "history entry exceeds its byte bound" = .ok () :=
    validating_ok.mpr (decide_eq_true (fits_encode lawful valid).short)
  rw [decodeLine, terminator, ← utf8_append, fromUtf8_utf8]
  dsimp only
  rw [stripSuffix_append, stripped, short, roundTrips]
  exact bind_ok.mpr ⟨(), rfl, check_ok.mpr ⟨valid, rfl⟩⟩

theorem length_encode (valid : entry.Valid) :
    (utf8 (json.encode entry)).length ≤ maxHistoryEntryBytes :=
  (length_utf8 _).trans_le (fits_encode lawful valid).short

theorem length_lines (valid : ∀ entry ∈ entries, entry.Valid) :
    (lines json entries).length ≤ entries.length * (maxHistoryEntryBytes + 1) := by
  induction entries with
  | nil => exact Nat.le_refl 0
  | cons entry entries ih =>
    have first := length_encode lawful (valid entry List.mem_cons_self)
    have others := ih fun entry inside => valid entry (List.mem_cons_of_mem _ inside)
    rw [lines_cons, List.length_append, List.length_cons, List.length_cons, Nat.succ_mul]
    omega

/-! ## Reading what was written -/

theorem readEntries_lines (valid : ∀ entry ∈ entries, entry.Valid)
    (roundTrips : ∀ entry ∈ entries, json.RoundTrips entry) {fuel : Nat}
    {before : List HistoryEntry} (enough : (lines json entries).length < fuel)
    (few : before.length + entries.length ≤ maxHistoryMessages) (disk : Disk) :
    readEntries json noFault path fuel (lines json entries) before disk =
      (.done (before ++ entries), disk) := by
  induction entries generalizing fuel before with
  | nil =>
    obtain ⟨fuel, rfl⟩ := Nat.exists_eq_add_one_of_ne_zero (Nat.ne_zero_of_lt enough)
    rw [List.append_nil]
    rfl
  | cons entry entries ih =>
    obtain ⟨fuel, rfl⟩ := Nat.exists_eq_add_one_of_ne_zero (Nat.ne_zero_of_lt enough)
    have member : entry ∈ entry :: entries := List.mem_cons_self
    have later : ∀ {other}, other ∈ entries → other ∈ entry :: entries := List.mem_cons_of_mem entry
    have single : (10 : UInt8) ∉ utf8 (json.encode entry) := fun inside =>
      (fits_encode lawful (valid entry member)).oneLine (newline_of_mem_utf8 inside)
    have read : readLine (lines json (entry :: entries)) =
        (utf8 (json.encode entry) ++ [10], lines json entries) := by
      rw [lines_cons]
      exact readLine_line single (length_encode lawful (valid entry member))
    have some : utf8 (json.encode entry) ++ [10] ≠ [] := List.append_ne_nil_of_right_ne_nil _ nofun
    have room : validating (before.length + 1 ≤ maxHistoryMessages) "history.file"
        "history file contains more entries than the global input bound" = .ok () := by
      refine validating_ok.mpr (decide_eq_true ?_)
      rw [List.length_cons] at few
      omega
    rw [lines_cons, List.length_append, List.length_cons] at enough
    have fewer : (before ++ [entry]).length + entries.length ≤ maxHistoryMessages := by
      rw [List.length_cons] at few
      rw [List.length_append, List.length_singleton]
      omega
    have rest : readEntries json noFault path fuel (lines json entries) (before ++ [entry]) disk =
        (.done (before ++ [entry] ++ entries), disk) :=
      ih (fun other inside => valid other (later inside))
        (fun other inside => roundTrips other (later inside)) (by omega) fewer
    rw [List.append_assoc] at rest
    rw [readEntries, read]
    simp only [Async.bind_apply, pass_none, if_neg some,
      decodeLine_encode lawful (valid entry member) (roundTrips entry member), room,
      Async.ofExcept_ok]
    exact rest

/-- A file with the lines of valid entries is read as these entries. -/
theorem readFile_lines (valid : ∀ entry ∈ entries, entry.Valid)
    (roundTrips : ∀ entry ∈ entries, json.RoundTrips entry)
    (few : entries.length ≤ maxHistoryMessages) (disk : Disk) :
    readFile json noFault path (some (lines json entries)) disk = (.done entries, disk) := by
  have size := length_lines lawful valid
  have bound : validating ((lines json entries).length ≤
      maxHistoryMessages * (maxHistoryEntryBytes + 2)) "history.file"
      "history file exceeds the global input bound" = .ok () := by
    refine validating_ok.mpr (decide_eq_true (size.trans ?_))
    exact Nat.mul_le_mul few (Nat.le_succ _)
  have all : ([] : List HistoryEntry).length + entries.length ≤ maxHistoryMessages := by
    rw [List.length_nil, Nat.zero_add]
    exact few
  simp only [readFile, Async.bind_apply, pass_none, bound, Async.ofExcept_ok,
    readEntries_lines lawful valid roundTrips (Nat.lt_succ_self _) all]
  rfl

/-! ## Writing -/

theorem contentsOf_entryChunks (valid : ∀ entry ∈ entries, entry.Valid) :
    contentsOf (entryChunks json entries) = .ok (lines json entries) := by
  induction entries with
  | nil => rfl
  | cons entry entries ih =>
    have bound : validating ((utf8 (json.encode entry)).length ≤ maxHistoryEntryBytes)
        "history.entry" "serialized history entry exceeds its byte bound" = .ok () :=
      validating_ok.mpr (decide_eq_true (length_encode lawful (valid entry List.mem_cons_self)))
    have encoded : encodeEntry json entry = .ok (utf8 (json.encode entry)) := by
      rw [encodeEntry, bound]
      rfl
    have others := ih fun other inside => valid other (List.mem_cons_of_mem _ inside)
    rw [entryChunks, List.flatMap_cons]
    change contentsOf (encodeEntry json entry :: .ok [10] :: entryChunks json entries) = _
    rw [contentsOf, contentsOf, encoded, others, lines_cons]
    rfl

/-- If nothing goes wrong before the directory is synced, the file holds the lines of the
entries. -/
theorem persist_synced (valid : ∀ entry ∈ entries, entry.Valid)
    {faults : Faults ReplaceStep} (sound : ∀ step, step ≠ .openDirectory →
      step ≠ .syncDirectory → faults step = none) (store : HistoryStore) (disk : Disk) :
    store.persist json faults entries disk =
      syncParent faults ((disk.createDirAll (parent store.path)).set store.path
        (lines json entries)) := by
  rw [← replaceFile_eq sound (contentsOf_entryChunks lawful valid)]
  simp only [HistoryStore.persist, sound .createDirectory nofun nofun,
    sound .restrictDirectory nofun nofun]
  rfl

/-- A file that is persisted without a failing step holds the lines of the entries. -/
theorem persist_eq (valid : ∀ entry ∈ entries, entry.Valid)
    (store : HistoryStore) (disk : Disk) :
    store.persist json noFault entries disk =
      (.done (), (disk.createDirAll (parent store.path)).set store.path (lines json entries)) :=
  persist_synced lawful valid (fun _ _ _ => rfl) store disk

/-! ## Any file -/

end Written

theorem valid_decodeLine (decoded : decodeLine json path line = .ok entry) : entry.Valid := by
  unfold decodeLine at decoded
  cases text : fromUtf8 line with
  | none =>
    rw [text] at decoded
    cases decoded
  | some text =>
    simp only [text] at decoded
    obtain ⟨-, parsed⟩ := check_ok.mp decoded
    obtain ⟨found, -, checked⟩ := bind_ok.mp parsed
    obtain ⟨valid, returned⟩ := check_ok.mp checked
    cases returned
    exact valid

/-- Reading leaves the disk alone. The entries that it returns are valid, and it returns them as
well when nothing fails. -/
theorem ends_readEntries (json : Json) (faults : Faults ReadStep) (path : PathBuf) (fuel : Nat)
    (bytes : Bytes) {before : List HistoryEntry} (valid : ∀ entry ∈ before, entry.Valid) :
    Ends disk (readEntries json faults path fuel bytes before)
      (fun entries reached =>
        ((∀ any, readEntries json noFault path fuel bytes before any = (.done entries, any)) ∧
          ∀ entry ∈ entries, entry.Valid) ∧ reached = disk) (· = disk) := by
  induction fuel generalizing bytes before with
  | zero => exact ends_pure before ⟨⟨fun _ => rfl, valid⟩, rfl⟩
  | succ fuel ih =>
    simp only [readEntries]
    refine ends_then (ends_pass _ fun _ => rfl) ?_
    intro _ _
    by_cases ended : (readLine bytes).1 = []
    · rw [if_pos ended]
      refine ends_pure before ⟨⟨fun any => ?_, valid⟩, rfl⟩
      simp only [Async.bind_apply, pass_none, if_pos ended]
      rfl
    · rw [if_neg ended]
      refine ends_then (ends_ofExcept _ rfl) ?_
      intro entry decoded
      refine ends_then (ends_ofExcept _ rfl) ?_
      intro _ room
      have longer : ∀ other ∈ before ++ [entry], other.Valid := by
        intro other inside
        rcases List.mem_append.mp inside with inside | inside
        · exact valid other inside
        · exact List.mem_singleton.mp inside ▸ valid_decodeLine decoded
      refine (ih (readLine bytes).2 longer).mono ?_ fun _ same => same
      rintro entries _ ⟨⟨later, allValid⟩, same⟩
      refine ⟨⟨fun any => ?_, allValid⟩, same⟩
      simp only [Async.bind_apply, pass_none, if_neg ended, decoded, room, Async.ofExcept_ok]
      exact later any

/-- The file is read as these entries. -/
def Reads (json : Json) (path : PathBuf) (contents : Option Bytes) (entries : List HistoryEntry) :
    Prop :=
  (∀ disk, readFile json noFault path contents disk = (.done entries, disk)) ∧
    ∀ entry ∈ entries, entry.Valid

theorem reads_lines (lawful : json.Lawful) (valid : ∀ entry ∈ entries, entry.Valid)
    (roundTrips : ∀ entry ∈ entries, json.RoundTrips entry)
    (few : entries.length ≤ maxHistoryMessages) :
    Reads json path (lines json entries) entries :=
  ⟨readFile_lines lawful valid roundTrips few, valid⟩

theorem reads_none (json : Json) (path : PathBuf) : Reads json path none [] :=
  ⟨fun _ => rfl, by simp⟩

theorem Reads.unique {contents : Option Bytes} {others : List HistoryEntry}
    (reads : Reads json path contents entries) (again : Reads json path contents others) :
    entries = others := by
  have same := (reads.1 .blank).symm.trans (again.1 _)
  exact Exit.done.inj (Prod.mk.inj same).1

theorem ends_readFile (json : Json) (faults : Faults ReadStep) (path : PathBuf)
    (contents : Option Bytes) :
    Ends disk (readFile json faults path contents)
      (fun entries reached => Reads json path contents entries ∧ reached = disk) (· = disk) := by
  cases contents with
  | none => exact ends_pure [] ⟨reads_none json path, rfl⟩
  | some bytes =>
    refine ends_then (ends_pass _ fun _ => rfl) ?_
    intro _ _
    refine ends_then (ends_ofExcept _ rfl) ?_
    intro _ bound
    refine ends_then (ends_pass _ fun _ => rfl) ?_
    intro _ _
    have nothing : ∀ entry ∈ ([] : List HistoryEntry), entry.Valid := by simp
    refine (ends_readEntries json faults path _ bytes nothing).mono ?_ fun _ same => same
    rintro entries _ ⟨⟨read, valid⟩, same⟩
    refine ⟨⟨fun any => ?_, valid⟩, same⟩
    simp only [readFile, Async.bind_apply, pass_none, bound, Async.ofExcept_ok]
    exact read any

theorem ends_loadPath (json : Json) (faults : Faults ReadStep) (path : PathBuf) :
    Ends disk (loadPath json faults path)
      (fun entries reached => Reads json path (disk.files path) entries ∧ reached = disk)
      (· = disk) := by
  rintro _ rfl
  exact ends_readFile json faults path _ _ rfl

/-- A load of a file that can be read returns its entries. -/
theorem Reads.loadPath_eq (reads : Reads json path (disk.files path) entries) :
    loadPath json noFault path disk = (.done entries, disk) :=
  reads.1 disk

/-! ## The law of a history file -/

/-- Entries that pass their checks are accepted, each within the bound on a line and all within
the bound on a file, and they are read back from the file. -/
theorem persisted_entries_load (lawful : json.Lawful) (store : HistoryStore)
    (few : entries.length ≤ maxHistoryMessages) (valid : ∀ entry ∈ entries, entry.Valid)
    (roundTrips : ∀ entry ∈ entries, json.RoundTrips entry) (disk : Disk) :
    ∃ written contents, store.persist json noFault entries disk = (.done (), written) ∧
      written.files store.path = some contents ∧
      (∀ entry ∈ entries, (utf8 (json.encode entry)).length ≤ maxHistoryEntryBytes) ∧
      contents.length ≤ maxHistoryMessages * (maxHistoryEntryBytes + 2) ∧
      loadPath json noFault store.path written = (.done entries, written) := by
  refine ⟨_, lines json entries, persist_eq lawful valid store disk, Disk.files_set_same,
    fun entry inside => length_encode lawful (valid entry inside), ?_, ?_⟩
  · exact (length_lines lawful valid).trans (Nat.mul_le_mul few (Nat.le_succ _))
  · apply Reads.loadPath_eq
    rw [Disk.files_set_same]
    exact reads_lines lawful valid roundTrips few

/-- A reader that knows the lines of these entries. -/
def tableJson (entries : List HistoryEntry) : Json where
  escape := escapeText
  parse line :=
    match entries.find? fun entry => Json.encode ⟨escapeText, fun _ => .error ""⟩ entry = line with
    | some entry => .ok entry
    | none => .error "unknown line"

/-- Two lines of text that were sent to a channel. -/
def sampleEntry : HistoryEntry where
  version := 1
  id := 1
  recordedAtUnixMs := 1000
  direction := .outgoing
  peer := "channel 2"
  channel := some 2
  text := "on my way\n\"soon\""
  status := .acknowledged
  acknowledgement := some (.ofBytes 1 2 3 4)

def sampleStore : HistoryStore where
  path := ["data", "history", "field.jsonl"]
  legacyPath := some ["config", "history", "field.jsonl"]
  maxMessages := 2
  positive := by decide
  bounded := by decide
  apart := by decide

/-- A text that takes six bytes for each of its own. -/
def escapedEntry : HistoryEntry :=
  { sampleEntry with id := 2, text := "\x01\x02\x03\x04\x05\x06\x07\x0b\x0e\x0f\x10\x1f" }

/-- Entries with line feeds, quotes and control characters are persisted and read back. -/
theorem persisted_sampleEntry_loads :
    let entries := [sampleEntry, escapedEntry, { sampleEntry with id := 3, text := "é" }]
    ∃ written contents,
      sampleStore.persist (tableJson entries) noFault entries Disk.blank = (.done (), written) ∧
      written.files sampleStore.path = some contents ∧
      (∀ entry ∈ entries, (utf8 ((tableJson entries).encode entry)).length ≤ maxHistoryEntryBytes) ∧
      contents.length ≤ maxHistoryMessages * (maxHistoryEntryBytes + 2) ∧
      loadPath (tableJson entries) noFault sampleStore.path written = (.done entries, written) :=
  persisted_entries_load (lawful_escapeText _) sampleStore (by decide)
    (by decide +kernel)
    (by unfold Json.RoundTrips; decide +kernel) Disk.blank

end Meshquill.Store
