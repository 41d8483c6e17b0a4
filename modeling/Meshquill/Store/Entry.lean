import Meshquill.Checks
import Meshquill.Protocol.Utf8
import Meshquill.Store.Disk
import Mathlib.Data.Prod.Lex

/-!
# Entries of the message history

`HistoryEntry` with its checks, and the line that `serde_json` writes for it: the fields in the
order of their declaration, without spaces. How a string is escaped and how a line is read back
are parameters. What is assumed of them is in `Json.Lawful` and `Json.RoundTrips`.

A valid entry fits into a line of 8192 bytes whatever its texts are (`size_encode_le`).
-/
namespace Meshquill.Store

open Checks

def historyFormatVersion : UInt8 := 1

def maxHistoryEntryBytes : Nat := 8192

inductive HistoryDirection where
  | incoming
  | outgoing
deriving DecidableEq

inductive HistoryStatus where
  | pending
  | acknowledged
  | timedOut
  | failed
  | received
deriving DecidableEq

structure HistoryEntry where
  version : UInt8
  id : Uuid
  recordedAtUnixMs : UInt64
  direction : HistoryDirection
  peer : String
  channel : Option UInt8
  text : String
  status : HistoryStatus
  acknowledgement : Option AckCode
deriving DecidableEq

/-! ## Checks -/

/-- Pass, or report the field. -/
def validating (condition : Bool) (field message : String) : Except StoreError Unit :=
  if condition then .ok () else .error (.validation field message)

theorem validating_ok {condition : Bool} {field message : String} :
    validating condition field message = .ok () ↔ condition = true := by
  cases condition <;> simp [validating]

/-- `validate_history_text`. -/
def validateHistoryText (value : String) (maximum : Nat) (field : String) :
    Except StoreError Unit :=
  validating (value ≠ "" && value.utf8ByteSize ≤ maximum && (0 : UInt8) ∉ utf8 value) field
    ("must contain 1 to " ++ toString maximum ++ " UTF-8 bytes without NUL")

namespace HistoryEntry

def statusMatchesDirection : HistoryDirection → HistoryStatus → Bool
  | .incoming, .received => true
  | .outgoing, .pending => true
  | .outgoing, .acknowledged => true
  | .outgoing, .timedOut => true
  | .outgoing, .failed => true
  | _, _ => false

def validate (entry : HistoryEntry) : Except StoreError Unit := do
  validating (entry.version = historyFormatVersion) "history.version"
    "unsupported history entry version"
  validateHistoryText entry.peer 256 "history.peer"
  validateHistoryText entry.text 1024 "history.text"
  validating (statusMatchesDirection entry.direction entry.status) "history.status"
    "status does not match message direction"
  validating (entry.status ≠ .acknowledged || entry.acknowledgement.isSome)
    "history.acknowledgement" "acknowledged messages require a correlation code"

/-- The time of the host in milliseconds, negative before the epoch, as it is recorded. -/
def recordedAt (now : Int) : Except StoreError UInt64 := do
  validating (0 ≤ now) "history.recorded_at_unix_ms" "host clock is before the Unix epoch"
  validating (now < 18446744073709551616) "history.recorded_at_unix_ms"
    "host timestamp is not representable"
  return UInt64.ofNat now.toNat

/-- `HistoryEntry::new`, at a time and with an identifier of the host. -/
def new (now : Int) (id : Uuid) (direction : HistoryDirection) (peer : String)
    (channel : Option UInt8) (text : String) (status : HistoryStatus)
    (acknowledgement : Option AckCode) : Except StoreError HistoryEntry := do
  let recordedAtUnixMs ← recordedAt now
  let entry : HistoryEntry :=
    { version := historyFormatVersion, id, recordedAtUnixMs, direction, peer, channel, text, status
      acknowledgement }
  entry.validate
  return entry

/-- The checks pass. -/
def Valid (entry : HistoryEntry) : Prop := entry.validate = .ok ()

instance (entry : HistoryEntry) : Decidable entry.Valid :=
  inferInstanceAs (Decidable (entry.validate = .ok ()))

/-- The entries are kept in the order of their times, and of their identifiers where those are
equal. -/
def rank (entry : HistoryEntry) : Nat ×ₗ Nat :=
  toLex (entry.recordedAtUnixMs.toNat, entry.id.toNat)

end HistoryEntry

/-! ## Lines -/

/-- `serde_json`, as far as it is not spelled out below: the inside of a string literal, and the
reader of a line. -/
structure Json where
  escape : String → String
  parse : String → Except String HistoryEntry

/-- Values with commas between them. -/
def commaSeparated : List String → String
  | [] => ""
  | [value] => value
  | value :: values => value ++ "," ++ commaSeparated values

def jsonObject (fields : List (String × String)) : String :=
  "\x7b" ++ commaSeparated (fields.map fun field => "\"" ++ field.1 ++ "\":" ++ field.2) ++ "\x7d"

def jsonArray (values : List String) : String := "[" ++ commaSeparated values ++ "]"

def jsonOption {α : Type} (render : α → String) : Option α → String
  | none => "null"
  | some value => render value

/-- The digits of a `Uuid` from the highest one on. -/
def uuidDigits (id : Uuid) : List Char :=
  (List.range 32).map fun index => hexDigit (id.toNat >>> (4 * (31 - index)) % 16)

/-- A `Uuid` as its crate displays and serialises it. -/
def renderUuid (id : Uuid) : String :=
  let digits := uuidDigits id
  String.ofList (digits.take 8 ++ ['-'] ++ (digits.drop 8).take 4 ++ ['-'] ++
    (digits.drop 12).take 4 ++ ['-'] ++ (digits.drop 16).take 4 ++ ['-'] ++ digits.drop 20)

def HistoryDirection.render : HistoryDirection → String
  | .incoming => "\"incoming\""
  | .outgoing => "\"outgoing\""

def HistoryStatus.render : HistoryStatus → String
  | .pending => "\"pending\""
  | .acknowledged => "\"acknowledged\""
  | .timedOut => "\"timed_out\""
  | .failed => "\"failed\""
  | .received => "\"received\""

namespace Json

def string (json : Json) (text : String) : String := "\"" ++ json.escape text ++ "\""

def fields (json : Json) (entry : HistoryEntry) : List (String × String) :=
  [("version", toString entry.version.toNat),
    ("id", "\"" ++ renderUuid entry.id ++ "\""),
    ("recorded_at_unix_ms", toString entry.recordedAtUnixMs.toNat),
    ("direction", entry.direction.render),
    ("peer", json.string entry.peer),
    ("channel", jsonOption (fun channel => toString channel.toNat) entry.channel),
    ("text", json.string entry.text),
    ("status", entry.status.render),
    ("acknowledgement", jsonOption
      (fun code => jsonArray (code.val.map fun byte => toString byte.toNat))
      entry.acknowledgement)]

/-- `serde_json::to_vec`, as text. -/
def encode (json : Json) (entry : HistoryEntry) : String := jsonObject (json.fields entry)

/-- Escaping takes at most six bytes for one and leaves no line feed. -/
structure Lawful (json : Json) : Prop where
  short : ∀ text, (json.escape text).utf8ByteSize ≤ 6 * text.utf8ByteSize
  oneLine : ∀ text, '\n' ∉ (json.escape text).toList

/-- The line of an entry is read back as the entry. -/
def RoundTrips (json : Json) (entry : HistoryEntry) : Prop :=
  json.parse (json.encode entry) = .ok entry

end Json

/-! ## Texts without line feeds -/

/-- A text of at most so many bytes and of a single line. -/
structure Fits (bound : Nat) (text : String) : Prop where
  short : text.utf8ByteSize ≤ bound
  oneLine : '\n' ∉ text.toList

section Fits

variable {bound other : Nat} {first second : String}

theorem Fits.append (left : Fits bound first) (right : Fits other second) :
    Fits (bound + other) (first ++ second) where
  short := by
    rw [String.utf8ByteSize_append]
    exact Nat.add_le_add left.short right.short
  oneLine := by
    rw [String.toList_append, List.mem_append]
    exact fun inside => inside.elim left.oneLine right.oneLine

theorem Fits.mono (fits : Fits bound first) (less : bound ≤ other) : Fits other first :=
  ⟨fits.short.trans less, fits.oneLine⟩

theorem fits_ofList {chars : List Char} (single : ∀ char ∈ chars, char.utf8Size = 1 ∧ char ≠ '\n')
    (short : chars.length ≤ bound) : Fits bound (String.ofList chars) where
  short := by
    rw [← length_utf8, length_utf8_ofList fun char inside => (single char inside).1]
    exact short
  oneLine := by
    rw [String.toList_ofList]
    exact fun inside => (single _ inside).2 rfl

theorem single_of_isDigit {char : Char} (digit : char.isDigit = true) :
    char.utf8Size = 1 ∧ char ≠ '\n' := by
  obtain ⟨low, high⟩ := Char.isDigit_iff_toNat.mp digit
  constructor
  · have ascii : char.val ≤ 127 := UInt32.le_iff_toNat_le.mpr (high.trans (by decide))
    exact if_pos ascii
  · rintro rfl
    exact absurd low (by decide)

theorem fits_number {number : Nat} (short : (Nat.toDigits 10 number).length ≤ bound) :
    Fits bound (toString number) :=
  fits_ofList (fun _ inside =>
    single_of_isDigit (Nat.isDigit_of_mem_toDigits (by decide) (by decide) inside)) short

theorem fits_byte (byte : UInt8) : Fits 3 (toString byte.toNat) := by
  have small : byte.toNat < 256 := byte.toNat_lt
  exact fits_number ((Nat.length_toDigits_le_iff (by decide) (by decide)).mpr (by omega))

theorem fits_uint64 (value : UInt64) : Fits 20 (toString value.toNat) := by
  have small : value.toNat < 18446744073709551616 := value.toNat_lt
  exact fits_number ((Nat.length_toDigits_le_iff (by decide) (by decide)).mpr (by omega))

theorem single_hexDigit : ∀ value < 16,
    (hexDigit value).utf8Size = 1 ∧ hexDigit value ≠ '\n' := by decide

theorem fits_renderUuid (id : Uuid) : Fits 36 (renderUuid id) := by
  have digits : ∀ char ∈ uuidDigits id, char.utf8Size = 1 ∧ char ≠ '\n' := by
    intro char inside
    obtain ⟨index, -, rfl⟩ := List.mem_map.mp inside
    exact single_hexDigit _ (Nat.mod_lt _ (by decide))
  have width : (uuidDigits id).length = 32 := by simp [uuidDigits]
  apply fits_ofList
  · intro char inside
    simp only [List.mem_append, List.mem_singleton] at inside
    rcases inside with ((((((((inside | rfl) | inside) | rfl) | inside) | rfl) | inside) | rfl) |
      inside)
    · exact digits char (List.mem_of_mem_take inside)
    · decide
    · exact digits char (List.mem_of_mem_drop (List.mem_of_mem_take inside))
    · decide
    · exact digits char (List.mem_of_mem_drop (List.mem_of_mem_take inside))
    · decide
    · exact digits char (List.mem_of_mem_drop (List.mem_of_mem_take inside))
    · decide
    · exact digits char (List.mem_of_mem_drop inside)
  · simp [width]

/-- The room for values of these sizes, each with a comma. -/
def roomFor : List Nat → Nat
  | [] => 0
  | size :: sizes => size + 1 + roomFor sizes

theorem fits_commaSeparated {values : List String} {sizes : List Nat}
    (each : List.Forall₂ (fun value size => Fits size value) values sizes) :
    Fits (roomFor sizes) (commaSeparated values) := by
  induction each with
  | nil => exact ⟨by decide, by decide⟩
  | cons first rest ih =>
    cases rest with
    | nil => exact first.mono (Nat.le_add_right _ _)
    | cons second rest =>
      have comma : Fits 1 "," := ⟨by decide, by decide⟩
      exact (first.append comma).append ih

theorem fits_literal (text : String) (oneLine : '\n' ∉ text.toList) : Fits text.utf8ByteSize text :=
  ⟨Nat.le_refl _, oneLine⟩

/-- A field of an object: the quotes and the colon take three bytes. -/
theorem fits_field {name value : String} {size : Nat} (label : Fits bound name)
    (inside : Fits size value) : Fits (1 + bound + 2 + size) ("\"" ++ name ++ "\":" ++ value) :=
  have quote : Fits 1 "\"" := ⟨by decide, by decide⟩
  have colon : Fits 2 "\":" := ⟨by decide, by decide⟩
  ((quote.append label).append colon).append inside

theorem fits_quoted (inside : Fits bound first) : Fits (1 + bound + 1) ("\"" ++ first ++ "\"") :=
  have quote : Fits 1 "\"" := ⟨by decide, by decide⟩
  (quote.append inside).append quote

end Fits

/-! ## Escaping -/

/-- The escapes of `serde_json`: the two-character ones, and a code for other control
characters. -/
def escapeChar (value : Char) : List Char :=
  if value.toNat = 34 ∨ value.toNat = 92 then [Char.ofNat 92, value]
  else if value.toNat = 8 then [Char.ofNat 92, 'b']
  else if value.toNat = 9 then [Char.ofNat 92, 't']
  else if value.toNat = 10 then [Char.ofNat 92, 'n']
  else if value.toNat = 12 then [Char.ofNat 92, 'f']
  else if value.toNat = 13 then [Char.ofNat 92, 'r']
  else if value.toNat < 32 then
    [Char.ofNat 92, 'u', '0', '0', hexDigit (value.toNat / 16), hexDigit (value.toNat % 16)]
  else [value]

def escapeText (text : String) : String := String.ofList (text.toList.flatMap escapeChar)

theorem escapeChar_ascii {code : Nat} (ascii : code < 128) :
    (escapeChar (Char.ofNat code)).length ≤ 6 ∧
      ∀ char ∈ escapeChar (Char.ofNat code), char.utf8Size = 1 ∧ char ≠ '\n' := by
  have all : ((List.range 128).all fun code =>
      decide ((escapeChar (Char.ofNat code)).length ≤ 6) &&
        (escapeChar (Char.ofNat code)).all fun char => char.utf8Size = 1 && char ≠ '\n') = true := by
    decide +kernel
  have here := List.all_eq_true.mp all code (List.mem_range.mpr ascii)
  simpa using here

theorem fits_escapeChar (value : Char) :
    Fits (6 * value.utf8Size) (String.ofList (escapeChar value)) := by
  by_cases ascii : value.toNat < 128
  · obtain ⟨short, single⟩ := escapeChar_ascii ascii
    rw [Char.ofNat_toNat] at short single
    exact (fits_ofList single short).mono (Nat.le_mul_of_pos_right 6 value.utf8Size_pos)
  · have plain : escapeChar value = [value] := by
      unfold escapeChar
      repeat rw [if_neg (by omega)]
    have newline : value ≠ '\n' := by
      rintro rfl
      exact ascii (by decide)
    rw [plain]
    constructor
    · rw [← length_utf8, utf8_ofList, List.flatMap_singleton, String.length_utf8EncodeChar]
      omega
    · rw [String.toList_ofList, List.mem_singleton]
      exact newline.symm

/-- The escapes are lawful whatever the reader does. -/
theorem lawful_escapeText (parse : String → Except String HistoryEntry) :
    Json.Lawful ⟨escapeText, parse⟩ := by
  have fits : ∀ chars : List Char, Fits (6 * (String.ofList chars).utf8ByteSize)
      (String.ofList (chars.flatMap escapeChar)) := by
    intro chars
    induction chars with
    | nil => exact ⟨by decide, by decide⟩
    | cons value chars ih =>
      have size : (String.ofList (value :: chars)).utf8ByteSize =
          value.utf8Size + (String.ofList chars).utf8ByteSize := by
        rw [← length_utf8, ← length_utf8, utf8_ofList, utf8_ofList, List.flatMap_cons,
          List.length_append, String.length_utf8EncodeChar]
      rw [List.flatMap_cons, String.ofList_append, size, Nat.mul_add]
      exact (fits_escapeChar value).append ih
  have whole : ∀ text, Fits (6 * text.utf8ByteSize) (escapeText text) := by
    intro text
    have fitting := fits text.toList
    rwa [String.ofList_toList] at fitting
  exact ⟨fun text => (whole text).short, fun text => (whole text).oneLine⟩

/-! ## The size of a line -/

section Size

variable {json : Json} {entry : HistoryEntry}

/-- A text that the history takes: not empty, within a bound and without NUL. -/
structure TextFits (maximum : Nat) (value : String) : Prop where
  nonempty : value ≠ ""
  short : value.utf8ByteSize ≤ maximum
  noNul : (0 : UInt8) ∉ utf8 value

theorem validateHistoryText_ok {value : String} {maximum : Nat} {field : String} :
    validateHistoryText value maximum field = .ok () ↔ TextFits maximum value := by
  rw [validateHistoryText, validating_ok]
  simp only [Bool.and_eq_true, decide_eq_true_eq]
  constructor
  · rintro ⟨⟨nonempty, short⟩, noNul⟩
    exact ⟨nonempty, short, noNul⟩
  · rintro ⟨nonempty, short, noNul⟩
    exact ⟨⟨nonempty, short⟩, noNul⟩

/-- What the checks of an entry amount to. -/
theorem HistoryEntry.valid_iff : entry.Valid ↔
    entry.version = historyFormatVersion ∧ TextFits 256 entry.peer ∧ TextFits 1024 entry.text ∧
      statusMatchesDirection entry.direction entry.status = true ∧
      (entry.status = .acknowledged → entry.acknowledgement.isSome = true) := by
  rw [HistoryEntry.Valid, validate, check_ok, check_ok, check_ok, check_ok, validating_ok,
    validateHistoryText_ok, validateHistoryText_ok, validating_ok, validating_ok, decide_eq_true_eq,
    Bool.or_eq_true, decide_eq_true_eq, ne_eq, ← imp_iff_not_or]

theorem HistoryEntry.Valid.sizes (valid : entry.Valid) :
    entry.peer.utf8ByteSize ≤ 256 ∧ entry.text.utf8ByteSize ≤ 1024 := by
  obtain ⟨-, peer, text, -⟩ := valid_iff.mp valid
  exact ⟨peer.short, text.short⟩

theorem fits_direction (direction : HistoryDirection) : Fits 10 direction.render := by
  cases direction <;> exact ⟨by decide, by decide⟩

theorem fits_status (status : HistoryStatus) : Fits 14 status.render := by
  cases status <;> exact ⟨by decide, by decide⟩

theorem fits_channel (channel : Option UInt8) :
    Fits 4 (jsonOption (fun channel => toString channel.toNat) channel) := by
  cases channel with
  | none => exact ⟨by decide, by decide⟩
  | some channel => exact (fits_byte channel).mono (by decide)

theorem fits_acknowledgement (code : Option AckCode) :
    Fits 18 (jsonOption (fun code => jsonArray (code.val.map fun byte => toString byte.toNat))
      code) := by
  rcases code with _ | ⟨bytes, width⟩
  · exact ⟨by decide, by decide⟩
  · match bytes, width with
    | [first, second, third, fourth], _ =>
      have inside := fits_commaSeparated (.cons (fits_byte first) (.cons (fits_byte second)
        (.cons (fits_byte third) (.cons (fits_byte fourth) .nil))))
      have left : Fits 1 "[" := ⟨by decide, by decide⟩
      have right : Fits 1 "]" := ⟨by decide, by decide⟩
      exact (left.append inside).append right

theorem fits_string (lawful : json.Lawful) {text : String} {maximum : Nat}
    (short : text.utf8ByteSize ≤ maximum) : Fits (1 + 6 * maximum + 1) (json.string text) :=
  fits_quoted ⟨(lawful.short text).trans (Nat.mul_le_mul_left 6 short), lawful.oneLine text⟩

/-- The line of a valid entry is within the bound. -/
theorem fits_encode (lawful : json.Lawful) (valid : entry.Valid) :
    Fits maxHistoryEntryBytes (json.encode entry) := by
  obtain ⟨peer, text⟩ := valid.sizes
  have fields := fits_commaSeparated
    (.cons (fits_field (fits_literal "version" (by decide)) (fits_byte entry.version))
    (.cons (fits_field (fits_literal "id" (by decide)) (fits_quoted (fits_renderUuid entry.id)))
    (.cons (fits_field (fits_literal "recorded_at_unix_ms" (by decide))
      (fits_uint64 entry.recordedAtUnixMs))
    (.cons (fits_field (fits_literal "direction" (by decide)) (fits_direction entry.direction))
    (.cons (fits_field (fits_literal "peer" (by decide)) (fits_string lawful peer))
    (.cons (fits_field (fits_literal "channel" (by decide)) (fits_channel entry.channel))
    (.cons (fits_field (fits_literal "text" (by decide)) (fits_string lawful text))
    (.cons (fits_field (fits_literal "status" (by decide)) (fits_status entry.status))
    (.cons (fits_field (fits_literal "acknowledgement" (by decide))
      (fits_acknowledgement entry.acknowledgement)) .nil)))))))))
  have left : Fits 1 "\x7b" := ⟨by decide, by decide⟩
  have right : Fits 1 "\x7d" := ⟨by decide, by decide⟩
  exact ((left.append fields).append right).mono (by decide)

/-- The line ends with the brace of the object. -/
theorem encode_eq_concat (json : Json) (entry : HistoryEntry) :
    ∃ inside, (json.encode entry).toList = inside ++ ['\x7d'] := by
  rw [Json.encode, jsonObject, String.toList_append]
  exact ⟨_, rfl⟩

end Size

end Meshquill.Store
