import Meshquill.Cli.Batch
import Meshquill.Protocol.Routes

/-!
# Paths that are typed in

`contacts path set` of `runtime.rs` takes a path as hexadecimal bytes between commas, with
whitespace around them and `0x` before them if one likes. The number of bytes has to fit the
hash width that the device uses. What is accepted makes a route that the protocol can encode.

The bytes are read with `u8::from_str_radix`, and that takes a plus sign before the digits. So
`+a` is read as a byte too. Apart from that, the paths that are accepted are those in
hexadecimal bytes.
-/
namespace Meshquill.Cli

open Async Checks

/-! ## Reading a path -/

/-- The value of hexadecimal digits, within a byte. -/
def radixValue (digits : List Char) : Option UInt8 := do
  let values ← digits.mapM hexValue
  let value := values.foldl (fun total digit => 16 * total + digit) 0
  if values = [] ∨ value > 255 then none else some (UInt8.ofNat value)

/-- `u8::from_str_radix` with radix 16: digits after an optional plus sign. -/
def fromStrRadix16 : List Char → Option UInt8
  | '+' :: digits => radixValue digits
  | digits => radixValue digits

/-- A part between two commas. -/
def tokenByte (part : List Char) : Option UInt8 :=
  let token := trim part
  let digits := ((stripped "0x" token).or (stripped "0X" token)).getD token
  let size := (utf8 (String.ofList digits)).length
  if size = 0 ∨ size > 2 then none else fromStrRadix16 digits

def maxContactPathBytes : Nat := 64

/-- The loop over the parts. -/
def readContactPath (bytes : Bytes) : List (List Char) → Except CliError Bytes
  | [] => .ok bytes
  | part :: later =>
    match tokenByte part with
    | none =>
      .error { status := .usage
               message := "contact path must contain comma-separated hexadecimal bytes" }
    | some byte =>
      if (bytes ++ [byte]).length > maxContactPathBytes then
        .error { status := .usage, message := "contact path exceeds the firmware's 64-byte limit" }
      else readContactPath (bytes ++ [byte]) later

def parseExplicitContactPath (raw : String) (hashMode : UInt8) : Except CliError Bytes :=
  if raw.utf8ByteSize > maxContactPathBytes * 5 then
    .error { status := .usage, message := "explicit contact path is too long" }
  else do
    let bytes ← readContactPath [] (raw.toList.splitOn ',')
    let hashWidth := hashMode.toNat + 1
    if bytes = [] ∨ bytes.length % hashWidth ≠ 0 then
      .error { status := .usage
               message := "contact path byte count must be a non-zero multiple of the device's " ++
                 toString hashWidth ++ "-byte hash width" }
    else if bytes.length / hashWidth > 63 then
      .error { status := .usage, message := "contact path exceeds the firmware's 63-hop limit" }
    else .ok bytes

/-- The route and the path that `contact_path_set` makes of the bytes. -/
def explicitRoute (hashMode : UInt8) (bytes : Bytes) : Except CliError (ContactRoute × Path) :=
  let hops := bytes.length / (hashMode.toNat + 1)
  if hops > 255 then
    .error { status := .usage, message := "contact path contains too many hops" }
  else
    match Path.tryFromBytes bytes with
    | none => .error (.ofCore (.protocolInvariant "path exceeds maximum bytes"))
    | some path => .ok (.path hashMode (UInt8.ofNat hops), path)

/-- `contact_path_set`, up to the report. -/
def contactPathSet {τ ε : Type} [Transport τ ε] (shell : Shell) (globals : Globals)
    (contacts : List Contact) (contact path : String) : SessionM τ ε Contact := do
  let listed ← ofExcept (resolveContact shell.lowercase contacts contact)
  let current ← call (Client.getContact listed.publicKey.val)
  let hashMode ← call Client.getPathHashMode
  ofExcept (if hashMode ≤ 2 then .ok () else
    .error { status := .protocol
             message := "the device reported an unsupported contact path hash mode" })
  let bytes ← ofExcept (parseExplicitContactPath path hashMode)
  ofExcept (confirm shell globals ("replace path for contact " ++ current.advName))
  let (route, outPath) ← ofExcept (explicitRoute hashMode bytes)
  let updated := { current with route, outPath }
  call (Client.updateContact updated)
  ofExcept (shell.contactUpdated updated)
  return updated

/-! ## Paths in hexadecimal bytes -/

/-- A byte in one or two hexadecimal digits. -/
inductive HexByte : List Char → UInt8 → Prop
  | one {digit : Char} {value : Nat} (read : hexValue digit = some value) :
    HexByte [digit] (UInt8.ofNat value)
  | two {high low : Char} {upper lower : Nat} (readHigh : hexValue high = some upper)
    (readLow : hexValue low = some lower) : HexByte [high, low] (UInt8.ofNat (16 * upper + lower))

/-- A plus sign and a digit. -/
inductive SignedByte : List Char → UInt8 → Prop
  | signed {digit : Char} {value : Nat} (read : hexValue digit = some value) :
    SignedByte ['+', digit] (UInt8.ofNat value)

/-- A number with an optional mark before it and whitespace around it. -/
def Written (number : List Char → UInt8 → Prop) (token : List Char) (byte : UInt8) : Prop :=
  ∃ before mark digits after, Blank before ∧ Blank after ∧
    mark ∈ [[], "0x".toList, "0X".toList] ∧ number digits byte ∧
    token = before ++ (mark ++ digits) ++ after

/-- Bytes between commas. -/
def PathText (number : List Char → UInt8 → Prop) (text : List Char) (bytes : Bytes) : Prop :=
  ∃ tokens, tokens ≠ [] ∧ text = [','].intercalate tokens ∧
    List.Forall₂ (Written number) tokens bytes

/-- A number of bytes that a route with this hash mode can have. -/
structure FitsRoute (hashMode : UInt8) (count : Nat) : Prop where
  filled : count ≠ 0
  whole : count % (hashMode.toNat + 1) = 0
  short : count ≤ 64
  hops : count / (hashMode.toNat + 1) ≤ 63

/-! ## Digits -/

variable {digit character : Char} {value : Nat} {rest digits token text : List Char}
  {byte hashMode : UInt8} {bytes : Bytes} {number : List Char → UInt8 → Prop}
  {tokens : List (List Char)}

theorem code_of_hexValue (read : hexValue digit = some value) :
    value < 16 ∧ (48 ≤ digit.toNat ∧ digit.toNat ≤ 57 ∨ 97 ≤ digit.toNat ∧ digit.toNat ≤ 102 ∨
      65 ≤ digit.toNat ∧ digit.toNat ≤ 70) := by
  have codes : ∀ low high : Char, (low ≤ digit && digit ≤ high) = true →
      low.toNat ≤ digit.toNat ∧ digit.toNat ≤ high.toNat := by
    intro low high between
    simpa [Char.le_def, UInt32.le_iff_toNat_le] using between
  unfold hexValue at read
  split at read
  · rename_i between
    obtain ⟨above, below⟩ := codes '0' '9' between
    change 48 ≤ _ at above
    change _ ≤ 57 at below
    cases read
    omega
  split at read
  · rename_i between
    obtain ⟨above, below⟩ := codes 'a' 'f' between
    change 97 ≤ _ at above
    change _ ≤ 102 at below
    cases read
    omega
  split at read
  · rename_i between
    obtain ⟨above, below⟩ := codes 'A' 'F' between
    change 65 ≤ _ at above
    change _ ≤ 70 at below
    cases read
    omega
  · cases read

theorem visible_of_code {value : Char} (above : 32 < value.toNat) (below : value.toNat < 128) :
    isWhitespace value = false := by
  simp only [isWhitespace, Bool.or_eq_false_iff, Bool.and_eq_false_iff, decide_eq_false_iff_not]
  omega

/-- What the code takes for a byte. -/
def RadixByte (digits : List Char) (byte : UInt8) : Prop :=
  HexByte digits byte ∨ SignedByte digits byte

theorem radixValue_one (digit : Char) : radixValue [digit] = (hexValue digit).map UInt8.ofNat := by
  rcases read : hexValue digit with _ | value
  · simp [radixValue, read]
  · have small := (code_of_hexValue read).1
    have fits : ¬ value > 255 := by omega
    simp [radixValue, read, fits]

theorem radixValue_two (high low : Char) :
    radixValue [high, low] = (hexValue high).bind fun upper =>
      (hexValue low).map fun lower => UInt8.ofNat (16 * upper + lower) := by
  rcases readHigh : hexValue high with _ | upper
  · simp [radixValue, readHigh]
  rcases readLow : hexValue low with _ | lower
  · simp [radixValue, readHigh, readLow]
  have smallHigh := (code_of_hexValue readHigh).1
  have smallLow := (code_of_hexValue readLow).1
  have fits : ¬ 16 * upper + lower > 255 := by omega
  simp [radixValue, readHigh, readLow, fits]

theorem fromStrRadix16_of_unsigned {first : Char} (unsigned : first ≠ '+') :
    fromStrRadix16 (first :: rest) = radixValue (first :: rest) := by
  unfold fromStrRadix16
  split
  · rename_i same
    exact absurd (List.cons.inj same).1 unsigned
  · rfl

theorem unsigned_of_hexValue (read : hexValue digit = some value) : digit ≠ '+' := by
  rintro rfl
  cases read

/-- Within two characters the code reads digits, or a sign and a digit. -/
theorem fromStrRadix16_eq_some (short : digits.length ≤ 2) :
    fromStrRadix16 digits = some byte ↔ RadixByte digits byte := by
  constructor
  · intro read
    rcases digits with _ | ⟨first, _ | ⟨second, _ | ⟨third, rest⟩⟩⟩
    · cases read
    · by_cases sign : first = '+'
      · subst sign
        cases read
      · rw [fromStrRadix16_of_unsigned sign, radixValue_one] at read
        obtain ⟨value, digit, rfl⟩ := Option.map_eq_some_iff.mp read
        exact .inl (.one digit)
    · by_cases sign : first = '+'
      · subst sign
        rw [fromStrRadix16, radixValue_one] at read
        obtain ⟨value, digit, rfl⟩ := Option.map_eq_some_iff.mp read
        exact .inr (.signed digit)
      · rw [fromStrRadix16_of_unsigned sign, radixValue_two] at read
        obtain ⟨upper, high, read⟩ := Option.bind_eq_some_iff.mp read
        obtain ⟨lower, low, rfl⟩ := Option.map_eq_some_iff.mp read
        exact .inl (.two high low)
    · simp only [List.length_cons] at short
      omega
  · rintro (plain | signed)
    · cases plain with
      | one read =>
        rw [fromStrRadix16_of_unsigned (unsigned_of_hexValue read), radixValue_one, read]
        rfl
      | two readHigh readLow =>
        rw [fromStrRadix16_of_unsigned (unsigned_of_hexValue readHigh), radixValue_two, readHigh,
          readLow]
        rfl
    · cases signed with
      | signed read =>
        rw [fromStrRadix16, radixValue_one, read]
        rfl

/-! ## Tokens -/

/-- The characters of a byte are visible ASCII, and none of them is a mark. -/
theorem RadixByte.plain (number : RadixByte digits byte) :
    ∀ digit ∈ digits, 32 < digit.toNat ∧ digit.toNat < 103 := by
  have coded : ∀ {digit value}, hexValue digit = some value →
      32 < digit.toNat ∧ digit.toNat < 103 := by
    intro digit value read
    have codes := (code_of_hexValue read).2
    omega
  rcases number with plain | signed
  · cases plain with
    | one read => simpa using coded read
    | two readHigh readLow => simpa using ⟨coded readHigh, coded readLow⟩
  · cases signed with
    | signed read => simpa using coded read

theorem RadixByte.length (number : RadixByte digits byte) :
    digits.length = 1 ∨ digits.length = 2 := by
  rcases number with plain | signed
  · cases plain with
    | one read => exact .inl rfl
    | two readHigh readLow => exact .inr rfl
  · cases signed with
    | signed read => exact .inr rfl

/-- The digits of a byte have no mark before them. -/
theorem RadixByte.unmarked (number : RadixByte digits byte) :
    stripped "0x" digits = none ∧ stripped "0X" digits = none := by
  have noMark : ∀ {digit value}, hexValue digit = some value → 'x' ≠ digit ∧ 'X' ≠ digit := by
    intro digit value read
    constructor
    · rintro rfl
      cases read
    · rintro rfl
      cases read
  rcases number with plain | signed
  · cases plain with
    | one read => simp [stripped, List.isPrefixOf]
    | two readHigh readLow =>
      obtain ⟨lower, upper⟩ := noMark readLow
      simp [stripped, List.isPrefixOf, lower, upper]
  · cases signed with
    | signed read => simp [stripped, List.isPrefixOf]

theorem eq_append_of_stripped {lead : String} {value : List Char}
    (cut : stripped lead value = some rest) : value = lead.toList ++ rest := by
  unfold stripped at cut
  split at cut
  · rename_i begins
    obtain ⟨following, rfl⟩ := List.isPrefixOf_iff_prefix.mp begins
    cases cut
    simp [← String.length_toList]
  · cases cut

theorem stripped_append (lead : String) (rest : List Char) :
    stripped lead (lead.toList ++ rest) = some rest := by
  simp [stripped, List.isPrefixOf_iff_prefix, ← String.length_toList]

/-- What is left of a token once its mark is gone. -/
theorem exists_mark (token : List Char) :
    ∃ mark ∈ [[], "0x".toList, "0X".toList],
      token = mark ++ ((stripped "0x" token).or (stripped "0X" token)).getD token := by
  rcases lower : stripped "0x" token with _ | rest
  · rcases upper : stripped "0X" token with _ | rest
    · exact ⟨[], by simp, rfl⟩
    · exact ⟨"0X".toList, by simp, eq_append_of_stripped upper⟩
  · exact ⟨"0x".toList, by simp, eq_append_of_stripped lower⟩

theorem visible_of_mark : ∀ mark ∈ [[], "0x".toList, "0X".toList],
    ∀ value ∈ mark, isWhitespace value = false := by simp [isWhitespace]

theorem RadixByte.unmark {mark : List Char} (number : RadixByte digits byte)
    (marked : mark ∈ [[], "0x".toList, "0X".toList]) :
    ((stripped "0x" (mark ++ digits)).or (stripped "0X" (mark ++ digits))).getD (mark ++ digits) =
      digits := by
  simp only [List.mem_cons, List.not_mem_nil, or_false] at marked
  rcases marked with rfl | rfl | rfl
  · simp [number.unmarked]
  · rw [stripped_append]
    rfl
  · have other : stripped "0x" ("0X".toList ++ digits) = none := by
      simp [stripped, List.isPrefixOf]
    rw [other, stripped_append]
    rfl

theorem length_le_utf8 (chars : List Char) :
    chars.length ≤ (utf8 (String.ofList chars)).length := by
  rw [utf8_ofList]
  induction chars with
  | nil => exact Nat.le_refl _
  | cons char rest ih =>
    have filled : 0 < char.utf8Size := Char.utf8Size_pos char
    rw [List.flatMap_cons, List.length_append, String.length_utf8EncodeChar, List.length_cons]
    omega

theorem RadixByte.size (number : RadixByte digits byte) :
    (utf8 (String.ofList digits)).length = digits.length := by
  refine length_utf8_ofList fun digit inside => ?_
  have small := number.plain digit inside
  exact Char.utf8Size_eq_one_iff.mpr (UInt32.le_iff_toNat_le.mpr (by
    change digit.toNat ≤ 127
    omega))

theorem tokenByte_eq_some {part : List Char} :
    tokenByte part = some byte ↔ Written RadixByte part byte := by
  constructor
  · intro read
    obtain ⟨before, after, blankBefore, blankAfter, around⟩ := exists_around_trim part
    obtain ⟨mark, marked, split⟩ := exists_mark (trim part)
    simp only [tokenByte] at read
    generalize ((stripped "0x" (trim part)).or (stripped "0X" (trim part))).getD (trim part) =
      digits at read split
    by_cases sized : (utf8 (String.ofList digits)).length = 0 ∨
        (utf8 (String.ofList digits)).length > 2
    · rw [if_pos sized] at read
      cases read
    · rw [if_neg sized] at read
      have short : digits.length ≤ 2 := by
        have within := length_le_utf8 digits
        omega
      exact ⟨before, mark, digits, after, blankBefore, blankAfter, marked,
        (fromStrRadix16_eq_some short).mp read, split ▸ around⟩
  · rintro ⟨before, mark, digits, after, blankBefore, blankAfter, marked, number, rfl⟩
    have sized := number.length
    have filled : mark ++ digits ≠ [] := by
      rcases digits with _ | _
      · simp at sized
      · simp
    have visible : ∀ value ∈ mark ++ digits, isWhitespace value = false := by
      intro value inside
      rcases List.mem_append.mp inside with inMark | inDigits
      · exact visible_of_mark mark marked value inMark
      · have small := number.plain value inDigits
        exact visible_of_code small.1 (by omega)
    simp only [tokenByte, trim_around blankBefore blankAfter filled visible, number.unmark marked,
      number.size]
    rw [if_neg (by omega)]
    exact (fromStrRadix16_eq_some (by omega)).mpr number

/-! ## Paths -/

theorem readContactPath_eq_ok {parts : List (List Char)} {read : Bytes}
    (within : read.length ≤ 64) :
    readContactPath read parts = .ok bytes ↔
      ∃ later, List.Forall₂ (Written RadixByte) parts later ∧ bytes = read ++ later ∧
        bytes.length ≤ 64 := by
  induction parts generalizing read with
  | nil =>
    constructor
    · rintro ⟨⟩
      exact ⟨[], .nil, (List.append_nil _).symm, within⟩
    · rintro ⟨later, none, rfl, -⟩
      cases none
      rw [readContactPath, List.append_nil]
  | cons part parts ih =>
    rw [readContactPath]
    rcases token : tokenByte part with _ | byte
    · constructor
      · rintro ⟨⟩
      · rintro ⟨later, all, -, -⟩
        obtain ⟨first, others, written, -, rfl⟩ := List.forall₂_cons_left_iff.mp all
        rw [tokenByte_eq_some.mpr written] at token
        cases token
    · have here := tokenByte_eq_some.mp token
      have sized : (read ++ [byte]).length = read.length + 1 := by simp
      by_cases full : (read ++ [byte]).length > maxContactPathBytes
      · simp only [if_pos full]
        constructor
        · rintro ⟨⟩
        · rintro ⟨later, all, rfl, short⟩
          obtain ⟨first, others, -, -, rfl⟩ := List.forall₂_cons_left_iff.mp all
          rw [List.length_append, List.length_cons] at short
          rw [sized, maxContactPathBytes] at full
          omega
      · simp only [if_neg full]
        rw [ih (Nat.not_lt.mp full)]
        constructor
        · rintro ⟨later, all, rfl, short⟩
          exact ⟨byte :: later, .cons here all, by simp, short⟩
        · rintro ⟨later, all, rfl, short⟩
          obtain ⟨first, others, written, following, rfl⟩ := List.forall₂_cons_left_iff.mp all
          obtain rfl : byte = first :=
            Option.some.inj (token.symm.trans (tokenByte_eq_some.mpr written))
          exact ⟨others, following, by simp, short⟩

/-- Every token stands for a byte. -/
theorem exists_forall₂ :
    (∃ bytes, List.Forall₂ (Written number) tokens bytes) ↔
      ∀ token ∈ tokens, ∃ byte, Written number token byte := by
  induction tokens with
  | nil => simp
  | cons token later ih =>
    rw [List.forall_mem_cons, ← ih]
    constructor
    · rintro ⟨bytes, all⟩
      obtain ⟨byte, others, written, following, rfl⟩ := List.forall₂_cons_left_iff.mp all
      exact ⟨⟨byte, written⟩, others, following⟩
    · rintro ⟨⟨byte, written⟩, others, following⟩
      exact ⟨byte :: others, .cons written following⟩

/-- A character that is in no number is in no token. -/
theorem Written.absent (outside : ∀ digits byte, number digits byte → character ∉ digits)
    (visible : isWhitespace character = false)
    (unmarked : ∀ mark ∈ [[], "0x".toList, "0X".toList], character ∉ mark)
    (written : Written number token byte) : character ∉ token := by
  obtain ⟨before, mark, digits, after, blankBefore, blankAfter, marked, reads, rfl⟩ := written
  intro inside
  rcases List.mem_append.mp inside with inside | inAfter
  · rcases List.mem_append.mp inside with inBefore | inside
    · exact absurd (blankBefore character inBefore) (by simp [visible])
    · rcases List.mem_append.mp inside with inMark | inDigits
      · exact unmarked mark marked inMark
      · exact outside digits byte reads inDigits
  · exact absurd (blankAfter character inAfter) (by simp [visible])

theorem HexByte.absent (other : hexValue character = none) (number : HexByte digits byte) :
    character ∉ digits := by
  have different : ∀ {digit value}, hexValue digit = some value → character ≠ digit := by
    rintro digit value read rfl
    rw [other] at read
    cases read
  cases number with
  | one read => simpa using different read
  | two readHigh readLow => simpa using ⟨different readHigh, different readLow⟩

theorem comma_absent (written : Written RadixByte token byte) : ',' ∉ token := by
  refine written.absent ?_ (by decide) (by decide)
  rintro digits byte (plain | signed)
  · exact plain.absent (by decide)
  · cases signed with
    | @signed digit value read =>
      have other : ',' ≠ digit := by
        rintro rfl
        cases read
      simpa using other

theorem plus_absent (written : Written HexByte token byte) : '+' ∉ token :=
  written.absent (fun _ _ number => number.absent (by decide)) (by decide) (by decide)

/-- The tokens of a path are what its commas separate. -/
theorem pathText_iff :
    PathText RadixByte text bytes ↔ List.Forall₂ (Written RadixByte) (text.splitOn ',') bytes := by
  constructor
  · rintro ⟨tokens, filled, joined, all⟩
    have apart : ∀ token ∈ tokens, ',' ∉ token := by
      intro token inside
      obtain ⟨byte, written⟩ := exists_forall₂.mp ⟨bytes, all⟩ token inside
      exact comma_absent written
    rwa [splitOn_eq_iff.mpr ⟨filled, apart, joined⟩]
  · intro all
    obtain ⟨filled, -, joined⟩ := splitOn_eq_iff.mp (rfl : text.splitOn ',' = _)
    exact ⟨_, filled, joined, all⟩

theorem parseExplicitContactPath_eq_ok {raw : String} (short : raw.utf8ByteSize ≤ 320) :
    parseExplicitContactPath raw hashMode = .ok bytes ↔
      PathText RadixByte raw.toList bytes ∧ FitsRoute hashMode bytes.length := by
  have fits : ¬ raw.utf8ByteSize > maxContactPathBytes * 5 := Nat.not_lt.mpr short
  rw [parseExplicitContactPath, if_neg fits, pathText_iff]
  constructor
  · intro parsed
    obtain ⟨read, reads, checked⟩ := Checks.bind_ok.mp parsed
    obtain ⟨later, all, rfl, few⟩ := (@readContactPath_eq_ok _ _ [] (Nat.zero_le 64)).mp reads
    simp only at checked few
    split at checked
    · cases checked
    · rename_i whole
      split at checked
      · cases checked
      · rename_i hops
        cases checked
        obtain ⟨filled, whole⟩ := not_or.mp whole
        exact ⟨all, fun empty => filled (List.eq_nil_of_length_eq_zero empty),
          not_not.mp whole, few, Nat.not_lt.mp hops⟩
  · rintro ⟨all, route⟩
    have reads : readContactPath [] (raw.toList.splitOn ',') = .ok bytes :=
      (@readContactPath_eq_ok _ _ [] (Nat.zero_le 64)).mpr ⟨bytes, all, rfl, route.short⟩
    refine Checks.bind_ok.mpr ⟨bytes, reads, ?_⟩
    have filled : bytes ≠ [] := fun empty => route.filled (empty ▸ rfl)
    have hops := Nat.not_lt.mpr route.hops
    simp only [filled, route.whole, ne_eq, not_true_eq_false, or_self, if_false, hops]

/-! ## Routes -/

/-- What the protocol makes of the route of a path. -/
structure Encodes (hashMode : UInt8) (bytes : Bytes) (route : ContactRoute) (path : Path) :
    Prop where
  made : explicitRoute hashMode bytes = .ok (route, path)
  routed : route = .path hashMode (UInt8.ofNat (bytes.length / (hashMode.toNat + 1)))
  kept : path.bytes = bytes
  encoded : ∃ descriptor, encodeContactRoute route path = .ok descriptor

theorem encodes_explicitRoute (known : hashMode ≤ 2) (fits : FitsRoute hashMode bytes.length) :
    ∃ route path, Encodes hashMode bytes route path := by
  have small : bytes.length ≤ pathMaxBytes := Nat.le_trans fits.short (by decide)
  have few := fits.hops
  have joined : bytes.length / (hashMode.toNat + 1) * (hashMode.toNat + 1) = bytes.length :=
    Nat.div_mul_cancel (Nat.dvd_of_mod_eq_zero fits.whole)
  have counted : (UInt8.ofNat (bytes.length / (hashMode.toNat + 1))).toNat =
      bytes.length / (hashMode.toNat + 1) := UInt8.toNat_ofNat_of_lt (by
    change _ < 256
    omega)
  have hops : UInt8.ofNat (bytes.length / (hashMode.toNat + 1)) ≤ 63 := by
    rw [UInt8.le_iff_toNat_le, counted]
    exact few
  refine ⟨_, ⟨bytes, small⟩, ?_, rfl, rfl, _, encodeContactRoute_path known hops ?_ fits.short⟩
  · have bounded : ¬ bytes.length / (hashMode.toNat + 1) > 255 := by omega
    simp only [explicitRoute, if_neg bounded, Path.tryFromBytes, dif_pos small]
  · rw [ContactRoute.Spans, counted, joined]

/-! ## What is accepted -/

/-- The code accepts the paths in hexadecimal bytes that fit the hash mode, returns their bytes,
and makes a route of them that is encoded. -/
structure ReadsHexPaths (raw : String) (hashMode : UInt8) : Prop where
  accepts : ∀ bytes, parseExplicitContactPath raw hashMode = .ok bytes ↔
    PathText HexByte raw.toList bytes ∧ FitsRoute hashMode bytes.length
  encodes : ∀ bytes, parseExplicitContactPath raw hashMode = .ok bytes →
    ∃ route path, Encodes hashMode bytes route path

/-- A path that is well written but for signs, with at least one sign. -/
structure SignedPath (text : List Char) (hashMode : UInt8) (tokens : List (List Char)) :
    Prop where
  joined : text = [','].intercalate tokens
  read : ∀ token ∈ tokens, ∃ byte, Written RadixByte token byte
  signed : ∃ token ∈ tokens, ∃ byte, Written SignedByte token byte
  fits : FitsRoute hashMode tokens.length

theorem Written.mono {other : List Char → UInt8 → Prop}
    (weaker : ∀ digits byte, number digits byte → other digits byte)
    (written : Written number token byte) : Written other token byte := by
  obtain ⟨before, mark, digits, after, blankBefore, blankAfter, marked, reads, rfl⟩ := written
  exact ⟨before, mark, digits, after, blankBefore, blankAfter, marked, weaker _ _ reads, rfl⟩

theorem plus_of_signed (written : Written SignedByte token byte) : '+' ∈ token := by
  obtain ⟨before, mark, digits, after, -, -, -, reads, rfl⟩ := written
  cases reads with
  | signed read => simp

/-- The bytes are all in digits, or one of them has a sign. -/
theorem hex_or_signed (all : List.Forall₂ (Written RadixByte) tokens bytes) :
    List.Forall₂ (Written HexByte) tokens bytes ∨
      ∃ token ∈ tokens, ∃ byte, Written SignedByte token byte := by
  induction all with
  | nil => exact .inl .nil
  | @cons token byte later others written following ih =>
    rcases ih with hex | ⟨signed, inside, sign⟩
    · obtain ⟨before, mark, digits, after, blankBefore, blankAfter, marked, reads, rfl⟩ := written
      rcases reads with plain | signed
      · exact .inl (.cons ⟨before, mark, digits, after, blankBefore, blankAfter, marked, plain,
          rfl⟩ hex)
      · exact .inr ⟨_, List.mem_cons_self, byte, before, mark, digits, after, blankBefore,
          blankAfter, marked, signed, rfl⟩
    · exact .inr ⟨signed, List.mem_cons_of_mem _ inside, sign⟩

theorem PathText.unsigned (path : PathText HexByte text bytes) : '+' ∉ text := by
  obtain ⟨tokens, filled, rfl, all⟩ := path
  intro inside
  obtain ⟨token, listed, within⟩ := (mem_intercalate (by decide)).mp inside
  obtain ⟨byte, written⟩ := exists_forall₂.mp ⟨bytes, all⟩ token listed
  exact plus_absent written within

/-- The code reads the paths in hexadecimal bytes exactly where no byte has a sign. -/
theorem readsHexPaths_iff {raw : String} {hashMode : UInt8} (short : raw.utf8ByteSize ≤ 320)
    (known : hashMode ≤ 2) :
    ReadsHexPaths raw hashMode ↔ ∀ tokens, ¬ SignedPath raw.toList hashMode tokens := by
  constructor
  · intro reads tokens signed
    obtain ⟨bytes, all⟩ := exists_forall₂.mpr signed.read
    have sized : tokens.length = bytes.length := all.length_eq
    have filled : tokens ≠ [] := fun empty => signed.fits.filled (empty ▸ rfl)
    have accepted := (parseExplicitContactPath_eq_ok short).mpr
      ⟨⟨tokens, filled, signed.joined, all⟩, sized ▸ signed.fits⟩
    have hex := ((reads.accepts bytes).mp accepted).1
    obtain ⟨token, inside, byte, sign⟩ := signed.signed
    refine hex.unsigned ?_
    rw [signed.joined, mem_intercalate (by decide)]
    exact ⟨token, inside, plus_of_signed sign⟩
  · intro unsigned
    constructor
    · intro bytes
      rw [parseExplicitContactPath_eq_ok short]
      constructor
      · rintro ⟨⟨tokens, filled, joined, all⟩, fits⟩
        refine ⟨⟨tokens, filled, joined, ?_⟩, fits⟩
        rcases hex_or_signed all with hex | signed
        · exact hex
        · exact absurd ⟨joined, exists_forall₂.mp ⟨bytes, all⟩, signed, all.length_eq ▸ fits⟩
            (unsigned tokens)
      · rintro ⟨⟨tokens, filled, joined, all⟩, fits⟩
        exact ⟨⟨tokens, filled, joined, all.imp fun _ _ written => written.mono fun _ _ => .inl⟩,
          fits⟩
    · intro bytes accepted
      exact encodes_explicitRoute known ((parseExplicitContactPath_eq_ok short).mp accepted).2

/-- A contact that `contact_path_set` has updated has the route of the path that was typed in. -/
theorem returns_contactPathSet {τ ε : Type} [Transport τ ε] (shell : Shell) (globals : Globals)
    (contacts : List Contact) (contact path : String) :
    Returns (fun _ => True)
      (contactPathSet shell globals contacts contact path : SessionM τ ε Contact)
      (fun updated _ => ∃ hashMode bytes, parseExplicitContactPath path hashMode = .ok bytes ∧
        Encodes hashMode bytes updated.route updated.outPath) := by
  refine returns_then fun _ => returns_then fun current => returns_then fun hashMode =>
    returns_checked fun _ known => returns_checked fun bytes parsed => returns_then fun _ =>
    returns_checked fun (route, outPath) made => returns_then fun _ => returns_then fun _ =>
    returns_pure _ fun _ _ => ⟨hashMode, bytes, parsed, ?_⟩
  have short : path.utf8ByteSize ≤ 320 := by
    by_contra long
    have many : path.utf8ByteSize > maxContactPathBytes * 5 := Nat.not_le.mp long
    rw [parseExplicitContactPath, if_pos many] at parsed
    cases parsed
  have known : hashMode ≤ 2 := by
    by_contra unknown
    rw [if_neg unknown] at known
    cases known
  obtain ⟨_, _, encodes⟩ :=
    encodes_explicitRoute known ((parseExplicitContactPath_eq_ok short).mp parsed).2
  obtain ⟨rfl, rfl⟩ := Prod.mk.inj (Except.ok.inj (encodes.made.symm.trans made))
  exact encodes

theorem plain_path_read :
    parseExplicitContactPath "0x12, ab" 1 = .ok [0x12, 0xab] ∧ ReadsHexPaths "0x12, ab" 1 := by
  refine ⟨by decide, (readsHexPaths_iff (by decide) (by decide)).mpr ?_⟩
  intro tokens signed
  obtain ⟨token, inside, byte, sign⟩ := signed.signed
  have absent : '+' ∉ "0x12, ab".toList := by decide
  rw [signed.joined, mem_intercalate (by decide)] at absent
  exact absent ⟨token, inside, plus_of_signed sign⟩

/-- A sign before a digit is accepted, and no byte in hexadecimal digits has one. -/
theorem signed_path_accepted :
    parseExplicitContactPath "+a" 0 = .ok [10] ∧ ¬ ReadsHexPaths "+a" 0 := by
  have accepted : parseExplicitContactPath "+a" 0 = .ok [10] := by decide
  refine ⟨accepted, fun reads => ?_⟩
  have hex := ((reads.accepts [10]).mp accepted).1
  exact hex.unsigned (by decide)

end Meshquill.Cli
