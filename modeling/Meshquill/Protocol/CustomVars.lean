import Meshquill.Checks
import Meshquill.Protocol.Utf8
import Meshquill.Text

/-!
# Custom variables

The device lists its custom variables as `key:value` pairs with commas between them. The parser
undoes the joining: it finds the variables of every list that the setter could have sent, and
whatever it accepts is such a list with no key twice.
-/
namespace Meshquill

open Checks Parse

/-! ## Pairs -/

namespace CustomVariable

/-- The pair of a variable. -/
def pair (listed : CustomVariable) : List Char :=
  listed.key.toList ++ ':' :: listed.value.toList

/-- The pairs with commas between them. -/
def joined (entries : List CustomVariable) : String :=
  String.ofList ([','].intercalate (entries.map pair))

/-- What the parser asks of a pair. -/
structure Strict (listed : CustomVariable) : Prop where
  keyed : listed.key ≠ ""
  valued : listed.value ≠ ""
  single : ':' ∉ listed.key.toList ∧ ':' ∉ listed.value.toList
  noNul : '\x00' ∉ listed.key.toList ∧ '\x00' ∉ listed.value.toList

end CustomVariable

open CustomVariable

theorem splitOnce_eq_some {separator : Char} {text before after : List Char} :
    splitOnce separator text = some (before, after) ↔
      text = before ++ separator :: after ∧ separator ∉ before := by
  induction text generalizing before with
  | nil => simp [splitOnce]
  | cons first rest ih =>
    rw [splitOnce]
    by_cases here : first = separator
    · rw [if_pos here]
      cases before with
      | nil => simp [here]
      | cons other before => simp +contextual [← here]
    · rw [if_neg here]
      cases before with
      | nil => simp [here]
      | cons other before =>
        simp only [Option.map_eq_some_iff, Prod.exists, Prod.mk.injEq, List.cons.injEq,
          List.cons_append, List.mem_cons, not_or]
        constructor
        · rintro ⟨found, value, split, ⟨rfl, rfl⟩, rfl⟩
          obtain ⟨same, absent⟩ := ih.mp split
          exact ⟨⟨rfl, same⟩, Ne.symm here, absent⟩
        · rintro ⟨⟨rfl, same⟩, -, absent⟩
          exact ⟨before, after, ih.mpr ⟨same, absent⟩, ⟨rfl, rfl⟩, rfl⟩

variable {accepted entries : List CustomVariable} {value text : String} {raw : Bytes}
  {packet : Packet}

/-- One round of the loop over the pairs. -/
theorem parseCustomEntries_cons {next : List Char} {rest : List (List Char)} :
    parseCustomEntries accepted (next :: rest) = .ok entries ↔
      ∃ listed : CustomVariable, next = listed.pair ∧ listed.Strict ∧
        (∀ entry ∈ accepted, entry.key ≠ listed.key) ∧
        parseCustomEntries (accepted ++ [listed]) rest = .ok entries := by
  rw [parseCustomEntries]
  constructor
  · intro parsed
    split at parsed
    · cases parsed
    · rename_i key value split
      obtain ⟨same, absent⟩ := splitOnce_eq_some.mp split
      split at parsed
      · cases parsed
      · rename_i strict
        split at parsed
        · cases parsed
        · rename_i fresh
          simp only [not_or] at strict
          refine ⟨⟨String.ofList key, String.ofList value⟩, ?_, ⟨?_, ?_, ?_, ?_⟩, ?_, parsed⟩
          · simp [pair, same]
          · exact mt String.ofList_eq_empty_iff.mp strict.1
          · exact mt String.ofList_eq_empty_iff.mp strict.2.1
          · simpa using ⟨absent, strict.2.2.1⟩
          · simpa using strict.2.2.2
          · simpa using fresh
  · rintro ⟨listed, rfl, strict, fresh, parsed⟩
    have split : splitOnce ':' listed.pair =
        some (listed.key.toList, listed.value.toList) :=
      splitOnce_eq_some.mpr ⟨rfl, strict.single.1⟩
    have kept : ¬ (listed.key.toList = [] ∨ listed.value.toList = [] ∨
        ':' ∈ listed.value.toList ∨ '\x00' ∈ listed.key.toList ∨
        '\x00' ∈ listed.value.toList) := by
      rw [String.toList_eq_nil_iff, String.toList_eq_nil_iff]
      simp [strict.keyed, strict.valued, strict.single.2, strict.noNul]
    have new : ¬ accepted.any (fun entry => entry.key =
        String.ofList listed.key.toList) = true := by
      simpa using fresh
    simp only [split, if_neg kept, String.ofList_toList] at new ⊢
    rw [if_neg new]
    exact parsed

/-- The loop accepts the pairs of variables with keys of their own, after those it already has. -/
theorem parseCustomEntries_ok {pairs : List (List Char)}
    (distinct : (accepted.map CustomVariable.key).Nodup) :
    parseCustomEntries accepted pairs = .ok entries ↔
      ∃ new, entries = accepted ++ new ∧ pairs = new.map pair ∧ (∀ entry ∈ new, entry.Strict) ∧
        (entries.map CustomVariable.key).Nodup := by
  induction pairs generalizing accepted with
  | nil =>
    rw [parseCustomEntries]
    constructor
    · rintro ⟨⟩
      exact ⟨[], by simp, rfl, by simp, distinct⟩
    · rintro ⟨new, rfl, none, -⟩
      rw [List.map_eq_nil_iff.mp none.symm, List.append_nil]
  | cons next rest ih =>
    rw [parseCustomEntries_cons]
    have extended : ∀ listed : CustomVariable,
        ((accepted ++ [listed]).map CustomVariable.key).Nodup ↔
          ∀ entry ∈ accepted, entry.key ≠ listed.key := by
      intro listed
      rw [List.map_append, List.nodup_append]
      simp [distinct]
    constructor
    · rintro ⟨listed, rfl, strict, fresh, parsed⟩
      obtain ⟨new, rfl, rfl, others, unique⟩ := (ih ((extended listed).mpr fresh)).mp parsed
      exact ⟨listed :: new, by simp, rfl, List.forall_mem_cons.mpr ⟨strict, others⟩, unique⟩
    · rintro ⟨_ | ⟨listed, new⟩, rfl, paired, strict, unique⟩
      · cases paired
      · obtain ⟨rfl, rfl⟩ := List.cons.inj paired
        obtain ⟨first, others⟩ := List.forall_mem_cons.mp strict
        have regrouped : accepted ++ listed :: new = accepted ++ [listed] ++ new := by simp
        have soFar : ((accepted ++ [listed]).map CustomVariable.key).Nodup := by
          rw [regrouped, List.map_append] at unique
          exact (List.nodup_append.mp unique).1
        exact ⟨listed, rfl, first, (extended listed).mp soFar,
          (ih soFar).mpr ⟨new, regrouped, rfl, others, unique⟩⟩

/-! ## Components -/

/-- A text that the setter accepts: not empty, without NUL and without a separator. -/
def PlainComponent (text : String) : Prop :=
  text ≠ "" ∧ ∀ char ∈ text.toList, char ≠ '\x00' ∧ char ≠ ':' ∧ char ≠ ','

theorem plainComponent_of_validate {field : String}
    (valid : validateCustomComponent value field = .ok ()) : PlainComponent value := by
  obtain ⟨filled, plain⟩ := check_ok.mp valid
  have unseparated : ∀ byte ∈ utf8 value, byte ∉ [0, 58, 44] := by
    split at plain
    · cases plain
    · rename_i free
      simpa using free
  have absent : ∀ separator : Char, separator.val.toNat < 128 →
      UInt8.ofNat separator.val.toNat ∈ [0, 58, 44] → separator ∉ value.toList :=
    fun separator ascii listed inside => unseparated _ (mem_utf8_of_mem_toList inside ascii) listed
  constructor
  · rintro rfl
    cases filled
  · intro char inside
    refine ⟨?_, ?_, ?_⟩
    all_goals
      rintro rfl
      exact absent _ (by decide) (by decide) inside

theorem plainComponents_of_setCustomVar {key : String} {command : Command}
    (set : Command.setCustomVar key value = .ok command) :
    PlainComponent key ∧ PlainComponent value := by
  obtain ⟨keyed, rest⟩ := check_ok.mp set
  obtain ⟨valued, -⟩ := check_ok.mp rest
  exact ⟨plainComponent_of_validate keyed, plainComponent_of_validate valued⟩

/-- A strict pair between commas has plain components. -/
theorem strict_and_apart {entry : CustomVariable} :
    entry.Strict ∧ ',' ∉ entry.pair ↔ PlainComponent entry.key ∧ PlainComponent entry.value := by
  constructor
  · rintro ⟨⟨keyed, valued, single, noNul⟩, apart⟩
    simp only [pair, List.mem_append, List.mem_cons, not_or] at apart
    constructor
    · refine ⟨keyed, fun char inside => ⟨?_, ?_, ?_⟩⟩
      all_goals rintro rfl
      · exact noNul.1 inside
      · exact single.1 inside
      · exact apart.1 inside
    · refine ⟨valued, fun char inside => ⟨?_, ?_, ?_⟩⟩
      all_goals rintro rfl
      · exact noNul.2 inside
      · exact single.2 inside
      · exact apart.2.2 inside
  · rintro ⟨⟨keyed, plainKey⟩, valued, plainValue⟩
    refine ⟨⟨keyed, valued, ⟨?_, ?_⟩, ?_, ?_⟩, ?_⟩
    · exact fun inside => (plainKey _ inside).2.1 rfl
    · exact fun inside => (plainValue _ inside).2.1 rfl
    · exact fun inside => (plainKey _ inside).1 rfl
    · exact fun inside => (plainValue _ inside).1 rfl
    · simp only [pair, List.mem_append, List.mem_cons, not_or]
      exact ⟨fun inside => (plainKey _ inside).2.2 rfl, by decide,
        fun inside => (plainValue _ inside).2.2 rfl⟩

/-! ## Payloads -/

/-- The variables of a list that the parser accepts. -/
structure Listed (entries : List CustomVariable) : Prop where
  distinct : (entries.map CustomVariable.key).Nodup
  plain : ∀ entry ∈ entries, PlainComponent entry.key ∧ PlainComponent entry.value

theorem joined_eq_empty : joined entries = "" ↔ entries = [] := by
  rw [joined, String.ofList_eq_empty_iff]
  cases entries with
  | nil => exact iff_of_true rfl rfl
  | cons entry entries =>
    refine iff_of_false ?_ nofun
    cases entries <;> simp [List.intercalate, pair]

/-- The entries of a text are the variables that it joins. -/
theorem customEntries_ok :
    (if text.isEmpty then pure [] else parseCustomEntries [] (text.toList.splitOn ',')) =
        (.ok entries : Parse (List CustomVariable)) ↔
      text = joined entries ∧ Listed entries := by
  by_cases empty : text = ""
  · rw [if_pos (by simp [empty])]
    constructor
    · rintro ⟨⟩
      exact ⟨empty, List.nodup_nil, by simp⟩
    · rintro ⟨same, -⟩
      rw [joined_eq_empty.mp (same.symm.trans empty)]
      rfl
  · have loop : parseCustomEntries [] (text.toList.splitOn ',') = .ok entries ↔ _ :=
      parseCustomEntries_ok List.nodup_nil
    rw [if_neg (by simpa using empty), loop]
    constructor
    · rintro ⟨new, rfl, split, strict, distinct⟩
      obtain ⟨-, apart, same⟩ := splitOn_eq_iff.mp split
      refine ⟨?_, distinct, fun entry inside => ?_⟩
      · rw [joined, ← same, String.ofList_toList]
      · exact strict_and_apart.mp ⟨strict entry inside, apart _ (List.mem_map_of_mem inside)⟩
    · rintro ⟨rfl, distinct, plain⟩
      refine ⟨entries, rfl, splitOn_eq_iff.mpr ⟨?_, ?_, ?_⟩, ?_, distinct⟩
      · exact mt (List.map_eq_nil_iff.mp ·) (mt joined_eq_empty.mpr empty)
      · intro part inside
        obtain ⟨entry, member, rfl⟩ := List.mem_map.mp inside
        exact (strict_and_apart.mpr (plain entry member)).2
      · exact String.toList_ofList
      · exact fun entry inside => (strict_and_apart.mpr (plain entry inside)).1

/-- Only a text within the bound is looked into. -/
theorem text_of_parseCustomVars (parsed : parseCustomVars raw = .ok packet) :
    ∃ code text, raw = code :: utf8 text ∧ (utf8 text).length ≤ 140 := by
  unfold parseCustomVars at parsed
  split at parsed
  · cases parsed
  · rename_i short
    obtain ⟨payload, cut, parsed⟩ := bind_ok.mp parsed
    split at parsed
    · cases parsed
    · rename_i text decoded
      cases raw with
      | nil => cases cut
      | cons code rest =>
        have whole : payload = rest := by
          rw [slice, if_pos ⟨Nat.succ_le_succ (Nat.zero_le _), Nat.le_refl _⟩,
            List.take_length] at cut
          exact (Except.ok.inj cut).symm
        have encoded := (utf8_of_fromUtf8 decoded).trans whole
        exact ⟨code, text, by rw [encoded], encoded ▸ Nat.not_lt.mp short⟩

theorem parseCustomVars_text (code : UInt8) (short : (utf8 text).length ≤ 140) :
    parseCustomVars (code :: utf8 text) =
      (if text.isEmpty then pure [] else parseCustomEntries [] (text.toList.splitOn ',')) >>=
        fun entries => pure (.customVariables ⟨utf8 text, entries⟩) := by
  have cut : slice (code :: utf8 text) 1 (code :: utf8 text).length = .ok (utf8 text) := by
    rw [slice, if_pos ⟨Nat.succ_le_succ (Nat.zero_le _), Nat.le_refl _⟩, List.take_length]
    rfl
  have within : ¬ (code :: utf8 text).length - 1 > 140 := Nat.not_lt.mpr short
  unfold parseCustomVars
  rw [if_neg within, cut]
  simp only [bind, Except.bind, fromUtf8_utf8]
  split
  · rfl
  · rfl

/-- The payloads that the parser accepts, and what it returns for them. -/
theorem parseCustomVars_ok :
    parseCustomVars raw = .ok packet ↔
      ∃ code entries, raw = code :: utf8 (joined entries) ∧
        (utf8 (joined entries)).length ≤ 140 ∧ Listed entries ∧
        packet = .customVariables ⟨utf8 (joined entries), entries⟩ := by
  constructor
  · intro parsed
    obtain ⟨code, text, rfl, short⟩ := text_of_parseCustomVars parsed
    rw [parseCustomVars_text code short] at parsed
    obtain ⟨entries, found, ⟨⟩⟩ := bind_ok.mp parsed
    obtain ⟨rfl, listed⟩ := customEntries_ok.mp found
    exact ⟨code, entries, rfl, short, listed, rfl⟩
  · rintro ⟨code, entries, rfl, short, listed, rfl⟩
    rw [parseCustomVars_text code short]
    exact bind_ok.mpr ⟨entries, customEntries_ok.mpr ⟨rfl, listed⟩, rfl⟩

/-- The parser returns the variables of every list that the setter could have sent, in their
order, and what it accepts is a list of distinct variables that joins to the payload. -/
theorem custom_vars_joined_and_parsed :
    (∀ (code : UInt8) (entries : List CustomVariable),
      (entries.map CustomVariable.key).Nodup →
      (∀ entry ∈ entries, ∃ command, Command.setCustomVar entry.key entry.value = .ok command) →
      (utf8 (joined entries)).length ≤ 140 →
      parseCustomVars (code :: utf8 (joined entries)) =
        .ok (.customVariables ⟨utf8 (joined entries), entries⟩)) ∧
    ∀ raw packet, parseCustomVars raw = .ok packet →
      ∃ vars : CustomVariables, packet = .customVariables vars ∧
        (vars.entries.map CustomVariable.key).Nodup ∧
        (∀ entry ∈ vars.entries, PlainComponent entry.key ∧ PlainComponent entry.value) ∧
        vars.raw = raw.tail ∧ utf8 (joined vars.entries) = raw.tail := by
  constructor
  · intro code entries distinct set short
    refine parseCustomVars_ok.mpr ⟨code, entries, rfl, short, ⟨distinct, ?_⟩, rfl⟩
    intro entry inside
    obtain ⟨command, accepted⟩ := set entry inside
    exact plainComponents_of_setCustomVar accepted
  · intro raw packet parsed
    obtain ⟨code, entries, rfl, short, listed, rfl⟩ := parseCustomVars_ok.mp parsed
    exact ⟨_, rfl, listed.distinct, listed.plain, rfl, rfl⟩

/-- Two variables of a device with a receiver. -/
def sampleVariables : List CustomVariable := [⟨"gps", "1"⟩, ⟨"antenna", "roof"⟩]

theorem sampleVariables_joined_and_parsed :
    utf8 (joined sampleVariables) = utf8 "gps:1,antenna:roof" ∧
      parseCustomVars (21 :: utf8 (joined sampleVariables)) =
        .ok (.customVariables ⟨utf8 (joined sampleVariables), sampleVariables⟩) ∧
      ∃ vars : CustomVariables,
        Packet.customVariables ⟨utf8 (joined sampleVariables), sampleVariables⟩ =
          .customVariables vars ∧
        (vars.entries.map CustomVariable.key).Nodup ∧
        (∀ entry ∈ vars.entries, PlainComponent entry.key ∧ PlainComponent entry.value) ∧
        vars.raw = utf8 (joined sampleVariables) ∧
        utf8 (joined vars.entries) = utf8 (joined sampleVariables) := by
  have accepted : ∀ entry ∈ sampleVariables,
      ∃ command, Command.setCustomVar entry.key entry.value = .ok command := by
    intro entry inside
    rcases List.mem_cons.mp inside with rfl | inside
    · exact ⟨_, rfl⟩
    · rw [List.mem_singleton.mp inside]
      exact ⟨_, rfl⟩
  have parsed := custom_vars_joined_and_parsed.1 21 sampleVariables (by decide) accepted
    (by decide +kernel)
  exact ⟨by decide +kernel, parsed, custom_vars_joined_and_parsed.2 _ _ parsed⟩

end Meshquill
