import Meshquill.Text

/-!
# The words of a command line in a file

`lex_line` of `batch_cli.rs` cuts a line into words with a small state machine over its
characters: single and double quotes, backslashes outside of single quotes, and a comment that an
unquoted `#` starts. The main result is that quoting can be undone: a list of words that is
written with double quotes and escapes is read back as it is, and not read at all when the line is
cut inside a word.
-/
namespace Meshquill.Cli

def singleQuote : Char := '\x27'

def doubleQuote : Char := '\x22'

def backslash : Char := '\x5c'

inductive Quote where
  | single
  | double
deriving DecidableEq

/-- The variables of the loop. -/
structure LexState where
  words : List String := []
  word : List Char := []
  quote : Option Quote := none
  escaped : Bool := false
  started : Bool := false
deriving DecidableEq

namespace LexState

/-- `word.push(character)`. -/
def push (state : LexState) (character : Char) : LexState :=
  { state with word := state.word ++ [character], started := true }

/-- One character; a comment ends the loop. -/
def step (state : LexState) (character : Char) : Option LexState :=
  if state.escaped then some { state.push character with escaped := false }
  else
    match state.quote with
    | some .single =>
      if character = singleQuote then some { state with quote := none, started := true }
      else some (state.push character)
    | some .double =>
      if character = doubleQuote then some { state with quote := none, started := true }
      else if character = backslash then some { state with escaped := true, started := true }
      else some (state.push character)
    | none =>
      if character = '#' then none
      else if isWhitespace character then
        if state.started then
          some { state with
            words := state.words ++ [String.ofList state.word], word := [], started := false }
        else some state
      else if character = singleQuote then some { state with quote := some .single, started := true }
      else if character = doubleQuote then some { state with quote := some .double, started := true }
      else if character = backslash then some { state with escaped := true, started := true }
      else some (state.push character)

/-- The loop. -/
def run (state : LexState) : List Char → LexState
  | [] => state
  | character :: rest =>
    match state.step character with
    | some next => next.run rest
    | none => state

/-- What is returned after the loop. -/
def finish (state : LexState) : Except String (List String) :=
  if state.escaped then .error "line ends with an incomplete backslash escape"
  else if state.quote.isSome then .error "line contains an unterminated quote"
  else if state.started then .ok (state.words ++ [String.ofList state.word])
  else .ok state.words

end LexState

/-- The words of a line, outside of quotes and escapes separated by blanks. -/
def lexLine (line : String) : Except String (List String) :=
  (LexState.run {} line.toList).finish

/-! ## Quoted words -/

/-- A backslash before every backslash and every double quote. -/
def escapeQuoted (word : List Char) : List Char :=
  word.flatMap fun character =>
    if character = backslash ∨ character = doubleQuote then [backslash, character] else [character]

def quoteWord (word : String) : List Char :=
  doubleQuote :: (escapeQuoted word.toList ++ [doubleQuote])

/-- The words in double quotes, joined by spaces. -/
def quoteLine (words : List String) : List Char := [' '].intercalate (words.map quoteWord)

namespace LexState

/-- Between two words. -/
def between (words : List String) : LexState := { words }

/-- After the closing quote of a word. -/
def closed (words : List String) (word : List Char) : LexState := { words, word, started := true }

/-- Inside a quoted word. -/
def inside (words : List String) (word : List Char) : LexState :=
  { words, word, quote := some .double, started := true }

variable {words : List String} {word : List Char} {rest : List Char}

variable {state : LexState} {character : Char} {part : List Char}

theorem run_cons {next : LexState} (steps : state.step character = some next) :
    state.run (character :: rest) = next.run rest := by
  rw [run, steps]

theorem run_backslash (character : Char) :
    (inside words word).run (backslash :: character :: rest) =
      (inside words (word ++ [character])).run rest := by
  have escapes : (inside words word).step backslash =
      some { inside words word with escaped := true } := rfl
  rw [run_cons escapes, run_cons rfl]
  rfl

theorem run_plain (plain : ¬ (character = backslash ∨ character = doubleQuote)) :
    (inside words word).run (character :: rest) = (inside words (word ++ [character])).run rest := by
  have pushes : (inside words word).step character = some ((inside words word).push character) := by
    have unquoted : character ≠ doubleQuote := fun same => plain (.inr same)
    have unescaped : character ≠ backslash := fun same => plain (.inl same)
    simp [step, inside, unquoted, unescaped]
  rw [run_cons pushes]
  rfl

/-- An escaped word is read as the word. -/
theorem run_escapeQuoted (read : List Char) :
    (inside words read).run (escapeQuoted word ++ rest) =
      (inside words (read ++ word)).run rest := by
  induction word generalizing read with
  | nil => simp [escapeQuoted]
  | cons character later ih =>
    have next := ih (read ++ [character])
    rw [List.append_assoc, List.singleton_append] at next
    by_cases special : character = backslash ∨ character = doubleQuote
    · rw [escapeQuoted, List.flatMap_cons, if_pos special]
      exact (run_backslash character).trans next
    · rw [escapeQuoted, List.flatMap_cons, if_neg special]
      exact (run_plain special).trans next

theorem run_open :
    (between words).run (doubleQuote :: rest) = (inside words []).run rest := run_cons rfl

theorem run_quoteWord (word : String) :
    (between words).run (quoteWord word ++ rest) = (closed words word.toList).run rest := by
  rw [quoteWord, List.cons_append, run_open, List.append_assoc, run_escapeQuoted,
    List.singleton_append, List.nil_append]
  exact run_cons rfl

/-- A space after a word. -/
theorem run_space (word : String) :
    (closed words word.toList).run (' ' :: rest) = (between (words ++ [word])).run rest := by
  have ends : (closed words word.toList).step ' ' = some (between (words ++ [word])) := by
    simp [step, closed, between, show isWhitespace ' ' = true from rfl]
  exact run_cons ends

/-- Where the loop is after these words. -/
def reading (words : List String) : List String → LexState
  | [] => between words
  | [word] => closed words word.toList
  | word :: rest => reading (words ++ [word]) rest

theorem finish_reading (earlier : List String) :
    (reading words earlier).finish = .ok (words ++ earlier) := by
  induction earlier generalizing words with
  | nil => simp [reading, between, finish]
  | cons word later ih =>
    cases later with
    | nil => simp [reading, closed, finish]
    | cons next others =>
      rw [reading, ih, List.append_assoc, List.singleton_append]
      simp

variable (line : List String)

theorem run_quoteLine :
    (between words).run (quoteLine line ++ rest) = (reading words line).run rest := by
  induction line generalizing words with
  | nil => rfl
  | cons word later ih =>
    cases later with
    | nil => simpa [quoteLine, reading] using run_quoteWord word
    | cons next others =>
      have joined : quoteLine (word :: next :: others) =
          quoteWord word ++ ' ' :: quoteLine (next :: others) := by
        simp [quoteLine, List.intercalate]
      rw [joined, List.append_assoc, run_quoteWord, List.cons_append, run_space, ih]
      rfl

/-- Blanks before a comment may only end the last word. -/
theorem run_comment {gap : List Char} (unquoted : state.quote = none)
    (unescaped : state.escaped = false) (blank : ∀ character ∈ gap, isWhitespace character = true) :
    (state.run (gap ++ '#' :: rest)).finish = state.finish := by
  induction gap generalizing state with
  | nil =>
    have stops : state.step '#' = none := by simp [step, unquoted, unescaped]
    rw [List.nil_append, run, stops]
  | cons character later ih =>
    have space : isWhitespace character = true := blank character List.mem_cons_self
    have more := fun next inLater => blank next (List.mem_cons_of_mem character inLater)
    have noHash : character ≠ '#' := by
      rintro rfl
      exact absurd space (by decide)
    rw [List.cons_append]
    by_cases started : state.started = true
    · have ends : state.step character = some { state with
          words := state.words ++ [String.ofList state.word], word := [], started := false } := by
        simp [step, unquoted, unescaped, noHash, space, started]
      rw [run_cons ends]
      refine (ih ?_ ?_ more).trans ?_
      · exact unquoted
      · exact unescaped
      · simp [finish, unquoted, unescaped, started]
    · have stays : state.step character = some state := by
        simp [step, unquoted, unescaped, noHash, space, started]
      rw [run_cons stays, ih unquoted unescaped more]

theorem reading_unquoted :
    (reading words line).quote = none ∧ (reading words line).escaped = false := by
  induction line generalizing words with
  | nil => exact ⟨rfl, rfl⟩
  | cons word later ih =>
    cases later with
    | nil => exact ⟨rfl, rfl⟩
    | cons next others => exact ih

/-! ## Cut lines -/

/-- The words of a line before the one in question, each with the space after it. -/
def leading : List Char := line.flatMap fun word => quoteWord word ++ [' ']

theorem run_leading :
    (between words).run (leading line ++ rest) = (between (words ++ line)).run rest := by
  induction line generalizing words with
  | nil => simp [leading]
  | cons word later ih =>
    have joined : leading (word :: later) = quoteWord word ++ ' ' :: leading later := by
      simp [leading]
    rw [joined, List.append_assoc, run_quoteWord, List.cons_append, run_space,
      ih, List.append_assoc, List.singleton_append]

/-- A part of an escaped word ends between two characters of the word or inside an escape. -/
theorem part_of_escapeQuoted (starts : part <+: escapeQuoted word) :
    ∃ read, part = escapeQuoted read ∨ part = escapeQuoted read ++ [backslash] := by
  induction word generalizing part with
  | nil => exact ⟨[], .inl (List.prefix_nil.mp starts)⟩
  | cons character later ih =>
    rw [escapeQuoted, List.flatMap_cons, ← escapeQuoted] at starts
    by_cases special : character = backslash ∨ character = doubleQuote
    · rw [if_pos special] at starts
      cases part with
      | nil => exact ⟨[], .inl rfl⟩
      | cons first others =>
        obtain ⟨rfl, following⟩ := List.cons_prefix_cons.mp starts
        cases others with
        | nil => exact ⟨[], .inr rfl⟩
        | cons second others =>
          obtain ⟨rfl, remaining⟩ := List.cons_prefix_cons.mp following
          obtain ⟨read, whole | half⟩ := ih remaining
          · exact ⟨second :: read, .inl (by simp [escapeQuoted, special, whole])⟩
          · exact ⟨second :: read, .inr (by simp [escapeQuoted, special, half])⟩
    · rw [if_neg special] at starts
      cases part with
      | nil => exact ⟨[], .inl rfl⟩
      | cons first others =>
        obtain ⟨rfl, remaining⟩ := List.cons_prefix_cons.mp starts
        obtain ⟨read, whole | half⟩ := ih remaining
        · exact ⟨first :: read, .inl (by simp [escapeQuoted, special, whole])⟩
        · exact ⟨first :: read, .inr (by simp [escapeQuoted, special, half])⟩

/-- The two errors of a line that is not complete. -/
def incomplete : List String :=
  ["line ends with an incomplete backslash escape", "line contains an unterminated quote"]

theorem finish_inside (starts : part <+: escapeQuoted word) :
    ∃ reason ∈ incomplete, ((inside words []).run part).finish = .error reason := by
  obtain ⟨read, rfl | rfl⟩ := part_of_escapeQuoted starts
  · refine ⟨_, List.mem_cons_of_mem _ List.mem_cons_self, ?_⟩
    rw [← List.append_nil (escapeQuoted read), run_escapeQuoted]
    rfl
  · refine ⟨_, List.mem_cons_self, ?_⟩
    rw [run_escapeQuoted]
    rfl

theorem leading_starts (earlier : List String) (word : String) (later : List String) :
    leading earlier ++ quoteWord word <+: quoteLine (earlier ++ word :: later) := by
  induction earlier with
  | nil =>
    cases later with
    | nil => simp [leading, quoteLine]
    | cons next others => simp [leading, quoteLine, List.intercalate]
  | cons first others ih =>
    have joined : quoteLine (first :: others ++ word :: later) =
        quoteWord first ++ ' ' :: quoteLine (others ++ word :: later) := by
      cases others <;> simp [quoteLine, List.intercalate]
    rw [joined]
    simpa [leading] using ih

end LexState

/-- A line of quoted words is read as these words, also with a comment after it, and is
incomplete when it is cut inside a word. -/
theorem lexLine_quoteLine :
    (∀ words, lexLine (String.ofList (quoteLine words)) = .ok words) ∧
    (∀ words gap comment, (∀ character ∈ gap, isWhitespace character = true) →
      lexLine (String.ofList (quoteLine words ++ (gap ++ '#' :: comment))) = .ok words) ∧
    ∀ earlier word later part, part <+: quoteWord word → part ≠ [] → part ≠ quoteWord word →
      LexState.leading earlier ++ part <+: quoteLine (earlier ++ word :: later) ∧
      ∃ reason ∈ LexState.incomplete,
        lexLine (String.ofList (LexState.leading earlier ++ part)) = .error reason := by
  refine ⟨?_, ?_, ?_⟩
  · intro words
    have reads := @LexState.run_quoteLine [] [] words
    rw [List.append_nil] at reads
    rw [lexLine, String.toList_ofList]
    exact (congrArg LexState.finish reads).trans (LexState.finish_reading words)
  · intro words gap comment blank
    obtain ⟨unquoted, unescaped⟩ := @LexState.reading_unquoted [] words
    rw [lexLine, String.toList_ofList]
    refine (congrArg LexState.finish (LexState.run_quoteLine words)).trans ?_
    rw [LexState.run_comment unquoted unescaped blank]
    exact LexState.finish_reading words
  · intro earlier word later part starts nonempty proper
    constructor
    · exact ((List.prefix_append_right_inj _).mpr starts).trans
        (LexState.leading_starts earlier word later)
    · obtain ⟨first, read, rfl⟩ := List.exists_cons_of_ne_nil nonempty
      obtain ⟨rfl, following⟩ := List.cons_prefix_cons.mp starts
      have inWord : read <+: escapeQuoted word.toList := by
        rcases List.prefix_concat_iff.mp following with whole | part
        · exact absurd (congrArg _ whole) proper
        · exact part
      obtain ⟨reason, listed, fails⟩ := @LexState.finish_inside earlier _ _ inWord
      refine ⟨reason, listed, ?_⟩
      rw [lexLine, String.toList_ofList, ← fails, ← LexState.run_open]
      exact congrArg LexState.finish (LexState.run_leading earlier)

end Meshquill.Cli
