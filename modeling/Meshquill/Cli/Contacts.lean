import Meshquill.Cli.Error
import Meshquill.Protocol.Parse
import Meshquill.Text

/-!
# Naming a contact

`resolve_contact` of `runtime.rs`: an exact advertised name, or else a hexadecimal prefix of a
public key, and in either case only if exactly one contact has it. The suggestions in its hints
compare names without regard to case. How the standard library lowercases is a parameter here.
-/
namespace Meshquill

/-- `char::is_ascii_hexdigit`. -/
def isAsciiHexdigit (value : Char) : Bool :=
  ('0' ≤ value && value ≤ '9') || ('a' ≤ value && value ≤ 'f') || ('A' ≤ value && value ≤ 'F')

/-- `str::parse::<u8>`. -/
def parseU8 (text : String) : Option UInt8 := (parseUnsigned 255 text).map UInt8.ofNat

/-! ## Suggestions -/

/-- One row of the table of `edit_distance`: `before` is the entry to the left, and `above` the
row for one character less, from the entry diagonally before on. -/
def editRow (char : Char) (before : Nat) : List Char → List Nat → List Nat
  | other :: rest, diagonal :: upper :: above =>
    let substitution := diagonal + if char ≠ other then 1 else 0
    let entry := min (min (upper + 1) (before + 1)) substitution
    entry :: editRow char entry rest (upper :: above)
  | _, _ => []

/-- The rows from a character index on. -/
def editRows (right : List Char) : Nat → List Char → List Nat → List Nat
  | _, [], previous => previous
  | index, char :: rest, previous =>
    editRows right (index + 1) rest ((index + 1) :: editRow char (index + 1) right previous)

/-- `edit_distance`. -/
def editDistance (left right : String) : Nat :=
  let columns := right.toList
  ((editRows columns 0 left.toList (List.range (columns.length + 1))).getLast?).getD 0

/-- `min_by`: the first of the least elements. -/
def minBy {α : Type} (before : α → α → Bool) : List α → Option α
  | [] => none
  | first :: rest => some (rest.foldl (fun best next => if before next best then next else best) first)

/-- The order in which `closest_suggestion` prefers a candidate. -/
def suggestedBefore (lowercase : String → String) (left right : String × Nat) : Bool :=
  left.2 < right.2 || (left.2 = right.2 &&
    (lowercase left.1 < lowercase right.1 || (lowercase left.1 = lowercase right.1 &&
      left.1 < right.1)))

/-- `closest_suggestion`. -/
def closestSuggestion (lowercase : String → String) (query : String) (candidates : List String) :
    Option String :=
  if query.isEmpty then none
  else
    let normalizedQuery := lowercase query
    let maximumDistance := min (max ((normalizedQuery.length + 2) / 3) 1) 3
    let measured := candidates.map fun candidate =>
      (candidate, editDistance normalizedQuery (lowercase candidate))
    (minBy (suggestedBefore lowercase)
      (measured.filter fun measured => measured.2 ≤ maximumDistance)).map Prod.fst

def contactNameSuggestion (lowercase : String → String) (contacts : List Contact)
    (query : String) : Option String :=
  closestSuggestion lowercase query (contacts.map Contact.advName)

/-! ## Resolution -/

/-- `public_key.to_hex().starts_with(prefix)`. -/
def Contact.hasKeyPrefix (keyPrefix : String) (contact : Contact) : Bool :=
  keyPrefix.toList.isPrefixOf (hexEncode contact.publicKey.val).toList

def resolveContact (lowercase : String → String) (contacts : List Contact) (query : String) :
    Except CliError Contact :=
  match contacts.filter (·.advName = query) with
  | [contact] => .ok contact
  | _ :: _ :: _ =>
    .error (.withHint "Use a unique public-key prefix."
      { status := .usage, message := "contact name '" ++ query ++ "' is not unique" })
  | [] =>
    if query.isEmpty ∨ ¬ query.toList.all isAsciiHexdigit then
      let error : CliError :=
        { status := .notFound, message := "contact '" ++ query ++ "' was not found" }
      .error (match contactNameSuggestion lowercase contacts query with
        | some suggestion => error.withHint ("Did you mean '" ++ suggestion ++
            "'? Contact names are case-sensitive; no contact was selected.")
        | none => error.withHint
            "Use an exact case-sensitive name or a unique hexadecimal key prefix.")
    else
      match contacts.filter (Contact.hasKeyPrefix query.toLower) with
      | [contact] => .ok contact
      | [] =>
        let error : CliError :=
          { status := .notFound, message := "contact key prefix '" ++ query ++ "' was not found" }
        .error (match contactNameSuggestion lowercase contacts query with
          | some suggestion => error.withHint ("Did you mean the contact '" ++ suggestion ++
              "'? No contact was selected.")
          | none => error.withHint
              "Use an exact case-sensitive name or a unique hexadecimal key prefix.")
      | _ :: _ :: _ =>
        .error (.withHint "Provide more hexadecimal key characters."
          { status := .usage, message := "contact key prefix '" ++ query ++ "' is ambiguous" })

variable {lowercase : String → String} {contacts : List Contact} {query : String}
  {contact : Contact}

/-- What finds a contact: being the only one with this name, or, if nobody has the name, the only
one whose key begins with these digits. -/
theorem resolveContact_eq_ok :
    resolveContact lowercase contacts query = .ok contact ↔
      contacts.filter (·.advName = query) = [contact] ∨
        contacts.filter (·.advName = query) = [] ∧ query ≠ "" ∧
          query.toList.all isAsciiHexdigit = true ∧
          contacts.filter (Contact.hasKeyPrefix query.toLower) = [contact] := by
  unfold resolveContact
  split
  · rename_i named
    simp [named]
  · rename_i shared
    simp [shared]
  · rename_i nobody
    simp only [nobody]
    split
    · rename_i unusable
      rcases unusable with empty | digits
      · simp [String.isEmpty_iff.mp empty]
      · simp [digits]
    · rename_i usable
      have filled : query ≠ "" := fun empty => usable (.inl (String.isEmpty_iff.mpr empty))
      have digits : query.toList.all isAsciiHexdigit = true := by
        simpa using (not_or.mp usable).2
      split
      · rename_i matched
        simp [filled, digits, matched]
      · rename_i matched
        simp [matched]
      · rename_i matched
        simp [matched]

/-- Whatever a query selects is one of the contacts. -/
theorem mem_of_resolveContact (resolved : resolveContact lowercase contacts query = .ok contact) :
    contact ∈ contacts := by
  rcases resolveContact_eq_ok.mp resolved with named | ⟨_, _, _, matched⟩
  · exact List.mem_of_mem_filter (named ▸ List.mem_singleton_self contact)
  · exact List.mem_of_mem_filter (matched ▸ List.mem_singleton_self contact)

/-- A contact is found under its own name exactly when no other contact has it. -/
theorem resolveContact_advName (listed : contact ∈ contacts) :
    resolveContact lowercase contacts contact.advName = .ok contact ↔
      (contacts.filter (·.advName = contact.advName)).length = 1 := by
  have found : contact ∈ contacts.filter (·.advName = contact.advName) :=
    List.mem_filter.mpr ⟨listed, decide_eq_true rfl⟩
  unfold resolveContact
  constructor
  · intro resolved
    split at resolved
    · rename_i named
      rw [named]
      rfl
    · cases resolved
    · rename_i nobody
      rw [nobody] at found
      cases found
  · intro single
    obtain ⟨only, named⟩ := List.length_eq_one_iff.mp single
    rw [named] at found
    rw [named, List.mem_singleton.mp found]

/-- A name that several contacts have is refused. -/
theorem resolveContact_shared (listed : contact ∈ contacts)
    (shared : (contacts.filter (·.advName = contact.advName)).length ≠ 1) :
    ∃ error, resolveContact lowercase contacts contact.advName = .error error := by
  have found : contact ∈ contacts.filter (·.advName = contact.advName) :=
    List.mem_filter.mpr ⟨listed, decide_eq_true rfl⟩
  unfold resolveContact
  split
  · rename_i named
    rw [named] at shared
    exact absurd rfl shared
  · exact ⟨_, rfl⟩
  · rename_i nobody
    rw [nobody] at found
    cases found

end Meshquill
