import Meshquill.Cli.ContactUri
import Meshquill.Client.Received
import Meshquill.Protocol.Accepted
import Meshquill.Text

/-!
# Batches of contacts

`batch contacts` of `batch_cli.rs` lists the contacts once, keeps those that a filter selects, and
generates one command for each of them, with the contact's public key in hexadecimal as the
argument. Every such command connects again, lists the contacts again, and looks its argument up
like a name that a user has typed. Names come first there, and they are what other nodes advertise.

Here the command line parser, the answers of a terminal and the hooks are parameters. What the
commands do with a response is left out.
-/
namespace Meshquill.Cli

open Async

/-! ## Operations and filters -/

inductive BatchOperation where
  | remoteStatus
  | remoteOwner
  | remoteRegions
  | remoteClock
  | sensorTelemetry
  | pathDiscover
  | pathReset
deriving DecidableEq

namespace BatchOperation

def parse (value : String) : Except CliError BatchOperation :=
  match String.ofList (trim value.toList) with
  | "remote-status" => .ok .remoteStatus
  | "remote-owner" => .ok .remoteOwner
  | "remote-regions" => .ok .remoteRegions
  | "remote-clock" => .ok .remoteClock
  | "sensor-telemetry" => .ok .sensorTelemetry
  | "path-discover" => .ok .pathDiscover
  | "path-reset" => .ok .pathReset
  | _ => .error (.withHint ("Use remote-status, remote-owner, remote-regions, remote-clock, " ++
      "sensor-telemetry, path-discover, or path-reset.")
      { status := .usage, message := "unsupported batch contact operation" })

/-- The words of the command. -/
def words : BatchOperation → List String
  | .remoteStatus => ["remote", "status"]
  | .remoteOwner => ["remote", "owner"]
  | .remoteRegions => ["remote", "regions"]
  | .remoteClock => ["remote", "clock"]
  | .sensorTelemetry => ["sensor", "telemetry"]
  | .pathDiscover => ["contacts", "path", "discover"]
  | .pathReset => ["contacts", "path", "reset"]

def argv (publicKey : String) (operation : BatchOperation) : List String :=
  ["meshquill"] ++ operation.words ++ [publicKey]

end BatchOperation

inductive FilterKind where
  | client
  | repeater
  | room
  | sensor
deriving DecidableEq

inductive FilterClause where
  | kind (required : FilterKind)
  | nameContains (needle : String)
  | favorite (required : Bool)
deriving DecidableEq

inductive ContactFilter where
  | all
  | clauses (clauses : List FilterClause)
deriving DecidableEq

def filterKindMatches : ContactType → FilterKind → Bool
  | .chat, .client | .repeater, .repeater | .room, .room | .sensor, .sensor => true
  | _, _ => false

def filterUsageError : CliError :=
  .withHint ("Use 'all' or comma-separated type=client|repeater|room|sensor, name~TEXT, and " ++
    "favorite=true|false clauses.")
    { status := .usage, message := "invalid batch contact filter" }

/-- `str::strip_prefix`. -/
def stripped (lead : String) (value : List Char) : Option (List Char) :=
  if lead.toList.isPrefixOf value then some (value.drop lead.length) else none

def parseFilterClause (lowercase : String → String) (value : List Char) :
    Except CliError FilterClause :=
  match stripped "type=" value, stripped "name~" value, stripped "favorite=" value with
  | some kind, _, _ =>
    match String.ofList kind with
    | "client" => .ok (.kind .client)
    | "repeater" => .ok (.kind .repeater)
    | "room" => .ok (.kind .room)
    | "sensor" => .ok (.kind .sensor)
    | _ => .error filterUsageError
  | none, some name, _ =>
    if trim name ≠ [] ∧ '\x00' ∉ trim name then
      .ok (.nameContains (lowercase (String.ofList (trim name))))
    else .error filterUsageError
  | none, none, some favorite =>
    match String.ofList favorite with
    | "true" => .ok (.favorite true)
    | "false" => .ok (.favorite false)
    | _ => .error filterUsageError
  | none, none, none => .error filterUsageError

namespace ContactFilter

variable (lowercase : String → String)

/-- `ContactFilter::parse`; a split never has no parts. -/
def parse (value : String) : Except CliError ContactFilter :=
  let value := trim value.toList
  if String.ofList value = "all" then .ok .all
  else if value = [] then .error filterUsageError
  else do
    let clauses ← (value.splitOn ',').mapM fun part => parseFilterClause lowercase (trim part)
    return .clauses clauses

def matchesFields (kind : ContactType) (name : String)
    (favorite : Bool) : ContactFilter → Bool
  | .all => true
  | .clauses listed => listed.all fun
    | .kind required => filterKindMatches kind required
    | .nameContains needle => decide (needle.toList <:+: (lowercase name).toList)
    | .favorite required => favorite == required

/-- `ContactFilter::matches`. -/
def matchesContact (filter : ContactFilter) (contact : Contact) : Bool :=
  filter.matchesFields lowercase contact.contactType contact.advName (contact.flags &&& 1 != 0)

end ContactFilter

/-! ## Errors in context -/

/-- `char::escape_default` of a control character. -/
def escapeControl (character : Char) : List Char :=
  match character with
  | '\t' => "\\t".toList
  | '\r' => "\\r".toList
  | '\n' => "\\n".toList
  | other => "\\u\x7b".toList ++ Nat.toDigits 16 other.toNat ++ ['\x7d']

def terminalSafe (value : String) : String :=
  String.ofList (value.toList.flatMap fun character =>
    if isControl character then escapeControl character else [character])

def contextualError (context : String) (error : CliError) : CliError where
  status := error.status
  message := terminalSafe context ++ ": " ++ terminalSafe error.message
  hint := error.hint.map terminalSafe

/-! ## Generated commands -/

/-- The global options that the commands of a batch read. -/
structure Globals where
  yes : Bool
  nonInteractive : Bool
deriving DecidableEq

/-- The commands of `args.rs` that a batch generates. -/
inductive NestedCommand where
  | remoteStatus (contact : String)
  | remoteOwner (contact : String)
  | remoteRegions (contact : String)
  | remoteClock (contact : String) (sync : Bool)
  | sensorTelemetry (contact : String)
  | pathDiscover (contact : String)
  | pathReset (contact : String)
deriving DecidableEq

def NestedCommand.contact : NestedCommand → String
  | .remoteStatus contact | .remoteOwner contact | .remoteRegions contact
  | .remoteClock contact _ | .sensorTelemetry contact | .pathDiscover contact
  | .pathReset contact => contact

/-- The command for these words. -/
def BatchOperation.command (contact : String) : BatchOperation → NestedCommand
  | .remoteStatus => .remoteStatus contact
  | .remoteOwner => .remoteOwner contact
  | .remoteRegions => .remoteRegions contact
  | .remoteClock => .remoteClock contact false
  | .sensorTelemetry => .sensorTelemetry contact
  | .pathDiscover => .pathDiscover contact
  | .pathReset => .pathReset contact

/-- What surrounds a command. -/
structure Shell where
  /-- `str::to_lowercase`. -/
  lowercase : String → String
  /-- `Cli::try_parse_from`. -/
  tryParseFrom : List String → Option NestedCommand
  /-- A word of hexadecimal digits is no option. -/
  parses : ∀ operation word, word ≠ "" → word.toList.all isAsciiHexdigit = true →
    tryParseFrom (BatchOperation.argv word operation) = some (operation.command word)
  /-- What is read from the terminal, if there is one. -/
  terminal : Option (Except CliError String)
  /-- `WorkflowServices::contact_updated`. -/
  contactUpdated : Contact → Except CliError Unit
  now : Int

/-- The words of these commands without options. -/
def parsePlain : List String → Option NestedCommand
  | ["meshquill", "remote", "status", contact] => some (.remoteStatus contact)
  | ["meshquill", "remote", "owner", contact] => some (.remoteOwner contact)
  | ["meshquill", "remote", "regions", contact] => some (.remoteRegions contact)
  | ["meshquill", "remote", "clock", contact] => some (.remoteClock contact false)
  | ["meshquill", "sensor", "telemetry", contact] => some (.sensorTelemetry contact)
  | ["meshquill", "contacts", "path", "discover", contact] => some (.pathDiscover contact)
  | ["meshquill", "contacts", "path", "reset", contact] => some (.pathReset contact)
  | _ => none

/-- A shell without a terminal and without hooks. -/
def plainShell : Shell where
  lowercase := String.toLower
  tryParseFrom := parsePlain
  parses operation word _ _ := by cases operation <;> rfl
  terminal := none
  contactUpdated _ := .ok ()
  now := 0

structure NestedCli where
  globals : Globals
  command : NestedCommand

def inheritGlobals (parent : Globals) (command : NestedCommand) : NestedCli where
  globals := { yes := parent.yes, nonInteractive := true }
  command

def generatedCli (shell : Shell) (parent : Globals) (operation : BatchOperation)
    (publicKey : String) : Except CliError NestedCli :=
  match shell.tryParseFrom (operation.argv publicKey) with
  | none => .error { status := .protocol
                     message := "the fixed batch contact command could not be parsed" }
  | some command =>
    let cli := inheritGlobals parent command
    .ok (if operation = .pathReset then { cli with globals := { cli.globals with yes := true } }
      else cli)

def confirm (shell : Shell) (globals : Globals) (operation : String) : Except CliError Unit :=
  if globals.yes then .ok ()
  else
    match if globals.nonInteractive then none else shell.terminal with
    | none => .error (.withHint "Review the operation and rerun it with --yes."
        { status := .denied, message := "confirmation is required to " ++ operation })
    | some (.error error) => .error error
    | some (.ok answer) =>
      if String.ofList ((trim answer.toList).map Char.toLower) ∈ ["y", "yes"] then .ok ()
      else .error { status := .denied, message := "operation was not confirmed" }

/-! ## What the commands do -/

/-- What a command gets from the device. -/
inductive Answer where
  | status (status : RemoteStatus)
  | response (response : BinaryResponse)
  | clock (response : BinaryResponse) (synchronized : Option CommandTracking)
  | discovery (discovery : PathDiscovery)
  | reset

abbrev SessionM (τ ε α : Type) : Type := Async CliError (World τ ε) α

section Commands

variable {τ ε : Type} [Transport τ ε] (shell : Shell)

/-- A call of the client. -/
def call {α : Type} (body : ClientM τ ε α) : SessionM τ ε α := mapError .ofCore body

def loadContact (query : String) : SessionM τ ε Contact := do
  let contacts ← call (Client.listContacts none)
  ofExcept (resolveContact shell.lowercase contacts query)

def requireSession (contact : Contact) : SessionM τ ε Unit := do
  if ← call (Client.hasConnection contact.publicKey.val) then pure ()
  else fail (.withHint "Run `meshquill remote login CONTACT` first."
    { status := .authentication
      message := "no authenticated remote session exists for '" ++ contact.advName ++ "'" })

/-- `AnonymousRequestKind`. -/
inductive AnonymousRequestKind where
  | regions
  | owner
  | basic

def AnonymousRequestKind.code : AnonymousRequestKind → UInt8
  | .regions => 1
  | .owner => 2
  | .basic => 3

/-- `BinaryRequestKind::Telemetry`. -/
def telemetryRequest : UInt8 := 3

def anonymous (contact : Contact) (kind : AnonymousRequestKind) : SessionM τ ε BinaryResponse :=
  call (Client.anonymousRequest contact.publicKey.val kind.code (.path 0 0) ⟨[], Nat.zero_le _⟩)

/-- What a command does with the contact it has found. -/
def NestedCommand.act (globals : Globals) (contact : Contact) :
    NestedCommand → SessionM τ ε Answer
  | .remoteStatus _ => do
    requireSession contact
    return .status (← call (Client.remoteStatus contact.publicKey.val))
  | .remoteOwner _ => return .response (← anonymous contact .owner)
  | .remoteRegions _ => return .response (← anonymous contact .regions)
  | .remoteClock _ sync => do
    let response ← anonymous contact .basic
    if sync then
      requireSession contact
      return .clock response (some (← call (Client.sendDirectCommand shell.now
        (contact.publicKey.val.take 6) 0 "clock sync")))
    else return .clock response none
  | .sensorTelemetry _ => do
    requireSession contact
    return .response (← call (Client.binaryRequest contact.publicKey.val telemetryRequest []))
  | .pathDiscover _ => return .discovery (← call (Client.discoverPath contact.publicKey.val))
  | .pathReset _ => do
    ofExcept (confirm shell globals ("reset path for contact " ++ contact.advName))
    call (Client.resetPath contact.publicKey.val)
    ofExcept (shell.contactUpdated contact)
    return .reset

/-- A command after it has connected: `operation` in the functions of `remote_cli.rs`, and
`contacts` of `runtime.rs`. -/
def NestedCli.run (cli : NestedCli) : SessionM τ ε Answer := do
  let contact ← loadContact shell cli.command.contact
  cli.command.act shell cli.globals contact

/-! ## The batch -/

/-- A device that commands connect to, one after the other, and that lists no key twice. -/
structure Companion (σ τ ε : Type) [Transport τ ε] where
  /-- `list_contacts_once`. -/
  listContactsOnce : Async CliError σ (List Contact)
  /-- `open`: what a command starts with. -/
  connect : Async CliError σ (World τ ε)
  /-- `finish`, and the output of the result. -/
  finish : Exit CliError Answer × World τ ε → Async CliError σ Answer
  distinct : ∀ state world after, connect state = (.done world, after) →
    ∀ contacts reached, Client.listContacts none world = (.done contacts, reached) →
      (contacts.map Contact.publicKey).Nodup

structure BatchContactsArgs where
  filter : String
  operation : String
  dryRun : Bool

def contactTypeName : ContactType → String
  | .chat => "client"
  | .repeater => "repeater"
  | .room => "room"
  | .sensor => "sensor"
  | .unknown _ => "unknown"

structure BatchContactEntry where
  name : String
  publicKey : String
  kind : String
  result : Option Answer

variable {σ : Type} (companion : Companion σ τ ε)

/-- `dispatch_json`. -/
def Companion.dispatch (command : SessionM τ ε Answer) : Async CliError σ Answer := do
  let world ← companion.connect
  companion.finish (command world)

/-- The loop over the contacts. Only what is dispatched reports its errors in context. -/
def batchTargets (dryRun : Bool)
    (prepare : Contact → Except CliError (Async CliError σ Answer)) :
    List Contact → Async CliError σ (List BatchContactEntry)
  | [] => pure []
  | contact :: later => do
    let result ←
      if dryRun then pure none
      else do
        let dispatched ← ofExcept (prepare contact)
        some <$> mapError (contextualError
          ("batch target '" ++ terminalSafe contact.advName ++ "'")) dispatched
    let entry : BatchContactEntry :=
      { name := contact.advName, publicKey := hexEncode contact.publicKey.val
        kind := contactTypeName contact.contactType, result }
    return entry :: (← batchTargets dryRun prepare later)

/-- `contacts`, up to the report, with what is done for a contact as a parameter. -/
def batchWith (globals : Globals) (args : BatchContactsArgs)
    (prepare : BatchOperation → Contact → Except CliError (Async CliError σ Answer)) :
    Async CliError σ (List BatchContactEntry) := do
  let filter ← ofExcept (ContactFilter.parse shell.lowercase args.filter)
  let operation ← ofExcept (BatchOperation.parse args.operation)
  let listed ← companion.listContactsOnce
  let contacts := listed.filter (filter.matchesContact shell.lowercase)
  ofExcept (if !args.dryRun && operation = .pathReset && !contacts.isEmpty then
    confirm shell globals "reset the paths for all filtered batch contacts" else .ok ())
  batchTargets args.dryRun (prepare operation) contacts

/-- One command for each contact. -/
def batchContacts (globals : Globals) (args : BatchContactsArgs) :
    Async CliError σ (List BatchContactEntry) :=
  batchWith shell companion globals args fun operation contact => do
    let nested ← generatedCli shell globals operation (hexEncode contact.publicKey.val)
    return companion.dispatch (nested.run shell)

/-! ## What a batch is for -/

/-- The error of a key that is not listed. -/
def keyNotFound (lowercase : String → String) (contacts : List Contact) (query : String) :
    CliError :=
  let error : CliError :=
    { status := .notFound, message := "contact key prefix '" ++ query ++ "' was not found" }
  match contactNameSuggestion lowercase contacts query with
  | some suggestion => error.withHint ("Did you mean the contact '" ++ suggestion ++
      "'? No contact was selected.")
  | none => error.withHint "Use an exact case-sensitive name or a unique hexadecimal key prefix."

/-- The contact with a key. -/
def contactByKey (lowercase : String → String) (contacts : List Contact) (key : PublicKey) :
    Except CliError Contact :=
  match contacts.find? (·.publicKey = key) with
  | some contact => .ok contact
  | none => .error (keyNotFound lowercase contacts (hexEncode key.val))

/-- List the contacts, and act on the one with this key. -/
def actOn (globals : Globals) (operation : BatchOperation) (key : PublicKey) :
    SessionM τ ε Answer := do
  let contacts ← call (Client.listContacts none)
  let contact ← ofExcept (contactByKey shell.lowercase contacts key)
  (operation.command (hexEncode key.val)).act shell
    { yes := globals.yes || operation = .pathReset, nonInteractive := true } contact

/-- Act on every contact that the filter selects, whatever the names are. -/
def batchActs (globals : Globals) (args : BatchContactsArgs) :
    Async CliError σ (List BatchContactEntry) :=
  batchWith shell companion globals args fun operation contact =>
    .ok (companion.dispatch (actOn shell globals operation contact.publicKey))

end Commands

/-! ## Keys as queries -/

theorem hexEncode_injective : Function.Injective hexEncode := by
  intro first second same
  have digits : first.flatMap hexDigits = second.flatMap hexDigits := by
    rw [← toList_hexEncode, ← toList_hexEncode, same]
  have decoded := hexDecode_hexDigits first
  rw [digits, hexDecode_hexDigits] at decoded
  exact (Option.some.inj decoded).symm

theorem isAsciiHexdigit_hexEncode (bytes : Bytes) :
    (hexEncode bytes).toList.all isAsciiHexdigit = true := by
  rw [toList_hexEncode]
  exact List.all_eq_true.mpr (hexDigits_forall (by decide) bytes)

theorem hexEncode_key_ne_empty (key : PublicKey) : hexEncode key.val ≠ "" := by
  intro empty
  have sized := utf8ByteSize_hexEncode key.val
  rw [empty, key.property] at sized
  cases sized

/-- All digits of a key are the digits of one key only. -/
theorem hasKeyPrefix_hexEncode (key : PublicKey) (contact : Contact) :
    contact.hasKeyPrefix (hexEncode key.val) = decide (contact.publicKey = key) := by
  rw [Contact.hasKeyPrefix, Bool.eq_iff_iff, List.isPrefixOf_iff_prefix, decide_eq_true_iff]
  constructor
  · intro begins
    have same := begins.eq_of_length (by
      rw [toList_hexEncode, toList_hexEncode, length_hexDigits, length_hexDigits, key.property,
        contact.publicKey.property])
    exact (Subtype.ext (hexEncode_injective (String.toList_inj.mp same))).symm
  · rintro rfl
    exact List.prefix_rfl

variable {contact : Contact} {contacts : List Contact}

/-- No advertised name is as long as a key. -/
theorem advName_ne_key (accepted : contact.Accepted) (key : PublicKey) :
    contact.advName ≠ hexEncode key.val := by
  intro same
  have short := accepted.short
  rw [same, utf8ByteSize_hexEncode, key.property] at short
  omega

/-- Contacts that a device has sent. -/
def Sent (contacts : List Contact) : Prop :=
  ∀ contact ∈ contacts, ∃ raw, Packet.parse raw = .ok (.contact contact)

theorem Sent.unnamed (sent : Sent contacts) (key : PublicKey) :
    contacts.filter (·.advName = hexEncode key.val) = [] := by
  refine List.filter_eq_nil_iff.mpr fun contact listed named => ?_
  obtain ⟨raw, parsed⟩ := sent contact listed
  exact advName_ne_key (Packet.accepted_contact parsed) key (of_decide_eq_true named)

theorem filter_hasKeyPrefix (contacts : List Contact) (key : PublicKey) :
    contacts.filter (Contact.hasKeyPrefix (hexEncode key.val).toLower) =
      contacts.filter (·.publicKey = key) := by
  rw [toLower_hexEncode]
  exact List.filter_congr fun contact _ => hasKeyPrefix_hexEncode key contact

theorem filter_key (distinct : (contacts.map Contact.publicKey).Nodup)
    (listed : contact ∈ contacts) :
    contacts.filter (·.publicKey = contact.publicKey) = [contact] := by
  induction contacts with
  | nil => cases listed
  | cons first later ih =>
    obtain ⟨fresh, distinct⟩ := List.nodup_cons.mp distinct
    rcases List.mem_cons.mp listed with rfl | listed
    · have others : later.filter (·.publicKey = contact.publicKey) = [] := by
        refine List.filter_eq_nil_iff.mpr fun other inside same => fresh ?_
        exact List.mem_map.mpr ⟨other, inside, of_decide_eq_true same⟩
      rw [List.filter_cons_of_pos (by simp), others]
    · have different : first.publicKey ≠ contact.publicKey :=
        fun same => fresh (List.mem_map.mpr ⟨contact, listed, same.symm⟩)
      rw [List.filter_cons_of_neg (by simpa using different)]
      exact ih distinct listed

/-- The digits of a key find the contact with that key, and no other one. -/
theorem resolveContact_key (sent : Sent contacts)
    (distinct : (contacts.map Contact.publicKey).Nodup) (lowercase : String → String)
    (key : PublicKey) :
    resolveContact lowercase contacts (hexEncode key.val) = contactByKey lowercase contacts key := by
  unfold contactByKey
  split
  · rename_i contact found
    obtain rfl : contact.publicKey = key := by simpa using List.find?_some found
    refine resolveContact_eq_ok.mpr (.inr ⟨sent.unnamed _, hexEncode_key_ne_empty _,
      isAsciiHexdigit_hexEncode _, ?_⟩)
    rw [filter_hasKeyPrefix]
    exact filter_key distinct (List.mem_of_find?_eq_some found)
  · rename_i missing
    have nobody : contacts.filter (·.publicKey = key) = [] :=
      List.filter_eq_nil_iff.mpr (List.find?_eq_none.mp missing)
    have filled : (hexEncode key.val).isEmpty = false := by
      simpa using hexEncode_key_ne_empty key
    simp only [resolveContact, sent.unnamed, filled, isAsciiHexdigit_hexEncode, filter_hasKeyPrefix,
      nobody]
    rfl

section Commands

variable {τ ε : Type} [Transport τ ε] (shell : Shell)

/-- What a client lists was sent. -/
theorem sent_of_listContacts {lastmod : Option UInt32} {world reached : World τ ε}
    {contacts : List Contact}
    (lists : Client.listContacts lastmod world = (.done contacts, reached)) : Sent contacts := by
  rw [Client.listContacts, Async.bind_apply, Client.collectContacts_eq, Async.bind_apply] at lists
  rcases sends : Client.sendOnly (Command.getContacts lastmod) world with ⟨_ | error | _, sent⟩
  · simp only [sends] at lists
    obtain ⟨packets, last, middle, listened, ends⟩ :=
      Client.awaitResponse_listens Client.contactsJudge
        Client.spends_readNextPacketWithTimeout [] sent
    have collected : contacts = packets.filterMap Packet.contact? := by
      obtain rfl := listened.contacts
      have ends := ends.listing
      rcases ran : Client.awaitResponse Client.readNextPacketWithTimeout Client.contactsJudge [] sent
        with ⟨exit, final⟩
      rw [ran] at ends
      simp only [ran] at lists
      cases ends with
      | ended | exhausted => cases lists; rfl
      | refused reads => cases lists
      | @unread halt _ reads => cases halt <;> cases lists
    intro contact listed
    rw [collected] at listed
    obtain ⟨packet, inside, carries⟩ := List.mem_filterMap.mp listed
    cases packet <;> cases carries
    exact listened.accepted Client.reading_readNextPacketWithTimeout inside
  · simp only [sends] at lists
    cases lists
  · simp only [sends] at lists
    cases lists

theorem generatedCli_key (globals : Globals) (operation : BatchOperation) (key : PublicKey) :
    generatedCli shell globals operation (hexEncode key.val) =
      .ok { globals := { yes := globals.yes || operation = .pathReset, nonInteractive := true }
            command := operation.command (hexEncode key.val) } := by
  have parsed := shell.parses operation (hexEncode key.val) (hexEncode_key_ne_empty key)
    (isAsciiHexdigit_hexEncode key.val)
  rw [generatedCli, parsed]
  by_cases reset : operation = .pathReset
  · simp [reset, inheritGlobals]
  · simp [reset, inheritGlobals]

example : generatedCli plainShell { yes := false, nonInteractive := false } .pathReset "0a" =
    .ok { globals := { yes := true, nonInteractive := true }, command := .pathReset "0a" } := rfl

theorem contact_command (operation : BatchOperation) (contact : String) :
    (operation.command contact).contact = contact := by
  cases operation <;> rfl

/-- A generated command acts on the contact with the key. -/
theorem run_generated (globals : Globals) (operation : BatchOperation) (key : PublicKey)
    {world : World τ ε}
    (distinct : ∀ contacts reached, Client.listContacts none world = (.done contacts, reached) →
      (contacts.map Contact.publicKey).Nodup) :
    NestedCli.run shell
        { globals := { yes := globals.yes || operation = .pathReset, nonInteractive := true }
          command := operation.command (hexEncode key.val) } world =
      actOn shell globals operation key world := by
  simp only [NestedCli.run, loadContact, actOn, contact_command, Async.bind_apply, call]
  rcases lists : Client.listContacts none world with ⟨contacts | error | _, reached⟩
  · have resolved := resolveContact_key (sent_of_listContacts lists) (distinct contacts reached lists)
      shell.lowercase key
    simp only [Async.mapError, lists, resolved]
  · simp only [Async.mapError, lists]
  · simp only [Async.mapError, lists]

variable {σ : Type} (companion : Companion σ τ ε)

theorem dispatch_generated (globals : Globals) (operation : BatchOperation) (key : PublicKey) :
    companion.dispatch (NestedCli.run shell
        { globals := { yes := globals.yes || operation = .pathReset, nonInteractive := true }
          command := operation.command (hexEncode key.val) }) =
      companion.dispatch (actOn shell globals operation key) := by
  funext state
  simp only [Companion.dispatch, Async.bind_apply]
  rcases connects : companion.connect state with ⟨world | error | _, after⟩
  · simp only [run_generated shell globals operation key
      (companion.distinct state world after connects)]
  · rfl
  · rfl

/-- However contacts are named, the commands of a batch act on the contacts that they were
generated for: the digits of a key find its contact. A query finds nothing but the one contact
with that name or, if no contact has it, the one whose key begins so. -/
theorem batchContacts_acts :
    (∀ contacts, Sent contacts → (contacts.map Contact.publicKey).Nodup →
      ∀ contact ∈ contacts, resolveContact shell.lowercase contacts
        (hexEncode contact.publicKey.val) = .ok contact) ∧
    (∀ globals args,
      batchContacts shell companion globals args = batchActs shell companion globals args) ∧
    ∀ contacts query contact, resolveContact shell.lowercase contacts query = .ok contact →
      contacts.filter (·.advName = query) = [contact] ∨
        contacts.filter (·.advName = query) = [] ∧
          contacts.filter (Contact.hasKeyPrefix query.toLower) = [contact] := by
  refine ⟨?_, ?_, ?_⟩
  · intro contacts sent distinct contact listed
    refine resolveContact_eq_ok.mpr (.inr ⟨sent.unnamed _, hexEncode_key_ne_empty _,
      isAsciiHexdigit_hexEncode _, ?_⟩)
    rw [filter_hasKeyPrefix]
    exact filter_key distinct listed
  · intro globals args
    unfold batchContacts batchActs
    congr 1
    funext operation contact
    rw [generatedCli_key]
    exact congrArg Except.ok
      (dispatch_generated shell companion globals operation contact.publicKey)
  · intro contacts query contact resolved
    rcases resolveContact_eq_ok.mp resolved with named | ⟨nobody, -, -, matched⟩
    · exact .inl named
    · exact .inr ⟨nobody, matched⟩

end Commands

/-- A contact with one digit throughout its key and another one throughout its name. -/
def alikeRaw (digit named : UInt8) : Bytes :=
  0x03 :: (List.replicate 32 (0x11 * digit) ++ [1, 0, 0xff] ++ List.replicate 64 0 ++
    List.replicate 32 (0x30 + named) ++ List.replicate 16 0)

/-- A session with a device that lists two contacts, each named with the digits of the other
one's key, and then confirms a command. -/
def alikeWorld : World ScriptedTransport Unit where
  trace := { client := { connected := true } }
  transport := .withInboundFrames
    [[0x02, 2, 0, 0, 0], alikeRaw 1 2, alikeRaw 2 1, [0x04, 0, 0, 0, 0], [0x00]]
  turns := List.replicate 8 { io := () }

/-- What the device lists. -/
def alikeContacts : List Contact :=
  match (Client.listContacts none alikeWorld).1 with
  | .done contacts => contacts
  | _ => []

theorem nodup_alikeContacts : (alikeContacts.map Contact.publicKey).Nodup := by decide +kernel

theorem lists_alikeContacts :
    ∃ reached, Client.listContacts none alikeWorld = (.done alikeContacts, reached) := by
  have names : alikeContacts.map Contact.advName ≠ [] := by decide +kernel
  unfold alikeContacts at names ⊢
  generalize Client.listContacts none alikeWorld = ended at names ⊢
  rcases ended with ⟨contacts | error | _, reached⟩
  · exact ⟨reached, rfl⟩
  · exact absurd rfl names
  · exact absurd rfl names

/-- The device with that session for each command. Its state is what was written to it. -/
def alikeCompanion : Companion (List Bytes) ScriptedTransport Unit where
  listContactsOnce written := (.done alikeContacts, written)
  connect written := (.done alikeWorld, written)
  finish ended written := (ended.1, written ++ ended.2.transport.outgoing)
  distinct := by
    rintro _ _ _ ⟨⟩ contacts reached lists
    obtain ⟨_, same⟩ := lists_alikeContacts
    obtain ⟨listed, -⟩ := Prod.mk.inj (same.symm.trans lists)
    exact Exit.done.inj listed ▸ nodup_alikeContacts

/-- Each contact is found by its key, and the batch resets the path of each of them. -/
theorem alike_contacts_batched :
    let globals : Globals := { yes := true, nonInteractive := true }
    let args : BatchContactsArgs := { filter := "all", operation := "path-reset", dryRun := false }
    alikeContacts.map Contact.advName =
        [hexEncode (List.replicate 16 0x22), hexEncode (List.replicate 16 0x11)] ∧
      (∀ contact ∈ alikeContacts, resolveContact plainShell.lowercase alikeContacts
        (hexEncode contact.publicKey.val) = .ok contact) ∧
      batchContacts plainShell alikeCompanion globals args =
        batchActs plainShell alikeCompanion globals args ∧
      (batchContacts plainShell alikeCompanion globals args []).2 =
        [[4], 13 :: List.replicate 32 0x11, [4], 13 :: List.replicate 32 0x22] := by
  obtain ⟨reached, lists⟩ := lists_alikeContacts
  obtain ⟨resolves, acts, -⟩ := batchContacts_acts plainShell alikeCompanion
  exact ⟨by decide +kernel, resolves _ (sent_of_listContacts lists) nodup_alikeContacts,
    acts _ _, by decide +kernel⟩

end Meshquill.Cli
