import Meshquill.Client.Requests
import Meshquill.Protocol.Response

/-!
# Conversations

Most public operations are built from the same few parts: they check their arguments, write a
command, and read until its response ends. `Converses` says so of a computation, and
`converses_perform` shows it once for all of these operations. What holds of the parts then
holds of the operations by induction on it.

Each loop has to stop where the response does. `Follows` says that it takes every packet for
what it is in the response to its command.
-/
namespace Meshquill

/-- What a loop takes a packet for. -/
def PacketWait.role {β α : Type} : PacketWait β α → Role
  | .ready _ | .fail _ => .last
  | .keep _ => .part
  | .proceed => .other

namespace Client

open Async

variable {τ ε α β : Type}

/-- The loop stops exactly where the response to this command ends. -/
def Follows (code : CommandCode) (judge : β → Packet → PacketWait β α) : Prop :=
  ∀ carried packet, (judge carried packet).role = code.role packet

/-- An extractor of a remote wait that takes nothing but the end of the response. -/
def EndsWith (code : CommandCode) (extract : Packet → PacketWait Unit α) : Prop :=
  ∀ packet, extract packet = .proceed ∨ code.role packet = .last

/-! ## Commands with checked arguments -/

section Built

variable {code : CommandCode}

/-- A builder that, when it accepts its arguments, builds a command with this code. -/
def Builds (code : CommandCode) (result : Except CoreError Command) : Prop :=
  ∀ command, result = .ok command → command.code = code

theorem builds_ok {command : Command} : Builds command.code (.ok command) := by
  rintro _ ⟨⟩
  rfl

theorem builds_refused (field message : String) : Builds code (invalidArgument field message) := by
  rintro _ ⟨⟩

theorem builds_bind {first : Except CoreError β} {next : β → Except CoreError Command}
    (builds : ∀ value, Builds code (next value)) : Builds code (first >>= next) := by
  intro command built
  cases first with
  | error error => cases built
  | ok value => exact builds value command built

theorem builds_ite {condition : Prop} [Decidable condition]
    {first second : Except CoreError Command} (yes : Builds code first)
    (no : Builds code second) : Builds code (if condition then first else second) := by
  split
  · exact yes
  · exact no

theorem builds_checked (code : CommandCode) (payload : Bytes) :
    Builds code (Command.checked code payload) :=
  builds_ite (builds_refused _ _) builds_ok

theorem builds_withKey (code : CommandCode) (publicKey lead : Bytes) :
    Builds code (Command.withKey code publicKey lead) :=
  builds_bind fun _ => builds_checked code _

theorem builds_withKeySuffix (code : CommandCode) (publicKey suffix : Bytes) :
    Builds code (Command.withKeySuffix code publicKey suffix) :=
  builds_bind fun _ => builds_checked code _

/-- Arguments that are checked at once. -/
theorem builds_guarded {condition : Prop} [Decidable condition] (code : CommandCode)
    (field message : String) (payload : Bytes) :
    Builds code (if condition then invalidArgument field message else
      Command.checked code payload) :=
  builds_ite (builds_refused _ _) (builds_checked _ _)

/-- Two arguments that are checked one after the other. -/
theorem builds_two {δ : Type} {first : Except CoreError β} {second : β → Except CoreError δ}
    (code : CommandCode) (payload : β → δ → Bytes) :
    Builds code (do
      let left ← first
      let right ← second left
      Command.checked code (payload left right)) :=
  builds_bind fun _ => builds_bind fun _ => builds_checked _ _

theorem builds_updateContact (contact : Contact) :
    Builds .addUpdateContact (Command.updateContact contact) :=
  builds_bind fun _ => builds_bind fun _ => builds_bind fun _ => builds_two _ _

theorem builds_exportContact (publicKey : Option Bytes) :
    Builds .exportContact (Command.exportContact publicKey) := by
  cases publicKey with
  | none => exact builds_ok
  | some key => exact builds_withKey _ key []

theorem builds_sendAnonymousRequest (publicKey : Bytes) (requestType : UInt8)
    (replyRoute : ContactRoute) (replyPath : Path) :
    Builds .sendAnonReq (Command.sendAnonymousRequest publicKey requestType replyRoute replyPath) :=
  builds_ite (builds_refused _ _) (builds_ite (builds_refused _ _)
    (builds_bind fun _ => builds_withKeySuffix _ _ _))

end Built

variable [Transport τ ε]

/-- Computations built from exchanges of a command and its response. -/
inductive Converses : ∀ {α : Type}, ClientM τ ε α → Prop
  | pure {α : Type} (value : α) : Converses (pure value)
  | fail {α : Type} (error : CoreError) : Converses (fail error : ClientM τ ε α)
  | bind {α β : Type} {first : ClientM τ ε α} {next : α → ClientM τ ε β}
      (head : Converses first) (tail : ∀ value, Converses (next value)) :
      Converses (first >>= next)
  | ensureConnected : Converses ensureConnected
  /-- A command, then its response. -/
  | exchange {α β : Type} {command : Command} (ordinary : command.code.toU8 ≠ 0x0a)
      {judge : β → Packet → PacketWait β α} (follows : Follows command.code judge) (carried : β) :
      Converses (sendOnly command >>= fun _ =>
        awaitResponse readNextPacketWithTimeout judge carried)
  /-- A direct message, which is sent over the radio. -/
  | sent {command : Command} (direct : command.code = .sendTxtMsg) (trackAck : Bool) :
      Converses (sendCommandExpectMsgSentInner command trackAck)
  /-- A request to a remote node, and its result. -/
  | remote {α : Type} {command : Command} (remote : command.code.isRemote = true)
      (operation : String) {extract : CommandTracking → Packet → PacketWait Unit α}
      (extracts : ∀ tracking, EndsWith command.code (extract tracking)) :
      Converses (do
        let tracking ← sendCommandExpectMsgSentUntracked command
        waitForPacket (← remoteResponseTimeout tracking.timeoutMs) operation (extract tracking))
  /-- A command after which the device is gone. -/
  | farewell {command : Command} (silent : command.code.isSilent = true) :
      Converses (sendDisconnectCommand command)

section Parts

variable {code : CommandCode} {command : Command}

theorem converses_ofExcept (result : Except CoreError α) :
    Converses (ofExcept result : ClientM τ ε α) := by
  cases result with
  | ok value => exact .pure value
  | error error => exact .fail error

theorem converses_discard {body : ClientM τ ε α} (converses : Converses body) :
    Converses (discard body : ClientM τ ε Unit) := by
  have same : (discard body : ClientM τ ε Unit) = body >>= fun _ => pure () := rfl
  rw [same]
  exact .bind converses fun _ => .pure ()

variable {result : Except CoreError Command}

/-- An operation that first builds its command. -/
theorem converses_built {next : Command → ClientM τ ε α} (builds : Builds code result)
    (use : ∀ command, command.code = code → Converses (next command)) :
    Converses (ofExcept result >>= next) := by
  cases built : result with
  | error error => exact (Converses.fail error : Converses (fail error : ClientM τ ε α))
  | ok command => exact use command (builds command built)

theorem converses_exchange (code : CommandCode) (same : command.code = code)
    (ordinary : code.toU8 ≠ 0x0a)
    {judge : β → Packet → PacketWait β α} (follows : Follows code judge) (carried : β) :
    Converses (sendOnly command >>= fun _ =>
      awaitResponse readNextPacketWithTimeout judge carried : ClientM τ ε α) := by
  subst same
  exact .exchange ordinary follows carried

theorem converses_expect (code : CommandCode) (same : command.code = code)
    (ordinary : code.toU8 ≠ 0x0a) (context : String) {extract : Packet → Option α}
    (follows : Follows code (expectJudge context extract)) :
    Converses (sendCommandExpect command context extract : ClientM τ ε α) :=
  converses_exchange code same ordinary follows ()

/-- Every confirmed command is answered with what the loop for `OK` takes for it. -/
theorem follows_okJudge (confirmed : code.isConfirmed = true) : Follows code okJudge := by
  intro _ packet
  cases code <;> first
    | exact absurd confirmed Bool.false_ne_true
    | cases packet <;> rfl

theorem follows_msgSentJudge : Follows .sendTxtMsg msgSentJudge := by
  intro _ packet
  cases packet <;> rfl

theorem follows_initJudge : Follows .appStart initJudge := by
  intro _ packet
  cases packet <;> rfl

theorem ordinary_of_kind
    (kind : code.isConfirmed = true ∨ code.isRemote = true ∨ code.isSilent = true) :
    code.toU8 ≠ 0x0a := by
  rcases kind with kind | kind | kind
  all_goals
    cases code <;> first
      | exact absurd kind Bool.false_ne_true
      | decide

theorem converses_ok (code : CommandCode) (same : command.code = code)
    (confirmed : code.isConfirmed = true) :
    Converses (sendCommandExpectOk command : ClientM τ ε Unit) :=
  converses_exchange code same (ordinary_of_kind (.inl confirmed)) (follows_okJudge confirmed) ()

/-- A confirmed command with checked arguments. -/
theorem converses_checked (builds : Builds code result) (confirmed : code.isConfirmed = true) :
    Converses (discard (ofExcept result >>= sendCommandExpectOk) : ClientM τ ε Unit) :=
  converses_discard (converses_built builds fun _ same => converses_ok code same confirmed)

theorem converses_remote (code : CommandCode) (same : command.code = code)
    (remote : code.isRemote = true) (operation : String)
    {extract : CommandTracking → Packet → PacketWait Unit α}
    (extracts : ∀ tracking, EndsWith code (extract tracking)) :
    Converses (do
      let tracking ← sendCommandExpectMsgSentUntracked command
      waitForPacket (← remoteResponseTimeout tracking.timeoutMs) operation
        (extract tracking) : ClientM τ ε α) := by
  subst same
  exact .remote remote operation extracts

end Parts

/-! ## The operations -/

theorem converses_collectContacts (lastmod : Option UInt32) :
    Converses (collectContacts lastmod : ClientM τ ε _) := by
  refine .bind .ensureConnected fun _ =>
    converses_exchange .getContacts rfl (by decide) (fun _ packet => ?_) []
  cases packet <;> rfl

theorem converses_queryDeviceInfo : Converses (queryDeviceInfo : ClientM τ ε _) := by
  refine .bind .ensureConnected fun _ =>
    converses_exchange .deviceQuery rfl (by decide) (fun _ packet => ?_) ()
  cases packet <;> rfl

/-- `has_connection` checks the connection before it builds its command, so the check of
`send_only` would find nothing new. -/
theorem hasConnection_eq (publicKey : Bytes) :
    (hasConnection publicKey : ClientM τ ε Bool) = (do
      ensureConnected
      let command ← ofExcept (Command.hasConnection publicKey)
      sendOnly command
      awaitResponse readNextPacketWithTimeout hasConnectionJudge ()) := by
  funext world
  by_cases connected : world.client.connected = true
  · cases built : Command.hasConnection publicKey <;>
      simp [hasConnection, sendOnly, ensureConnected, connected, built]
  · simp [hasConnection, ensureConnected, connected]

theorem converses_hasConnection (publicKey : Bytes) :
    Converses (hasConnection publicKey : ClientM τ ε Bool) := by
  rw [hasConnection_eq]
  refine .bind .ensureConnected fun _ =>
    converses_built (builds_withKey .hasConnection publicKey []) fun command same =>
      converses_exchange .hasConnection same (by decide) (fun _ packet => ?_) ()
  cases packet with
  | error code =>
    unfold hasConnectionJudge
    split
    · rfl
    · rfl
    · rfl
    · rename_i other
      exact (other code rfl).elim
  | _ => rfl

theorem converses_signChunks (parts : List Bytes) :
    Converses (signChunks parts : ClientM τ ε Unit) := by
  induction parts with
  | nil => exact .pure ()
  | cons chunk rest ih =>
    exact converses_built (builds_guarded .signData _ _ _) fun _ same =>
      .bind (converses_ok .signData same rfl) fun _ => ih

theorem converses_sign (data : Bytes) : Converses (sign data : ClientM τ ε Signature) := by
  refine .bind (converses_expect .signStart rfl (by decide) _ fun _ packet => ?_)
    fun maxDataBytes => ?_
  · cases packet <;> rfl
  · split
    · exact .fail _
    · refine .bind (converses_signChunks _) fun _ =>
        converses_expect .signFinish rfl (by decide) _ fun _ packet => ?_
      cases packet <;> rfl

end Client

/-- Calls that are built from exchanges. The others open, close and follow the session. -/
def Request.isConversation : Request → Bool
  | .connect | .init | .disconnect | .reconnect | .nextEvent | .syncNextMessage
  | .waitForAck _ _ => false
  | _ => true

namespace Client

variable {τ ε : Type} [Transport τ ε]

/-- A query whose loop stops where its response ends. -/
theorem converses_query (code : CommandCode) {command : Command} (same : command.code = code)
    (ordinary : code.toU8 ≠ 0x0a) {context : String} {α : Type} {extract : Packet → Option α}
    (follows : ∀ packet, (expectJudge context extract () packet).role = code.role packet) :
    Converses (discard (sendCommandExpect command context extract) : ClientM τ ε Unit) :=
  converses_discard (converses_expect code same ordinary context fun _ => follows)

theorem converses_perform (request : Request) (conversation : request.isConversation = true) :
    Converses (request.perform : ClientM τ ε Unit) := by
  cases request with
  | connect | init | disconnect | reconnect | nextEvent | syncNextMessage | waitForAck =>
    exact absurd conversation Bool.false_ne_true
  | listContacts lastmod =>
    exact converses_discard (.bind (converses_collectContacts lastmod) fun _ => .pure _)
  | listContactsSnapshot lastmod =>
    refine converses_discard (.bind (converses_collectContacts lastmod) fun collection => ?_)
    cases collection.lastmod with
    | none => exact .fail _
    | some marker => exact .pure _
  | queryDeviceInfo => exact converses_discard converses_queryDeviceInfo
  | getPathHashMode =>
    refine converses_discard (.bind converses_queryDeviceInfo fun info => ?_)
    cases info.pathHashMode with
    | none => exact .fail _
    | some mode => exact .pure _
  | hasConnection publicKey => exact converses_discard (converses_hasConnection publicKey)
  | sign data => exact converses_discard (converses_sign data)
  | getTime | getBattery | getTuning | getAutoAddConfig | getCustomVars
  | getAllowedRepeatFrequencies | getDefaultFloodScope | getSelfTelemetry =>
    exact converses_query _ rfl (by decide) fun packet => by cases packet <;> rfl
  | getStats statsType =>
    exact converses_query .getStats rfl (by decide) fun packet => by cases packet <;> rfl
  | getChannel idx =>
    exact converses_query .getChannel rfl (by decide) fun packet => by cases packet <;> rfl
  | exportContact publicKey =>
    exact converses_discard (converses_built (builds_exportContact publicKey) fun _ same =>
      converses_expect .exportContact same (by decide) _ fun _ packet => by cases packet <;> rfl)
  | getContact publicKey =>
    exact converses_discard (converses_built (builds_withKey _ publicKey []) fun _ same =>
      converses_expect .getContactByKey same (by decide) _ fun _ packet => by
        cases packet <;> rfl)
  | getAdvertPath publicKey =>
    exact converses_discard (converses_built (builds_withKey _ publicKey [0]) fun _ same =>
      converses_expect .getAdvertPath same (by decide) _ fun _ packet => by cases packet <;> rfl)
  | setTime | sendSelfAdvert | setTuning | setFloodScope | clearDefaultFloodScope | clearChannel =>
    exact converses_discard (converses_ok _ rfl rfl)
  | setAdvertName | setCoordinates | setCustomVar | setDefaultFloodScope | setChannel =>
    exact converses_checked (builds_two _ _) rfl
  | setTxPower | importContact | setAutoAddConfig | setPathHashMode | sendNodeDiscovery
  | setDevicePin =>
    exact converses_checked (builds_guarded _ _ _ _) rfl
  | setRadioParams params =>
    exact converses_checked (builds_bind fun _ => builds_bind fun _ => builds_two _ _) rfl
  | updateContact contact => exact converses_checked (builds_updateContact contact) rfl
  | resetPath publicKey | shareContact publicKey | removeContact publicKey | logout publicKey =>
    exact converses_checked (builds_withKey _ publicKey []) rfl
  | sendChannelMessage now channel txtType text =>
    exact converses_discard (.bind (converses_ofExcept _) fun _ =>
      converses_ok .sendChannelTxtMsg rfl rfl)
  | sendDirectText | sendDirectCommand =>
    exact converses_discard (.bind (converses_ofExcept _) fun _ =>
      .bind (converses_ofExcept _) fun _ => .sent rfl true)
  | exportPrivateKey =>
    exact converses_discard (converses_exchange .exportPrivateKey rfl (by decide)
      (fun _ packet => by cases packet <;> rfl) ())
  | importPrivateKey key =>
    exact converses_discard (converses_exchange .importPrivateKey rfl (by decide)
      (fun _ packet => by cases packet <;> rfl) ())
  | reboot | factoryReset => exact converses_discard (.farewell rfl)
  | login publicKey password =>
    exact converses_discard (.bind (converses_ofExcept _) fun expected =>
      converses_built (builds_bind fun _ => builds_withKeySuffix _ publicKey _) fun _ same =>
        converses_remote .sendLogin same rfl _ fun _ packet => by
          cases packet <;> first | exact .inl rfl | exact .inr rfl)
  | remoteStatus publicKey =>
    exact converses_discard (.bind (converses_ofExcept _) fun expected =>
      converses_built (builds_withKey .sendStatusReq publicKey []) fun _ same =>
        converses_remote .sendStatusReq same rfl _ fun _ packet => by
          cases packet <;> first | exact .inl rfl | exact .inr rfl)
  | discoverPath publicKey =>
    exact converses_discard (.bind (converses_ofExcept _) fun expected =>
      converses_built (builds_withKey .pathDiscovery publicKey [0]) fun _ same =>
        converses_remote .pathDiscovery same rfl _ fun _ packet => by
          cases packet <;> first | exact .inl rfl | exact .inr rfl)
  | binaryRequest publicKey requestType data =>
    exact converses_discard
      (converses_built (builds_withKeySuffix .binaryReq publicKey (requestType :: data))
        fun _ same => converses_remote .binaryReq same rfl _ fun _ packet => by
          cases packet <;> first | exact .inl rfl | exact .inr rfl)
  | anonymousRequest publicKey requestType replyRoute replyPath =>
    exact converses_discard
      (converses_built (builds_sendAnonymousRequest publicKey requestType replyRoute replyPath)
        fun _ same => converses_remote .sendAnonReq same rfl _ fun _ packet => by
          cases packet <;> first | exact .inl rfl | exact .inr rfl)

end Client

end Meshquill
