import Meshquill.Cli.Incoming
import Meshquill.Cli.Prepare
import Meshquill.Store.History

/-!
# The workflow services and the history

The calls of `WorkflowServices` that record messages. A new record is one upsert. The outcome of a
send is recorded in two transactions of the store, a load that looks for the record and an upsert
of the changed one; the locks are free in between. The hooks are told afterwards, and how a hook
answers is a parameter.

A blocking task of the runtime always returns here. `now` and the identifiers are what the clock
and `Uuid::now_v7` give.
-/
namespace Meshquill.Cli

open Hooks Store

/-- What the hooks are told. -/
inductive HookEvent where
  | afterSend (destination text : String) (messageId : Option String)
  | onAck (messageId : String) (source : Option String) (roundTripMs : Option UInt64)
  | onTimeout (operation : String) (messageId : Option String)
  | onMessage (source text : String) (messageId : Option String)

/-- `WorkflowServices`, as far as messages are concerned. -/
structure WorkflowServices where
  historyStore : Option HistoryStore
  /-- `HookRuntime::dispatch`, if hooks are configured. -/
  dispatch : Option (HookEvent → Except HookError Unit) := none

structure OutgoingRecord where
  messageId : Uuid
  historyMessageId : Option Uuid

/-- What the services do to the disk. -/
abbrev ServiceM := Async CliError Disk

def messageSource (message : Message) : String :=
  match message.source with
  | .direct pubkeyPrefix => "direct:" ++ pubkeyPrefix
  | .channel channelIdx => "channel:" ++ toString channelIdx.toNat

/-- The channel of a message, as the history has it. -/
def messageChannel (message : Message) : Option UInt8 :=
  match message.source with
  | .direct _ => none
  | .channel channelIdx => some channelIdx

/-! ## The store -/

section History

variable (json : Json)

def loadHistory (loading : Faults HistoryStore.LockedLoadStep) (store : HistoryStore) :
    ServiceM (List HistoryEntry) :=
  Async.mapError .ofStore (store.load json loading)

def loadHistoryEntry (loading : Faults HistoryStore.LockedLoadStep) (store : HistoryStore)
    (id : Uuid) : ServiceM (Option HistoryEntry) := do
  let entries ← loadHistory json loading store
  return entries.find? (·.id = id)

def storeUpsert (writing : Faults HistoryStore.UpsertStep) (store : HistoryStore)
    (entry : HistoryEntry) : ServiceM Unit :=
  Async.mapError .ofStore (store.upsert json writing entry)

/-- Make an entry and store it under this identifier. -/
def storeNew (writing : Faults HistoryStore.UpsertStep) (store : HistoryStore) (now : Int)
    (id fresh : Uuid) (direction : HistoryDirection) (peer : String) (channel : Option UInt8)
    (text : String) (status : HistoryStatus) : ServiceM Unit := do
  let entry ← Async.ofExcept
    ((HistoryEntry.new now fresh direction peer channel text status none).mapError .ofStore)
  storeUpsert json writing store { entry with id }

/-- What is recorded of an outgoing message after it was begun. -/
inductive RecordChange where
  | sent (destination : String) (ackCode : Option AckCode)
  | acknowledged (ackCode : AckCode)
  | timedOut
  | failed

/-- The record with the change. -/
def RecordChange.apply (entry : HistoryEntry) : RecordChange → Except CliError HistoryEntry
  | .sent destination ackCode =>
    .ok { entry with peer := destination, acknowledgement := ackCode }
  | .acknowledged ackCode =>
    if entry.acknowledgement ≠ some ackCode then
      .error { status := .protocol
               message := "outgoing message acknowledgement did not match stored correlation" }
    else .ok { entry with status := .acknowledged }
  | .timedOut => .ok { entry with status := .timedOut }
  | .failed => .ok { entry with status := .failed }

/-- The second transaction of a change, if the first one has found the record. -/
def writeChange (writing : Faults HistoryStore.UpsertStep) (store : HistoryStore)
    (change : RecordChange) : Option HistoryEntry → ServiceM Unit
  | none => pure ()
  | some entry => do
    let changed ← Async.ofExcept (change.apply entry)
    storeUpsert json writing store changed

end History

/-! ## The services -/

namespace WorkflowServices

variable (json : Json) (services : WorkflowServices)

def notify (event : HookEvent) : ServiceM Unit :=
  match services.dispatch with
  | none => pure ()
  | some dispatch => Async.ofExcept ((dispatch event).mapError .ofHook)

def beginOutgoing (writing : Faults HistoryStore.UpsertStep) (now : Int) (messageId fresh : Uuid)
    (peer : String) (channel : Option UInt8) (text : String) : ServiceM OutgoingRecord :=
  match services.historyStore with
  | none => return ⟨messageId, none⟩
  | some store => do
    storeNew json writing store now messageId fresh .outgoing peer channel text .pending
    return ⟨messageId, some messageId⟩

variable (loading : Faults HistoryStore.LockedLoadStep)
  (writing : Faults HistoryStore.UpsertStep) (record : OutgoingRecord)

/-- Change the record of an outgoing message, if the history has one. -/
def changeRecord (change : RecordChange) : ServiceM Unit :=
  match services.historyStore, record.historyMessageId with
  | some store, some historyId => do
    let entry ← loadHistoryEntry json loading store historyId
    writeChange json writing store change entry
  | _, _ => pure ()

def sent (destination text messageId : String) (ackCode : Option AckCode) : ServiceM Unit := do
  services.changeRecord json loading writing record (.sent destination ackCode)
  services.notify (.afterSend destination text (some messageId))

def acknowledged (messageId : String) (source : Option String) (roundTripMs : Option UInt32)
    (ackCode : AckCode) : ServiceM Unit := do
  services.changeRecord json loading writing record (.acknowledged ackCode)
  services.notify (.onAck messageId source (roundTripMs.map UInt32.toUInt64))

def timedOut (operation messageId : String) : ServiceM Unit := do
  services.changeRecord json loading writing record .timedOut
  services.notify (.onTimeout operation (some messageId))

def failed : ServiceM Unit :=
  services.changeRecord json loading writing record .failed

/-- Record an incoming message, if the history is enabled. -/
def recordIncoming (writing : Faults HistoryStore.UpsertStep) (now : Int) (id fresh : Uuid)
    (message : Message) : ServiceM Unit :=
  match services.historyStore with
  | none => pure ()
  | some store =>
    storeNew json writing store now id fresh .incoming (messageSource message)
      (messageChannel message) message.text .received

/-- `incoming`: what the tracker remembers afterwards, and what is done. -/
def incoming (writing : Faults HistoryStore.UpsertStep) (now : Int) (id fresh : Uuid)
    (tracker : IncomingTracker) (message : Message) (origin : IncomingOrigin) :
    IncomingTracker × ServiceM (Option String) :=
  let (isNew, tracker) := tracker.observe ⟨message.observationId, origin⟩
  (tracker,
    if isNew then do
      services.recordIncoming json writing now id fresh message
      services.notify (.onMessage (messageSource message) message.text (some (renderUuid id)))
      return some (renderUuid id)
    else return none)

end WorkflowServices

end Meshquill.Cli
