import Meshquill.Channel
import Meshquill.Cli.Error
import Meshquill.Protocol.Command
import Meshquill.Protocol.Parse

/-!
# Network discovery

`network discover` sends a filter byte with one bit for each type of node, collects the responses
that carry its tag until the deadline, and labels each with the name of its type. The filter, the
decoder and the table of names are three mappings of one type code. The collection keeps the
first response of each key. The table of names counts from zero where the filter counts from one,
so that no label is the kind that was asked for.
-/
namespace Meshquill

structure NodeDiscoveryResponse where
  nodeType : UInt8
  inboundSnrQdb : Int8
  tag : UInt32
  publicKey : Bytes
deriving DecidableEq

/-- `node_discovery_response`. Payloads of other families are no responses. -/
def ControlData.nodeDiscoveryResponse (data : ControlData) :
    Except ParseError (Option NodeDiscoveryResponse) :=
  match data.payload with
  | [] => .error (.invalidPacketLength 0x8e 1 0)
  | controlType :: rest =>
    if controlType &&& 0xf0 ≠ 0x90 then .ok none
    else if data.payload.length < 14 then
      .error (.invalidPacketLength 0x8e 14 data.payload.length)
    else if data.payload.length ≠ 14 ∧ data.payload.length ≠ 38 then
      .error (.malformed "node-discovery response public key must be exactly 8 or 32 bytes")
    else
      match rest with
      | snr :: b0 :: b1 :: b2 :: b3 :: publicKey =>
        let tag := u32FromLe b0 b1 b2 b3
        if tag = 0 then .error (.malformed "node-discovery response tag must be non-zero")
        else
          .ok (some
            { nodeType := controlType &&& 0x0f, inboundSnrQdb := snr.toInt8, tag, publicKey })
      -- A payload of fourteen bytes has more than six.
      | _ => .error (.invalidPacketLength 0x8e 14 data.payload.length)

namespace Cli

open Broadcast (Received)

/-- The kinds of nodes that a command can ask for. -/
inductive ContactKind where
  | client
  | repeater
  | room
  | sensor
deriving DecidableEq, Repr

def discoveryFilter : Option ContactKind → UInt8
  | none => 255
  | some .client => (1 : UInt8) <<< 1
  | some .repeater => (1 : UInt8) <<< 2
  | some .room => (1 : UInt8) <<< 3
  | some .sensor => (1 : UInt8) <<< 4

def discoveryFilterName : Option ContactKind → String
  | none => "all"
  | some .client => "client"
  | some .repeater => "repeater"
  | some .room => "room"
  | some .sensor => "sensor"

def discoveryNodeTypeName (nodeType : UInt8) : String :=
  if nodeType = 0 then "client"
  else if nodeType = 1 then "repeater"
  else if nodeType = 2 then "room"
  else if nodeType = 3 then "sensor"
  else "unknown"

structure NetworkDiscoveryNode where
  publicKeyPrefix : String
  keyBytes : Nat
  nodeType : UInt8
  kind : String
  snrQdb : Int8
  inboundSnrQdb : Int8
  rssiDbm : Int8
  pathLen : UInt8
deriving DecidableEq

/-- The entry of a response. -/
def discoveryNode (data : ControlData) (response : NodeDiscoveryResponse) :
    NetworkDiscoveryNode where
  publicKeyPrefix := hexEncode response.publicKey
  keyBytes := response.publicKey.length
  nodeType := response.nodeType
  kind := discoveryNodeTypeName response.nodeType
  snrQdb := data.snrQdb
  inboundSnrQdb := response.inboundSnrQdb
  rssiDbm := data.rssi
  pathLen := data.pathLen

/-- The loop of `collect_node_discovery`, from the keys seen and the nodes found. The deadline
passes after the last result. -/
def collectFrom (tag : UInt32) (seen : List Bytes) (nodes : List NetworkDiscoveryNode) :
    List (Received Event) → Except CliError (List NetworkDiscoveryNode)
  | [] => .ok nodes
  | .lagged _ :: _ => .error
      { status := .protocol
        message := "node-discovery event buffering lagged; results may be incomplete"
        hint := some "Retry with fewer concurrent event consumers." }
  | .closed :: _ => .error
      { status := .connection
        message := "the device event stream closed during node discovery" }
  | .value (.controlData data) :: later =>
    match data.nodeDiscoveryResponse with
    | .error _ => .error
        { status := .protocol
          message := "the device emitted a malformed node-discovery response" }
    | .ok none => collectFrom tag seen nodes later
    | .ok (some response) =>
      if response.tag ≠ tag ∨ response.publicKey ∈ seen then collectFrom tag seen nodes later
      else
        collectFrom tag (response.publicKey :: seen) (nodes ++ [discoveryNode data response]) later
  | .value _ :: later => collectFrom tag seen nodes later

def collectNodeDiscovery (tag : UInt32) (results : List (Received Event)) :
    Except CliError (List NetworkDiscoveryNode) :=
  collectFrom tag [] [] results

/-! ## What is collected -/

/-- An event is a response with the tag. -/
def taggedResponse (tag : UInt32) : Event → Option (ControlData × NodeDiscoveryResponse)
  | .controlData data =>
    match data.nodeDiscoveryResponse with
    | .ok (some response) => if response.tag = tag then some (data, response) else none
    | _ => none
  | _ => none

/-- The responses with the tag, in the order in which they arrive. -/
def taggedResponses (tag : UInt32) (events : List Event) :
    List (ControlData × NodeDiscoveryResponse) :=
  events.filterMap (taggedResponse tag)

/-- The entry of the first response with a key. -/
def firstEntry (responses : List (ControlData × NodeDiscoveryResponse)) (key : Bytes) :
    Option NetworkDiscoveryNode :=
  (responses.find? (·.2.publicKey = key)).map fun found => discoveryNode found.1 found.2

/-- One entry for each key, in the order of the first responses. -/
def firstEntries (responses : List (ControlData × NodeDiscoveryResponse)) :
    List NetworkDiscoveryNode :=
  ((responses.map (·.2.publicKey)).eraseDups).filterMap (firstEntry responses)

/-- No event is a malformed response. -/
def WellFormed (events : List Event) : Prop :=
  ∀ data, Event.controlData data ∈ events → ∃ response, data.nodeDiscoveryResponse = .ok response

section Collected

variable {responses : List (ControlData × NodeDiscoveryResponse)} {data : ControlData}
  {response : NodeDiscoveryResponse} {key : Bytes} {seen : List Bytes}

/-- The keys that are new, each once. -/
def freshKeys (seen : List Bytes) (responses : List (ControlData × NodeDiscoveryResponse)) :
    List Bytes :=
  ((responses.map (·.2.publicKey)).filter (· ∉ seen)).eraseDups

theorem not_mem_of_freshKeys (fresh : key ∈ freshKeys seen responses) : key ∉ seen := by
  rw [freshKeys, List.mem_eraseDups] at fresh
  simpa using (List.mem_filter.mp fresh).2

theorem freshKeys_seen (known : response.publicKey ∈ seen) :
    freshKeys seen ((data, response) :: responses) = freshKeys seen responses := by
  simp [freshKeys, known]

theorem freshKeys_new (new : response.publicKey ∉ seen) :
    freshKeys seen ((data, response) :: responses) =
      response.publicKey :: freshKeys (response.publicKey :: seen) responses := by
  have later : ∀ keys : List Bytes, (keys.filter (· ∉ seen)).filter (!· == response.publicKey) =
      keys.filter (· ∉ response.publicKey :: seen) := by
    intro keys
    rw [List.filter_filter]
    refine List.filter_congr fun key _ => ?_
    simp [Bool.beq_eq_decide_eq]
  rw [freshKeys, freshKeys, List.map_cons, List.filter_cons_of_pos (by simpa using new),
    List.eraseDups_cons, later]

/-- The first response with another key is a later one. -/
theorem firstEntry_later (other : response.publicKey ≠ key) :
    firstEntry ((data, response) :: responses) key = firstEntry responses key := by
  rw [firstEntry, List.find?_cons_of_neg (by simpa using other), firstEntry]

theorem firstEntry_here :
    firstEntry ((data, response) :: responses) response.publicKey =
      some (discoveryNode data response) := by
  rw [firstEntry, List.find?_cons_of_pos (by simp)]
  rfl

theorem filterMap_firstEntry {keys : List Bytes} (others : response.publicKey ∉ keys) :
    keys.filterMap (firstEntry ((data, response) :: responses)) =
      keys.filterMap (firstEntry responses) := by
  refine List.filterMap_congr fun key listed => firstEntry_later ?_
  rintro rfl
  exact others listed

end Collected

variable {tag : UInt32} {event : Event} {events : List Event}

/-- An event that is no response with the tag changes nothing. -/
theorem taggedResponses_skip (skipped : taggedResponse tag event = none) (events : List Event) :
    taggedResponses tag (event :: events) = taggedResponses tag events :=
  List.filterMap_cons_none skipped

theorem taggedResponses_take {found : ControlData × NodeDiscoveryResponse}
    (taken : taggedResponse tag event = some found) (events : List Event) :
    taggedResponses tag (event :: events) = found :: taggedResponses tag events :=
  List.filterMap_cons_some taken

/-- From any point of the loop on, the first entries of the new keys are appended. -/
theorem collectFrom_eq (tag : UInt32) (wellFormed : WellFormed events) (seen : List Bytes)
    (nodes : List NetworkDiscoveryNode) :
    collectFrom tag seen nodes (events.map .value) =
      .ok (nodes ++ (freshKeys seen (taggedResponses tag events)).filterMap
        (firstEntry (taggedResponses tag events))) := by
  induction events generalizing seen nodes with
  | nil => simp [collectFrom, taggedResponses, freshKeys]
  | cons event events ih =>
    have rest := ih fun data listed => wellFormed data (.tail _ listed)
    cases event with
    | controlData data =>
      obtain ⟨decoded, parsed⟩ := wellFormed data List.mem_cons_self
      rw [List.map_cons, collectFrom, parsed]
      cases decoded with
      | none =>
        rw [taggedResponses_skip (by simp only [taggedResponse, parsed])]
        exact rest seen nodes
      | some response =>
        dsimp only
        by_cases ours : response.tag = tag
        · have taken : taggedResponse tag (.controlData data) = some (data, response) := by
            simp only [taggedResponse, parsed, if_pos ours]
          rw [taggedResponses_take taken]
          by_cases known : response.publicKey ∈ seen
          · have others : response.publicKey ∉ freshKeys seen (taggedResponses tag events) :=
              fun fresh => not_mem_of_freshKeys fresh known
            rw [if_pos (.inr known), freshKeys_seen known, filterMap_firstEntry others]
            exact rest seen nodes
          · have others : response.publicKey ∉
                freshKeys (response.publicKey :: seen) (taggedResponses tag events) :=
              fun fresh => not_mem_of_freshKeys fresh List.mem_cons_self
            rw [if_neg (not_or.mpr ⟨not_not.mpr ours, known⟩), freshKeys_new known,
              List.filterMap_cons_some firstEntry_here, filterMap_firstEntry others, rest,
              List.append_assoc]
            rfl
        · have skipped : taggedResponse tag (.controlData data) = none := by
            simp only [taggedResponse, parsed, if_neg ours]
          rw [if_pos (.inl ours), taggedResponses_skip skipped]
          exact rest seen nodes
    | _ => exact rest seen nodes

theorem collectNodeDiscovery_eq (tag : UInt32) (wellFormed : WellFormed events) :
    collectNodeDiscovery tag (events.map .value) =
      .ok (firstEntries (taggedResponses tag events)) := by
  rw [collectNodeDiscovery, collectFrom_eq tag wellFormed, freshKeys]
  simp [firstEntries]

theorem mem_firstEntries {responses : List (ControlData × NodeDiscoveryResponse)}
    {node : NetworkDiscoveryNode} (listed : node ∈ firstEntries responses) :
    ∃ found ∈ responses, node = discoveryNode found.1 found.2 := by
  obtain ⟨key, _, first⟩ := List.mem_filterMap.mp listed
  obtain ⟨found, here, rfl⟩ := Option.map_eq_some_iff.mp first
  exact ⟨found, List.mem_of_find?_eq_some here, rfl⟩

/-- The first response of all has its entry. -/
theorem firstEntries_cons (found : ControlData × NodeDiscoveryResponse)
    (responses : List (ControlData × NodeDiscoveryResponse)) :
    discoveryNode found.1 found.2 ∈ firstEntries (found :: responses) := by
  obtain ⟨data, response⟩ := found
  refine List.mem_filterMap.mpr ⟨response.publicKey, ?_, firstEntry_here⟩
  rw [List.mem_eraseDups]
  exact List.mem_cons_self

theorem taggedResponses_eq_nil :
    taggedResponses tag events = [] ↔ ∀ data response, Event.controlData data ∈ events →
      data.nodeDiscoveryResponse = .ok (some response) → response.tag ≠ tag := by
  rw [taggedResponses, List.filterMap_eq_nil_iff]
  constructor
  · intro skipped data response listed parsed ours
    have here := skipped _ listed
    simp only [taggedResponse, parsed, if_pos ours] at here
    cases here
  · intro others event listed
    cases event with
    | controlData data =>
      rw [taggedResponse]
      split
      · rename_i response parsed
        exact if_neg (others data response listed parsed)
      · rfl
    | _ => rfl

/-! ## Labels -/

/-- A node of a type answers a request if its bit is set in the filter byte that was sent. -/
def Selected (request : Command) (nodeType : UInt8) : Prop :=
  ∃ filter, request.payload[1]? = some filter ∧ filter.toNat.testBit nodeType.toNat = true

/-- The type whose bit the filter of a kind sets. -/
def ContactKind.typeCode : ContactKind → UInt8
  | .client => 1
  | .repeater => 2
  | .room => 3
  | .sensor => 4

variable (kind : ContactKind)

theorem testBit_discoveryFilter (bit : Nat) :
    (discoveryFilter (some kind)).toNat.testBit bit = true ↔ bit = kind.typeCode.toNat := by
  have shifted : (discoveryFilter (some kind)).toNat = 1 <<< kind.typeCode.toNat := by
    cases kind <;> rfl
  rw [shifted, Nat.one_shiftLeft, Nat.testBit_two_pow, decide_eq_true_eq]
  exact eq_comm

/-- In the table of names the kind has another type. -/
theorem discoveryNodeTypeName_typeCode :
    discoveryNodeTypeName kind.typeCode ≠ discoveryFilterName (some kind) := by
  cases kind <;> decide

theorem label_ne_of_selected {kind : ContactKind} {request : Command}
    (built : Command.sendNodeDiscovery (discoveryFilter (some kind)) true tag none = .ok request)
    {nodeType : UInt8} (selected : Selected request nodeType) :
    discoveryNodeTypeName nodeType ≠ discoveryFilterName (some kind) := by
  obtain ⟨filter, sent, bit⟩ := selected
  have payload : request.payload[1]? = some (discoveryFilter (some kind)) := by
    rw [Command.sendNodeDiscovery] at built
    split at built
    · cases built
    · rw [Command.checked, if_neg (by simp [u32ToLe, maxInnerPayload])] at built
      cases built
      rfl
  obtain rfl := Option.some.inj (payload.symm.trans sent)
  rw [UInt8.toNat_inj.mp ((testBit_discoveryFilter kind _).mp bit)]
  exact discoveryNodeTypeName_typeCode kind

/-- What network discovery is to return: one entry for each key that responded with the tag, in
the order of the first responses, with the requested kind as its label. -/
def Discovers (tag : UInt32) (events : List Event) : Prop :=
  collectNodeDiscovery tag (events.map .value) = .ok (firstEntries (taggedResponses tag events)) ∧
    ∀ node ∈ firstEntries (taggedResponses tag events), node.kind = discoveryFilterName (some kind)

/-- Where only nodes of a selected type respond, discovery does what it is to do exactly if there
is no response at all. -/
theorem discovers_iff_unanswered (kind : ContactKind) (tag : UInt32) (request : Command)
    (built : Command.sendNodeDiscovery (discoveryFilter (some kind)) true tag none = .ok request)
    (events : List Event) (wellFormed : WellFormed events)
    (selected : ∀ found ∈ taggedResponses tag events, Selected request found.2.nodeType) :
    Discovers kind tag events ↔ ∀ data response, Event.controlData data ∈ events →
      data.nodeDiscoveryResponse = .ok (some response) → response.tag ≠ tag := by
  have collected := collectNodeDiscovery_eq tag wellFormed
  rw [← taggedResponses_eq_nil]
  constructor
  · rintro ⟨_, labels⟩
    cases responses : taggedResponses tag events with
    | nil => rfl
    | cons found later =>
      rw [responses] at labels selected
      have label := labels _ (firstEntries_cons found later)
      exact absurd label (label_ne_of_selected built (selected found List.mem_cons_self))
  · intro unanswered
    refine ⟨collected, fun node listed => ?_⟩
    obtain ⟨found, member, _⟩ := mem_firstEntries listed
    rw [unanswered] at member
    cases member

/-- A response with a tag below 256, from a node of a type with a key of eight equal bytes. -/
def sampleResponse (nodeType tag key : UInt8) : Event :=
  .controlData
    { snrQdb := 20, rssi := -91, pathLen := 0
      payload := [0x90 ||| nodeType, 12, tag, 0, 0, 0] ++ List.replicate 8 key }

/-- A client that responds to the request of another command is ignored. -/
theorem discovers_other_tag : Discovers .client 1 [sampleResponse 1 2 0x42] :=
  (discovers_iff_unanswered .client 1 _ rfl [sampleResponse 1 2 0x42] (by
    rintro data listed
    cases List.mem_singleton.mp listed
    exact ⟨_, rfl⟩) (by
    intro found listed
    cases listed)).mpr (by
      intro data response listed parsed
      cases List.mem_singleton.mp listed
      cases parsed
      decide)

/-- A client that responds to a request for clients is labelled as a repeater. -/
theorem client_labelled_repeater :
    (∃ request, Command.sendNodeDiscovery (discoveryFilter (some .client)) true 1 none =
      .ok request ∧ Selected request 1) ∧
    (collectNodeDiscovery 1 [.value (sampleResponse 1 1 0x42)]).map (·.map (·.kind)) =
      .ok ["repeater"] ∧
    ¬ Discovers .client 1 [sampleResponse 1 1 0x42] := by
  refine ⟨⟨_, rfl, 2, rfl, rfl⟩, rfl, ?_⟩
  rintro ⟨_, labels⟩
  have label := labels _ (firstEntries_cons _ [])
  exact absurd label (by decide)

end Cli

end Meshquill
