import Meshquill.Channel
import Meshquill.Transition

/-!
# The gateway and its bridge

Two tasks and a network worker between a MeshCore device and a broker. The bridge of
`mqtt_cli.rs` turns device events into publications and executes the commands that arrive as
notices. The runner of `runner.rs` hands publications to the broker and turns what the network
worker reports into notices. Each of the two is the only consumer of a bounded channel that the
other one fills, and each waits in its own send without receiving.

An action is what one task does between two suspension points; `main.rs` runs both tasks on one
thread, so the branches of a `select` are looked at together. What the environment decides is
an argument of the action: which branch of the bridge's unbiased `select` is taken, what a
device event or a snapshot publishes, whether a broker operation succeeds. The command
processor's verdict on an inbound publication is part of the network notice. Commands,
rejections and publications are parameters, since nothing here looks inside them.
-/
namespace Meshquill.Mqtt

/-- `MAX_CHANNEL_CAPACITY`. -/
def maxChannelCapacity : Nat := 4096

/-- The default of `channel_capacity`. -/
def defaultChannelCapacity : Nat := 64

/-- `ConfigError::invalid`. -/
structure ConfigError where
  field : String
  message : String
deriving DecidableEq

/-- The check of `MqttConfig::validate` on `channel_capacity`. -/
def validateChannelCapacity (channelCapacity : Nat) : Except ConfigError Unit :=
  if 1 ≤ channelCapacity ∧ channelCapacity ≤ maxChannelCapacity then .ok ()
  else .error ⟨"channel_capacity", "must be between 1 and 4096"⟩

inductive ConnectionStatus where
  | connected
  | disconnected
deriving DecidableEq

/-- `GatewayNotice`, for commands `κ` and rejections `ρ`. -/
inductive GatewayNotice (κ ρ : Type) where
  | brokerState (status : ConnectionStatus)
  | commandReady
  | command (command : κ)
  | rejected (error : ρ)

/-- `NetworkNotice`. An inbound publication carries the verdict on it. -/
inductive NetworkNotice (κ ρ : Type) where
  | connected
  | disconnected
  | commandReady
  | commandSubscriptionRejected
  | publish (verdict : Except ρ κ)

/-- An operation of the MQTT client that the runner awaits, within a time limit. -/
inductive BrokerOperation (π : Type) where
  | subscribe
  | publishConnectionState (status : ConnectionStatus)
  | publishPrepared (publication : π)

/-- Where the runner is in `process`: at its `select`, in `handle_network_notice` before and
during the send of the notice, in operations of the MQTT client, or past its loop. -/
inductive Runner (κ ρ π : Type) where
  | selecting
  | handling (notice : NetworkNotice κ ρ)
  | sending (notice : GatewayNotice κ ρ)
  | operating (operation : BrokerOperation π) (rest : List (BrokerOperation π))
  | stopped

/-- Where the bridge is in `bridge_loop`: at its `select`, in a publish with the further ones of
the same turn, or past its loop. After its `last` turn it leaves the loop. -/
inductive Bridge (π : Type) where
  | selecting
  | publishing (publication : π) (rest : List π) (last : Bool)
  | stopped

/-- What `collect_full_device_snapshot` could collect. -/
structure Snapshot (π : Type) where
  contacts : Option π := none
  battery : Option π := none
  telemetry : Option π := none

def Snapshot.publications {π : Type} (snapshot : Snapshot π) : List π :=
  snapshot.contacts.toList ++ snapshot.battery.toList ++ snapshot.telemetry.toList

/-- A branch of the bridge's `select`, with what it publishes. -/
inductive BridgeTurn (π : Type) where
  /-- The timer that expires pending ACKs. -/
  | tick
  | contactResync (publication : Option π)
  /-- A device event; a disconnect ends the loop. -/
  | event (publication : Option π) (disconnected : Bool)
  /-- The next notice, with the snapshot that a reconnected broker gets. -/
  | notice (snapshot : Snapshot π)
  /-- An interrupt, or an error in the turn. -/
  | fails

inductive Action (κ ρ π : Type) where
  /-- The network worker reports this. -/
  | deliver (notice : NetworkNotice κ ρ)
  | takePublication
  | takeNotice
  | handleNetworkNotice
  | sendNotice
  | operate (succeeds : Bool)
  | turn (turn : BridgeTurn π)
  | publish
  | cancel
  /-- A task sees the cancellation. -/
  | leaveRunner
  | leaveBridge

/-- The channels, the network worker's own flag, the two tasks and the cancellation token. -/
structure Gateway (capacity : Nat) (κ ρ π : Type) where
  publications : Channel capacity π := .empty
  notices : Channel capacity (GatewayNotice κ ρ) := .empty
  network : Channel capacity (NetworkNotice κ ρ) := .empty
  online : Bool := false
  runner : Runner κ ρ π := .selecting
  bridge : Bridge π
  reconnectPending : Bool := false
  cancelled : Bool := false

/-- The runner goes on with these operations. -/
def Runner.resume {κ ρ π : Type} : List (BrokerOperation π) → Runner κ ρ π
  | [] => .selecting
  | operation :: rest => .operating operation rest

/-- The bridge goes on with these publications. -/
def Bridge.resume {π : Type} (last : Bool) : List π → Bridge π
  | [] => if last then .stopped else .selecting
  | publication :: rest => .publishing publication rest last

def Bridge.isStopped {π : Type} : Bridge π → Bool
  | .stopped => true
  | _ => false

/-- `broker_reconnect_requires_snapshot`: the answer and the new `reconnect_pending`. -/
def brokerReconnectRequiresSnapshot {κ ρ : Type} (reconnectPending : Bool) :
    GatewayNotice κ ρ → Bool × Bool
  | .brokerState .disconnected => (false, true)
  | .brokerState .connected => if reconnectPending then (true, false) else (false, false)
  | _ => (false, reconnectPending)

/-- What `handle_network_notice` does after it has sent this notice. -/
def operationsAfter {κ ρ π : Type} (allowSend : Bool) :
    GatewayNotice κ ρ → List (BrokerOperation π)
  | .brokerState .connected =>
    (if allowSend then [.subscribe] else []) ++ [.publishConnectionState .connected]
  | .brokerState .disconnected => [.publishConnectionState .disconnected]
  | _ => []

namespace Gateway

variable {capacity : Nat} {κ ρ π : Type}

/-- The bridge moves on; a bridge that has left its loop cancels the gateway. -/
def moveBridge (bridge : Bridge π) (gateway : Gateway capacity κ ρ π) : Gateway capacity κ ρ π :=
  { gateway with bridge, cancelled := gateway.cancelled || bridge.isStopped }

variable (gateway : Gateway capacity κ ρ π)

/-- The runner ends with an error, and cancels. -/
def failRunner : Gateway capacity κ ρ π :=
  { gateway with runner := .stopped, cancelled := true }

/-- `handle_network_notice` up to its send. A rejection is dropped when there is no room. -/
def handleNetworkNotice : NetworkNotice κ ρ → Gateway capacity κ ρ π
  | .connected => { gateway with runner := .sending (.brokerState .connected) }
  | .disconnected => { gateway with runner := .sending (.brokerState .disconnected) }
  | .commandReady => { gateway with runner := .sending .commandReady }
  | .commandSubscriptionRejected => gateway.failRunner
  | .publish (.ok command) => { gateway with runner := .sending (.command command) }
  | .publish (.error error) =>
    { gateway with
      notices := (gateway.notices.send (.rejected error)).getD gateway.notices
      runner := .selecting }

/-- `poll_event_loop`: a disconnect is only reported after a connect. -/
def deliver (notice : NetworkNotice κ ρ) : Option (Gateway capacity κ ρ π) :=
  match notice with
  | .connected =>
    (gateway.network.send notice).map fun network => { gateway with network, online := true }
  | .disconnected =>
    if gateway.online then
      (gateway.network.send notice).map fun network => { gateway with network, online := false }
    else none
  | _ => (gateway.network.send notice).map fun network => { gateway with network }

/-- One branch of the bridge's `select`. -/
def turn : BridgeTurn π → Option (Gateway capacity κ ρ π)
  | .tick => some gateway
  | .contactResync publication => some (gateway.moveBridge (.resume false publication.toList))
  | .event publication disconnected =>
    some (gateway.moveBridge (.resume disconnected publication.toList))
  | .notice snapshot =>
    gateway.notices.recv.map fun (notice, notices) =>
      let (required, reconnectPending) :=
        brokerReconnectRequiresSnapshot gateway.reconnectPending notice
      { gateway with notices, reconnectPending }.moveBridge
        (.resume false (if required then snapshot.publications else []))
  | .fails => some (gateway.moveBridge .stopped)

/-- One action. The runner's `select` is biased: a network notice is only taken while no
publication waits. A wait that sees the cancellation does not complete. -/
def step (allowSend : Bool) (gateway : Gateway capacity κ ρ π) (action : Action κ ρ π) :
    Option (Gateway capacity κ ρ π) :=
  match action with
  | .deliver notice => gateway.deliver notice
  | .takePublication =>
    match gateway.runner, gateway.cancelled with
    | .selecting, false =>
      gateway.publications.recv.map fun (publication, publications) =>
        { gateway with publications, runner := .operating (.publishPrepared publication) [] }
    | _, _ => none
  | .takeNotice =>
    match gateway.runner, gateway.cancelled, gateway.publications.items with
    | .selecting, false, [] =>
      gateway.network.recv.map fun (notice, network) =>
        { gateway with network, runner := .handling notice }
    | _, _, _ => none
  | .handleNetworkNotice =>
    match gateway.runner with
    | .handling notice => some (gateway.handleNetworkNotice notice)
    | _ => none
  | .sendNotice =>
    match gateway.runner, gateway.cancelled with
    | .sending notice, false =>
      (gateway.notices.send notice).map fun notices =>
        { gateway with notices, runner := .resume (operationsAfter allowSend notice) }
    | _, _ => none
  | .operate succeeds =>
    match gateway.runner with
    | .operating _ rest =>
      some (if succeeds then { gateway with runner := .resume rest } else gateway.failRunner)
    | _ => none
  | .turn branch =>
    match gateway.bridge with
    | .selecting => gateway.turn branch
    | _ => none
  | .publish =>
    match gateway.bridge, gateway.cancelled with
    | .publishing publication rest last, false =>
      (gateway.publications.send publication).map fun publications =>
        { gateway with publications }.moveBridge (.resume last rest)
    | _, _ => none
  | .cancel => some { gateway with cancelled := true }
  | .leaveRunner =>
    if gateway.cancelled then some { gateway with runner := .stopped } else none
  | .leaveBridge =>
    match gateway.bridge, gateway.cancelled with
    | .publishing _ _ _, true => some { gateway with bridge := .stopped }
    | _, _ => none

/-- `mqtt_bridge` publishes a first snapshot before it enters the loop. -/
def start (snapshot : Snapshot π) : Gateway capacity κ ρ π :=
  { bridge := .resume false snapshot.publications }

/-! ## Blocked states -/

/-- The runner holds a notice that it has not sent. -/
def holdsNotice : Bool :=
  match gateway.runner with
  | .handling _ | .sending _ => true
  | _ => false

/-- The publications that the bridge has not sent. -/
def unsent : List π :=
  match gateway.bridge with
  | .publishing publication rest _ => publication :: rest
  | _ => []

/-- The bridge waits in a publish and the runner in the send of a notice, each for the other to
take from a full channel, and nobody has cancelled. -/
structure Blocked : Prop where
  alive : gateway.cancelled = false
  publishes : ∃ publication rest last, gateway.bridge = .publishing publication rest last
  publicationsFull : gateway.publications.Full
  notifies : ∃ notice, gateway.runner = .sending notice
  noticesFull : gateway.notices.Full

variable {gateway} {notice : NetworkNotice κ ρ} {allowSend : Bool}

/-- A report only changes what the network worker owns. -/
theorem deliver_eq_some {next : Gateway capacity κ ρ π}
    (delivered : gateway.deliver notice = some next) :
    ∃ network online, next = { gateway with network, online } := by
  unfold deliver at delivered
  split at delivered
  case h_2 =>
    split at delivered
    · obtain ⟨network, -, rfl⟩ := Option.map_eq_some_iff.mp delivered
      exact ⟨_, _, rfl⟩
    · cases delivered
  all_goals
    obtain ⟨network, -, rfl⟩ := Option.map_eq_some_iff.mp delivered
    exact ⟨_, _, rfl⟩

/-- Only a cancellation ends a blocked state. -/
theorem step_blocked (gateway : Gateway capacity κ ρ π) (action : Action κ ρ π)
    (next : Gateway capacity κ ρ π) (other : action ≠ .cancel)
    (stepped : gateway.step allowSend action = some next) (blocked : gateway.Blocked) :
    next.Blocked := by
  obtain ⟨alive, ⟨publication, rest, last, publishes⟩, full, ⟨notice, notifies⟩, noRoom⟩ := blocked
  cases action with
  | deliver reported =>
    obtain ⟨network, online, rfl⟩ := deliver_eq_some stepped
    exact ⟨alive, ⟨publication, rest, last, publishes⟩, full, ⟨notice, notifies⟩, noRoom⟩
  | cancel => exact absurd rfl other
  | publish => simp [step, publishes, alive, Channel.send_of_full full] at stepped
  | sendNotice => simp [step, notifies, alive, Channel.send_of_full noRoom] at stepped
  | _ => simp [step, notifies, publishes, alive] at stepped

/-! ## What keeps the two apart -/

/-- A turn that the bridge may take up. A device event or a contact resync comes while there is
room for another notice, or for what it publishes; and no snapshot has more publications than
there are places. -/
def Permitted (gateway : Gateway capacity κ ρ π) : Action κ ρ π → Prop
  | .turn (.contactResync publication) | .turn (.event publication _) =>
    ¬ gateway.notices.Full ∨
      gateway.publications.items.length + publication.toList.length ≤ capacity
  | .turn (.notice snapshot) => snapshot.publications.length ≤ capacity
  | _ => True

instance (gateway : Gateway capacity κ ρ π) : DecidablePred gateway.Permitted
  | .turn (.contactResync _) | .turn (.event _ _) => inferInstanceAs (Decidable (_ ∨ _))
  | .turn (.notice _) => inferInstanceAs (Decidable (_ ≤ _))
  | .turn .tick | .turn .fails | .deliver _ | .takePublication | .takeNotice
  | .handleNetworkNotice | .sendNotice | .operate _ | .publish | .cancel | .leaveRunner
  | .leaveBridge => isTrue trivial

/-- A turn never has more publications than there are places. And if the runner holds a notice
for which there is no room, then there is room for everything that the bridge has to publish:
the runner took the notice when no publication was waiting. -/
structure Flowing (gateway : Gateway capacity κ ρ π) : Prop where
  fits : gateway.unsent.length ≤ capacity
  room : gateway.holdsNotice = true → gateway.notices.Full →
    gateway.publications.items.length + gateway.unsent.length ≤ capacity

theorem Flowing.not_blocked (flowing : gateway.Flowing) : ¬ gateway.Blocked := by
  rintro ⟨alive, ⟨publication, rest, last, publishes⟩, full, ⟨notice, notifies⟩, noRoom⟩
  have room := flowing.room (by simp [holdsNotice, notifies]) noRoom
  rw [full] at room
  simp only [unsent, publishes, List.length_cons] at room
  omega

/-- A state in which the runner holds no notice. -/
theorem Flowing.of_free (fits : gateway.unsent.length ≤ capacity)
    (free : gateway.holdsNotice = false) : gateway.Flowing :=
  ⟨fits, fun holds => absurd (free.symm.trans holds) Bool.false_ne_true⟩

@[simp] theorem unsent_moveBridge (gateway : Gateway capacity κ ρ π) (last : Bool)
    (publications : List π) :
    (gateway.moveBridge (.resume last publications)).unsent = publications := by
  cases publications with
  | nil => cases last <;> rfl
  | cons publication rest => rfl

theorem holdsNotice_resume (gateway : Gateway capacity κ ρ π)
    (operations : List (BrokerOperation π)) :
    { gateway with runner := .resume operations }.holdsNotice = false := by
  cases operations <;> rfl

/-- The bridge takes up a turn with these publications. -/
theorem Flowing.of_turn {last : Bool} {publications : List π}
    (fits : publications.length ≤ capacity) (permitted : ¬ gateway.notices.Full ∨
      gateway.publications.items.length + publications.length ≤ capacity) :
    (gateway.moveBridge (.resume last publications)).Flowing where
  fits := by rwa [unsent_moveBridge]
  room _ full := by
    rw [unsent_moveBridge]
    exact permitted.resolve_left fun room => room full

theorem Flowing.handleNetworkNotice (flowing : gateway.Flowing)
    (holds : gateway.runner = .handling notice) :
    (gateway.handleNetworkNotice notice).Flowing := by
  have held : gateway.holdsNotice = true := by simp [holdsNotice, holds]
  cases notice with
  | connected | disconnected | commandReady =>
    exact ⟨flowing.fits, fun _ => flowing.room held⟩
  | commandSubscriptionRejected => exact .of_free flowing.fits rfl
  | publish verdict =>
    cases verdict with
    | ok command => exact ⟨flowing.fits, fun _ => flowing.room held⟩
    | error error => exact .of_free flowing.fits rfl

/-- One permitted action keeps the two apart. -/
theorem step_flowing (filled : 1 ≤ capacity) (gateway : Gateway capacity κ ρ π)
    (action : Action κ ρ π) (next : Gateway capacity κ ρ π) (permitted : gateway.Permitted action)
    (stepped : gateway.step allowSend action = some next) (flowing : gateway.Flowing) :
    next.Flowing := by
  have single (publication : Option π) : publication.toList.length ≤ capacity := by
    cases publication <;> simp [filled]
  cases action with
  | deliver notice =>
    obtain ⟨network, online, rfl⟩ := deliver_eq_some stepped
    exact ⟨flowing.fits, flowing.room⟩
  | takePublication =>
    simp only [step] at stepped
    split at stepped
    · obtain ⟨⟨publication, rest⟩, -, rfl⟩ := Option.map_eq_some_iff.mp stepped
      exact .of_free flowing.fits rfl
    · cases stepped
  | takeNotice =>
    simp only [step] at stepped
    split at stepped
    · rename_i nothing
      obtain ⟨⟨notice, network⟩, -, rfl⟩ := Option.map_eq_some_iff.mp stepped
      refine ⟨flowing.fits, fun _ _ => ?_⟩
      have none : ({ gateway with network, runner := .handling notice } :
          Gateway capacity κ ρ π).publications.items = [] := nothing
      rw [none, List.length_nil, Nat.zero_add]
      exact flowing.fits
    · cases stepped
  | handleNetworkNotice =>
    simp only [step] at stepped
    split at stepped
    · rename_i holds
      obtain rfl := Option.some.inj stepped
      exact flowing.handleNetworkNotice holds
    · cases stepped
  | sendNotice =>
    simp only [step] at stepped
    split at stepped
    · obtain ⟨notices, -, rfl⟩ := Option.map_eq_some_iff.mp stepped
      exact .of_free flowing.fits (holdsNotice_resume { gateway with notices } _)
    · cases stepped
  | operate succeeds =>
    simp only [step] at stepped
    split at stepped
    · obtain rfl := Option.some.inj stepped
      cases succeeds with
      | true => exact .of_free flowing.fits (holdsNotice_resume gateway _)
      | false => exact .of_free flowing.fits rfl
    · cases stepped
  | turn branch =>
    simp only [step] at stepped
    split at stepped
    case h_2 => cases stepped
    cases branch with
    | tick => exact Option.some.inj stepped ▸ flowing
    | contactResync publication | event publication disconnected =>
      obtain rfl := Option.some.inj stepped
      exact .of_turn (single publication) permitted
    | notice snapshot =>
      obtain ⟨⟨notice, notices⟩, received, rfl⟩ := Option.map_eq_some_iff.mp stepped
      have fits (required : Bool) :
          (if required then snapshot.publications else []).length ≤ capacity := by
        cases required with
        | true => exact permitted
        | false => exact Nat.zero_le _
      exact .of_turn (fits _) (.inl (Channel.not_full_of_recv received))
    | fails =>
      obtain rfl := Option.some.inj stepped
      exact ⟨Nat.zero_le _, fun _ _ => gateway.publications.bounded⟩
  | publish =>
    simp only [step] at stepped
    split at stepped
    · rename_i publication rest last publishes alive
      obtain ⟨publications, sent, rfl⟩ := Option.map_eq_some_iff.mp stepped
      have before : gateway.unsent.length = rest.length + 1 := by simp [unsent, publishes]
      have grown : publications.items.length = gateway.publications.items.length + 1 := by
        simp [Channel.items_of_send sent]
      refine ⟨?_, fun holds full => ?_⟩
      · have fits := flowing.fits
        rw [unsent_moveBridge]
        omega
      · have room := flowing.room holds full
        rw [unsent_moveBridge]
        change publications.items.length + rest.length ≤ capacity
        omega
    · cases stepped
  | cancel =>
    obtain rfl := Option.some.inj stepped
    exact ⟨flowing.fits, flowing.room⟩
  | leaveRunner =>
    simp only [step] at stepped
    split at stepped
    · obtain rfl := Option.some.inj stepped
      exact .of_free flowing.fits rfl
    · cases stepped
  | leaveBridge =>
    simp only [step] at stepped
    split at stepped
    · obtain rfl := Option.some.inj stepped
      exact ⟨Nat.zero_le _, fun _ _ => gateway.publications.bounded⟩
    · cases stepped

theorem one_le_of_validateChannelCapacity {channelCapacity : Nat}
    (valid : validateChannelCapacity channelCapacity = .ok ()) : 1 ≤ channelCapacity := by
  unfold validateChannelCapacity at valid
  split at valid
  case isTrue accepted => exact accepted.1
  case isFalse => cases valid

/-- In a run of permitted turns the two never wait for each other. -/
theorem run_unblocked {allowSend : Bool} {snapshot : Snapshot π} {actions : List (Action κ ρ π)}
    {gateway : Gateway capacity κ ρ π} (valid : validateChannelCapacity capacity = .ok ())
    (fits : snapshot.publications.length ≤ capacity)
    (ran : Transition.run (step allowSend) (start snapshot) actions = some gateway)
    (permits : Transition.Permits (step allowSend) Permitted
      (start snapshot : Gateway capacity κ ρ π) actions) :
    ¬ gateway.Blocked := by
  have waiting : (start snapshot : Gateway capacity κ ρ π).unsent = snapshot.publications :=
    unsent_moveBridge (start snapshot : Gateway capacity κ ρ π) false snapshot.publications
  have initial : (start snapshot : Gateway capacity κ ρ π).Flowing := .of_free (waiting ▸ fits) rfl
  have flowing : gateway.Flowing :=
    Transition.run_keeps (step_flowing (one_le_of_validateChannelCapacity valid)) permits ran
      initial
  exact flowing.not_blocked

/-- A command and an event, with one place in each channel. -/
theorem single_place_unblocked :
    let actions : List (Action Unit Unit Unit) :=
      [.deliver .connected, .takeNotice, .handleNetworkNotice, .sendNotice, .operate true,
        .operate true, .turn (.notice ⟨none, none, none⟩), .deliver (.publish (.ok ())),
        .takeNotice, .handleNetworkNotice, .turn (.event (some ()) false), .sendNotice, .publish]
    ∃ gateway : Gateway 1 Unit Unit Unit,
      Transition.run (step true) (start ⟨none, none, none⟩) actions = some gateway ∧
        ¬ gateway.Blocked := by
  intro actions
  have permits : Transition.Permits (step true) Permitted
      (start ⟨none, none, none⟩ : Gateway 1 Unit Unit Unit) actions := by decide
  have ran := (Option.some_get (show (Transition.run (step true)
      (start ⟨none, none, none⟩ : Gateway 1 Unit Unit Unit) actions).isSome by decide)).symm
  exact ⟨_, ran, run_unblocked (by decide) (by decide) ran permits⟩

/-! ## How the two come to wait for each other -/

/-- Both tasks are at their `select`, and only notices may be waiting. -/
structure Idle (gateway : Gateway capacity κ ρ π) : Prop where
  alive : gateway.cancelled = false
  publications : gateway.publications.items = []
  network : gateway.network.items = []
  runner : gateway.runner = .selecting
  bridge : gateway.bridge = .selecting

/-- The runner takes a command and comes to its send. -/
theorem Idle.reaches_sending (idle : gateway.Idle) (allowSend : Bool) (filled : 1 ≤ capacity)
    (command : κ) :
    ∃ network : Channel capacity (NetworkNotice κ ρ), network.items = [] ∧
      Transition.Reaches (step allowSend) gateway
        { gateway with network, runner := .sending (.command command) } := by
  have room : gateway.network.items.length < capacity := by
    rw [idle.network]
    exact filled
  obtain ⟨loaded, delivered, waiting⟩ := Channel.send_of_room room (.publish (.ok command))
  obtain ⟨network, received, empty⟩ := Channel.recv_of_items
    (waiting.trans (congrArg (· ++ [_]) idle.network))
  have delivers : gateway.step allowSend (.deliver (.publish (.ok command))) =
      some { gateway with network := loaded } := by simp [step, deliver, delivered]
  have takes : step allowSend { gateway with network := loaded } .takeNotice =
      some { gateway with network, runner := .handling (.publish (.ok command)) } := by
    simp [step, idle.runner, idle.alive, idle.publications, received]
  exact ⟨network, empty,
    (Transition.Reaches.single _ delivers).trans ((Transition.Reaches.single _ takes).trans
      (.single .handleNetworkNotice rfl))⟩

/-- Commands that the bridge does not take up fill the channel of notices. -/
theorem Idle.reaches_full (idle : gateway.Idle) (allowSend : Bool) (filled : 1 ≤ capacity)
    (command : κ) :
    ∃ reached, Transition.Reaches (step allowSend) gateway reached ∧ reached.Idle ∧
      reached.notices.Full := by
  refine Transition.Reaches.climb (fun gateway => gateway.notices.items.length)
    (fun state idle below => ?_) idle gateway.notices.bounded
  obtain ⟨network, empty, sending⟩ := idle.reaches_sending allowSend filled command
  obtain ⟨notices, sent, grown⟩ := Channel.send_of_room below (.command command)
  have sends : step allowSend
      { state with network, runner := .sending (.command command) } .sendNotice =
        some { state with network, notices, runner := .selecting } := by
    simp [step, idle.alive, sent, operationsAfter, Runner.resume]
  exact ⟨_, sending.trans (.single _ sends),
    ⟨idle.alive, idle.publications, empty, rfl, idle.bridge⟩, by simp [grown]⟩

/-- The runner waits in its send, and the bridge is at its `select`. -/
structure Waiting (gateway : Gateway capacity κ ρ π) : Prop where
  alive : gateway.cancelled = false
  notifies : ∃ notice, gateway.runner = .sending notice
  noticesFull : gateway.notices.Full
  bridge : gateway.bridge = .selecting

theorem Waiting.takes_event (waiting : gateway.Waiting) (publication : π) :
    gateway.step allowSend (.turn (.event (some publication) false)) =
      some { gateway with bridge := .publishing publication [] false } := by
  simp [step, waiting.bridge, turn, moveBridge, Bridge.resume, Bridge.isStopped]

/-- Device events fill the channel of publications. -/
theorem Waiting.reaches_full (waiting : gateway.Waiting) (allowSend : Bool) (publication : π) :
    ∃ reached, Transition.Reaches (step allowSend) gateway reached ∧ reached.Waiting ∧
      reached.publications.Full := by
  refine Transition.Reaches.climb (fun gateway => gateway.publications.items.length)
    (fun state waiting below => ?_) waiting gateway.publications.bounded
  obtain ⟨publications, sent, grown⟩ := Channel.send_of_room below publication
  have publishes : step allowSend
      { state with bridge := .publishing publication [] false } .publish =
        some { state with publications, bridge := .selecting } := by
    simp [step, waiting.alive, sent, moveBridge, Bridge.resume, Bridge.isStopped]
  exact ⟨_,
    (Transition.Reaches.single _ (waiting.takes_event publication)).trans (.single _ publishes),
    ⟨waiting.alive, waiting.notifies, waiting.noticesFull, rfl⟩, by simp [grown]⟩

/-- Whatever the capacity, commands and then events block the two. -/
theorem reaches_blocked (allowSend : Bool) (filled : 1 ≤ capacity) (command : κ)
    (publication : π) :
    ∃ reached : Gateway capacity κ ρ π,
      Transition.Reaches (step allowSend) (start {}) reached ∧ reached.Blocked := by
  have initial : (start {} : Gateway capacity κ ρ π).Idle := ⟨rfl, rfl, rfl, rfl, rfl⟩
  obtain ⟨laden, loads, idle, full⟩ := initial.reaches_full allowSend filled command
  obtain ⟨network, -, sending⟩ := idle.reaches_sending allowSend filled command
  have waiting : Waiting { laden with network, runner := .sending (.command command) } :=
    ⟨idle.alive, ⟨_, rfl⟩, full, idle.bridge⟩
  obtain ⟨stuffed, publishes, waiting, stuck⟩ := waiting.reaches_full allowSend publication
  exact ⟨_, loads.trans (sending.trans (publishes.trans
      (.single _ (waiting.takes_event publication)))),
    ⟨waiting.alive, ⟨_, _, _, rfl⟩, stuck, waiting.notifies, waiting.noticesFull⟩⟩

/-- With the default capacity, and from there on nothing but a cancellation moves either. -/
theorem default_capacity_blocks :
    validateChannelCapacity defaultChannelCapacity = .ok () ∧
      ∃ gateway : Gateway defaultChannelCapacity Unit Unit Unit,
        Transition.Reaches (step true) (start {}) gateway ∧ gateway.Blocked ∧
          ∀ actions later, .cancel ∉ actions →
            Transition.run (step true) gateway actions = some later → later.Blocked := by
  have filled : 1 ≤ defaultChannelCapacity := by decide
  obtain ⟨gateway, reaches, blocked⟩ := reaches_blocked (ρ := Unit) true filled () ()
  refine ⟨rfl, gateway, reaches, blocked, fun actions later uncancelled ran => ?_⟩
  have permits : Transition.Permits (step true) (fun _ action => action ≠ .cancel) gateway
      actions :=
    .of_forall (fun action member => ne_of_mem_of_not_mem member uncancelled) gateway
  exact Transition.run_keeps step_blocked permits ran blocked

end Gateway

end Meshquill.Mqtt
