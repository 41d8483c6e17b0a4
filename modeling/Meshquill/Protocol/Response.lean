import Meshquill.Protocol.Command
import Meshquill.Protocol.Parse

/-!
# Responses

Which packets answer which command. Nothing on the wire says so: a response carries no tag,
and a device may send other packets between its parts. A response ends with one packet. Before it,
a contact listing has parts that belong to the result, and a request to a remote node is first
accepted with `MSG_SENT`.
-/
namespace Meshquill

/-- What a packet is to the response of a command. -/
inductive Role where
  | last
  | part
  | other
deriving DecidableEq

/-- Messages and ACKs: packets that no command may take as its own response. -/
def Packet.isDelivery : Packet → Bool
  | .contactMsg _ | .channelMsg _ | .ack _ => true
  | _ => false

/-- What holds of message and ACK packets holds of every delivery. -/
theorem Packet.forall_delivery {property : Packet → Prop}
    (contact : ∀ message, property (.contactMsg message))
    (channel : ∀ message, property (.channelMsg message)) (ack : ∀ ack, property (.ack ack))
    (packet : Packet) (delivery : packet.isDelivery = true) : property packet := by
  cases packet <;> first
    | exact contact _
    | exact channel _
    | exact ack _
    | exact absurd delivery Bool.false_ne_true

/-- Packets that a device sends of its own accord. The results of remote requests are not among
them: each belongs to the command that asked for it. -/
def Packet.isUnsolicited : Packet → Bool
  | .ack _ | .messagesWaiting | .controlData _ | .unknown _ _ => true
  | _ => false

namespace CommandCode

/-- Commands that are answered with `OK`. -/
def isConfirmed : CommandCode → Bool
  | setDeviceTime | sendSelfAdvert | setAdvertName | setAdvertLatLon | setTxPower
  | setRadioParams | setTuningParams | resetPath | addUpdateContact | shareContact
  | importContact | setAutoAddConfig | setCustomVar | setPathHashMode | setFloodScope
  | setDefaultFloodScope | setChannel | removeContact | logout | sendControlData
  | setDevicePin | sendChannelTxtMsg | importPrivateKey | signData => true
  | _ => false

/-- Requests to a remote node, which are answered with `MSG_SENT` and later with a result. -/
def isRemote : CommandCode → Bool
  | sendLogin | sendStatusReq | pathDiscovery | binaryReq | sendAnonReq => true
  | _ => false

/-- Commands that are answered with a value, and may be disabled. -/
def isQuery : CommandCode → Bool
  | getDeviceTime | getBattAndStorage | getTuningParams | exportContact | getContactByKey
  | getAdvertPath | getAutoAddConfig | getCustomVars | getStats | getAllowedRepeatFreq
  | getDefaultFloodScope | getChannel | sendTelemetryReq | signStart | signFinish
  | exportPrivateKey => true
  | _ => false

/-- Commands that are not answered: the device restarts. -/
def isSilent : CommandCode → Bool
  | reboot | factoryReset => true
  | _ => false

variable (code : CommandCode)

/-- Whether this packet ends the response to a command. -/
def ends : Packet → Bool
  | .ok _ => code.isConfirmed || code == hasConnection
  | .disabled => code.isConfirmed || code.isQuery || code.isRemote
  | .error _ => !code.isSilent
  | .msgSent .. => code == sendTxtMsg
  | .loginSuccess _ | .loginFailed _ => code == sendLogin
  | .remoteStatus _ => code == sendStatusReq
  | .pathDiscovery _ => code == pathDiscovery
  | .binaryResponse _ => code == binaryReq || code == sendAnonReq
  | .selfInfo _ => code == appStart
  | .contactEnd _ => code == getContacts
  | .noMoreMsgs => code == getContacts || code == syncNextMessage
  | .contactMsg _ | .channelMsg _ => code == syncNextMessage
  | .deviceInfo _ => code == deviceQuery
  | .currentTime _ => code == getDeviceTime
  | .battery _ => code == getBattAndStorage
  | .tuningParams _ => code == getTuningParams
  | .contactUri _ => code == exportContact
  | .contact _ => code == getContactByKey
  | .advertPath _ => code == getAdvertPath
  | .autoAddConfig _ => code == getAutoAddConfig
  | .customVariables _ => code == getCustomVars
  | .deviceStats _ => code == getStats
  | .allowedRepeatFrequencies _ => code == getAllowedRepeatFreq
  | .defaultFloodScope _ => code == getDefaultFloodScope
  | .channelInfo _ => code == getChannel
  | .telemetryResponse _ => code == sendTelemetryReq
  | .signStart _ => code == signStart
  | .signature _ => code == signFinish
  | .privateKey _ => code == exportPrivateKey
  | .contactStart _ | .ack _ | .messagesWaiting | .controlData _ | .unknown _ _ => false

/-- Whether this packet is a part of a response that goes on. -/
def continues : Packet → Bool
  | .contact _ => code == getContacts
  | .msgSent .. => code.isRemote
  | _ => false

def role (packet : Packet) : Role :=
  if code.ends packet then .last else if code.continues packet then .part else .other

/-- A delivery belongs to no response but that of a synchronisation. -/
theorem role_of_delivery {code : CommandCode} (ordinary : code.toU8 ≠ 0x0a) {packet : Packet}
    (delivery : packet.isDelivery = true) : code.role packet = .other := by
  have different : (code == syncNextMessage) = false := by
    refine beq_false_of_ne ?_
    rintro rfl
    exact ordinary rfl
  have others : ∀ packet : Packet, packet.isDelivery = true → code.role packet = .other :=
    Packet.forall_delivery (by simp [role, ends, continues, different])
      (by simp [role, ends, continues, different]) fun _ => rfl
  exact others packet delivery

/-- Packets of these kinds belong to no response at all. -/
theorem role_of_unsolicited {packet : Packet}
    (unsolicited : packet.isUnsolicited = true) : code.role packet = .other := by
  cases packet <;> first
    | rfl
    | exact absurd unsolicited Bool.false_ne_true

/-- Raw packets that may answer a command: none that ends the response comes before the last.
Packets that do not parse may stand anywhere. -/
def Answers (code : CommandCode) : List Bytes → Prop
  | [] => True
  | raw :: rest =>
    (∀ packet, Packet.parse raw = .ok packet → code.role packet = .last → rest = []) ∧
      code.Answers rest

end CommandCode

end Meshquill
