import MeshBridge.Bus.Basic
import MeshBridge.Json.Writer
import MeshBridge.Mqtt.Message
import MeshBridge.Mqtt.SetRequest
import MeshBridge.Mqtt.Snapshot
/-!
The bridge to a broker. While it is attached to the bus, each event of five kinds becomes at most
one message; the payload of a changed attribute is read anew and not taken from the event.
-/

set_option autoImplicit false
set_option relaxedAutoImplicit false

namespace MeshBridge

structure MqttBridge where
  baseTopic : String
  retainAvailability : Bool
  /-- The subscriptions of an attached bridge. -/
  subscriptions : List Nat
  deriving DecidableEq, Repr

namespace MqttBridge

variable {α ρ σ : Type}

def new (config : MqttConfig) : MqttBridge :=
  ⟨Topic.trimmed config.baseTopic, config.retainAvailability, []⟩

/-- The kinds of events that are told to the broker. -/
def kinds : List EventKind := [.deviceJoined, .deviceLeft, .attributeChanged, .stackUp, .stackDown]

/-! ### Attachment -/

/-- Ends the subscriptions with the given numbers. -/
def unsubscribeAll (bus : EventBus α) (ids : List Nat) : EventBus α :=
  ids.foldl (fun bus id ↦ (bus.unsubscribe id).1) bus

/-- Subscribes a handler to kinds in turn. If one is refused, those made before are ended. -/
def subscribeAll (bus : EventBus α) (handler : α) (made : List Nat) :
    List EventKind → EventBus α × Except Fault (List Nat)
  | [] => (bus, .ok made)
  | kind :: rest =>
    match bus.subscribe kind handler with
    | .ok (bus, id) => subscribeAll bus handler (made ++ [id]) rest
    | .error f => (unsubscribeAll bus made, .error f)

def attach (b : MqttBridge) (bus : EventBus α) (handler : α) :
    MqttBridge × EventBus α × Except Fault Unit :=
  if b.subscriptions.isEmpty then
    match subscribeAll bus handler [] kinds with
    | (bus, .ok ids) => ({ b with subscriptions := ids }, bus, .ok ())
    | (bus, .error f) => (b, bus, .error f)
  else (b, bus, .error (.alreadyExists "MQTT bridge already attached"))

def detach (b : MqttBridge) (bus : EventBus α) : MqttBridge × EventBus α :=
  ({ b with subscriptions := [] }, unsubscribeAll bus b.subscriptions)

/-! ### Messages -/

/-- The message that tells of an event. -/
def message? (b : MqttBridge) (c : Coordinator ρ σ) : Event → Option MqttMessage
  | .deviceJoined device _ =>
    some ⟨Topic.availability b.baseTopic device, "online", b.retainAvailability⟩
  | .deviceLeft device =>
    some ⟨Topic.availability b.baseTopic device, "offline", b.retainAvailability⟩
  | .attributeChanged device endpoint cluster attr _ => do
    let capability ← Capability.ofAttributeId? cluster attr
    let value ← (← (c.read ⟨device, endpoint⟩ capability).toOption)
    some ⟨Topic.capabilityState b.baseTopic device capability.name,
      Json.compress (.obj [("value", value.toJson), ("endpoint", .int endpoint.toNat)]), false⟩
  | .stackUp panId channel =>
    some ⟨Topic.bridgeState b.baseTopic,
      Json.compress (.obj [("state", .str "online"), ("pan_id", .int panId.toNat),
        ("channel", .int channel.toNat)]), true⟩
  | .stackDown reason =>
    some ⟨Topic.bridgeState b.baseTopic,
      Json.compress (.obj [("state", .str "offline"), ("reason", .str reason)]), true⟩
  | _ => none

/-- The message that holds the state of every device. -/
def devicesMessage (b : MqttBridge) (c : Coordinator ρ σ) : MqttMessage :=
  ⟨Topic.bridgeDevices b.baseTopic, Json.compress (.arr (c.snapshot.map DeviceSnapshot.toJson)),
    true⟩

/-- What a message from the broker asks for. -/
def plan (b : MqttBridge) (c : Coordinator ρ σ) (topic : String) (payload : List UInt8) :
    Except Fault (List (Target × Intent)) := do
  let device ← Topic.device b.baseTopic topic
  SetRequest.plan c device (← SetRequest.ofBytes payload)

end MqttBridge

end MeshBridge
