import MeshBridge.Bus.Basic
import MeshBridge.Capability.Verbs
import MeshBridge.Coordinator.Call
import MeshBridge.Correction.Json
import MeshBridge.Device.Request
import MeshBridge.Mqtt.Bridge
/-!
The gateway as a whole: a coordinator, a bus for its events, and a bridge to a broker. Everything
that can be done to it is an action. Handlers on the bus may be scripts of actions, so that what is
done in the midst of a publication can be studied.
-/

set_option autoImplicit false
set_option relaxedAutoImplicit false

namespace MeshBridge.Gateway

/-- What can be done to a gateway. -/
inductive Action where
  | call (call : Coordinator.Call)
  | control (control : RadioControl)
  /-- Lets time pass, in milliseconds. -/
  | wait (ticks : Nat)
  /-- Runs the poller that gives up old commands. -/
  | poll
  | carryOut (target : Target) (intent : Intent)
  | paint (target : Target) (hue saturation value : UInt8)
  | read (target : Target) (capability : Capability)
  | correct (device : Eui64) (capability : Capability) (value : CapabilityValue)
  | reportingFor (device : Eui64) (capability : Capability)
  | measure (target : Target) (reading : Reading)
  | attach
  | detach
  /-- A message came in from the broker. -/
  | receive (topic : String) (payload : List UInt8)
  | topics
  | snapshot
  | publishDevices
  /-- The payloads of the messages to a topic. -/
  | messagesOn (topic : String)
  | clearMessages
  | publish (event : Event)
  | handlerCount (kind : EventKind)
  /-- Subscribes a script of named actions. -/
  | subscribe (kind : EventKind) (script : List (String × Action))
  /-- Breaks off the script. -/
  | breakOff
  | registry (request : RegistryRequest)
  | address (device : Eui64)
  | network
  | persistedNetwork
  /-- Stores a value among the parameters of the network. -/
  | store (key : String) (value : StoredValue)
  | corrections
  /-- An action that could not be read as one. -/
  | refused (f : Fault)

/-- A handler on the bus of a gateway. -/
inductive Handler where
  /-- Keeps a record of events. -/
  | record
  | broker
  | script (steps : List (String × Action))

/-- What an action gives. -/
inductive Reply where
  | done
  | count (n : Nat)
  | issued (id : CorrelationId)
  | issuedAll (ids : List CorrelationId)
  | value (v : Option CapabilityValue)
  | corrected (c : Correction.Corrected)
  | reporting (r : Reporting)
  | measured (m : Option Measured)
  | topics (base commands : String)
  | devices (ds : List DeviceSnapshot)
  | payloads (ps : List String)
  | registry (r : RegistryReply)
  | address (a : Option NetworkAddress)
  | network (n : Option NetworkInfo)
  | corrections (es : List Correction.Entry)

/-- Why an action gave nothing. -/
inductive Failure where
  | fault (f : Fault)
  /-- A series of commands that stopped part way. -/
  | batch (f : BatchFault CorrelationId)
  /-- A part of the gateway, or a level of a device tree, is not there. -/
  | missing
  /-- The script broke off. -/
  | brokenOff

abbrev Outcome := Except Failure Reply

/-- What was seen to happen. -/
inductive TraceEntry where
  | event (e : Event)
  | message (m : MqttMessage)
  /-- A script finished a named action. -/
  | did (name : String) (outcome : Outcome)

end Gateway

/-- A gateway over a radio with states in `ρ` and a store with states in `σ`. -/
structure Gateway (ρ σ : Type) where
  coordinator : Coordinator ρ σ
  bus : EventBus Gateway.Handler
  broker : MqttBridge
  /-- Whether messages reach the broker. -/
  brokerListens : Bool
  /-- The messages that reached the broker, oldest first. -/
  messages : Array MqttMessage
  now : Moment
  /-- The number of publications under way. -/
  depth : Nat
  /-- What was seen to happen, oldest first. -/
  trace : Array Gateway.TraceEntry

namespace Gateway

variable {ρ σ : Type}

/-- What a gateway is made of. -/
structure Parts (ρ σ : Type) where
  adapter : AdapterConfig
  eventBus : EventBusConfig
  mqtt : MqttConfig
  corrections : CorrectionTable
  radio : ρ
  store : Option σ

def ofParts (p : Parts ρ σ) : Gateway ρ σ where
  coordinator := .new p.adapter p.corrections p.radio p.store
  bus := .withLimits p.eventBus.maxHandlers p.eventBus.maxDepth
  broker := .new p.mqtt
  brokerListens := true
  messages := #[]
  now := ⟨0, 0⟩
  depth := 0
  trace := #[]

/-- Subscribes a recorder to events of all kinds. -/
def recorded (g : Gateway ρ σ) : Except Fault (Gateway ρ σ) := do
  let bus ← EventKind.all.foldlM (fun bus kind ↦ (bus.subscribe kind .record).map (·.1)) g.bus
  .ok { g with bus }

def note (g : Gateway ρ σ) (t : TraceEntry) : Gateway ρ σ := { g with trace := g.trace.push t }

/-- Hands a message to the broker. -/
def post (g : Gateway ρ σ) (m : MqttMessage) : Gateway ρ σ :=
  if g.brokerListens then { g.note (.message m) with messages := g.messages.push m } else g

end Gateway

end MeshBridge
