import MeshBridge.Fault
import MeshBridge.Text.Quoted
import MeshBridge.Toml.Basic
/-!
Settings of the bridge, their usual values, and the checks that every configuration has to pass.
-/

set_option autoImplicit false
set_option relaxedAutoImplicit false

namespace MeshBridge

/-- Settings of the coordinator. Times are in milliseconds, the transition in tenths of a second. -/
structure AdapterConfig where
  maxDevices : Nat
  maxPending : Nat
  commandTimeout : Nat
  sweepInterval : Nat
  defaultTransition : UInt16
  deriving DecidableEq, Repr

structure EventBusConfig where
  maxHandlers : Nat
  maxDepth : Nat
  deriving DecidableEq, Repr

structure MqttConfig where
  baseTopic : String
  /-- Whether the broker keeps the last availability of each device. -/
  retainAvailability : Bool
  deriving DecidableEq, Repr

structure StorageConfig where
  /-- The file of the store; without one nothing outlives a run. -/
  path : Option String
  deriving DecidableEq, Repr

structure BridgeConfig where
  adapter : AdapterConfig
  eventBus : EventBusConfig
  mqtt : MqttConfig
  storage : StorageConfig
  /-- Entries of the correction table as they were written, but for the order of their keys. -/
  corrections : List Toml

instance : Inhabited AdapterConfig := ⟨⟨64, 16, 5000, 1000, 0⟩⟩

instance : Inhabited EventBusConfig := ⟨⟨10, 8⟩⟩

instance : Inhabited MqttConfig := ⟨⟨"zigbee2mqtt", true⟩⟩

instance : Inhabited StorageConfig := ⟨⟨some "data/zigbridge.redb"⟩⟩

instance : Inhabited BridgeConfig := ⟨⟨default, default, default, default, []⟩⟩

namespace BridgeConfig

/-- Refuses settings under which the bridge could not work, in the order of the sections. -/
def validate (c : BridgeConfig) : Except Fault Unit :=
  if c.adapter.maxDevices = 0 ∨ c.adapter.maxPending = 0 then
    .error (.config "table capacities must be non-zero")
  else if c.adapter.commandTimeout = 0 ∨ c.adapter.sweepInterval = 0 then
    .error (.config "command timeout and sweep interval must be non-zero")
  else if c.eventBus.maxHandlers = 0 ∨ c.eventBus.maxDepth = 0 then
    .error (.config "event bus limits must be non-zero")
  else if c.mqtt.baseTopic.isEmpty ∨ c.mqtt.baseTopic.toList.any (fun ch ↦ ch = '+' ∨ ch = '#') then
    .error (.config ("invalid MQTT base topic: " ++ Text.quoted c.mqtt.baseTopic))
  else .ok ()

end BridgeConfig

end MeshBridge
