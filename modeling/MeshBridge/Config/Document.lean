import MeshBridge.Config.Basic
import MeshBridge.Json.Record
import MeshBridge.Toml.Normal
import MeshBridge.Toml.Reader
import MeshBridge.Toml.Writer
/-!
Configurations as documents. Every setting that a document leaves out has its usual value, and
settings that are not known are passed over.
-/

set_option autoImplicit false
set_option relaxedAutoImplicit false

namespace MeshBridge

/-- A size or a time in settings. -/
def Json.size? (j : Json) : Option Nat := j.nat? UInt64.size

namespace AdapterConfig

def ofJson? (j : Json) : Option AdapterConfig := do
  let [maxDevices, maxPending, commandTimeout, sweepInterval, defaultTransition] ←
    j.record? ["max_devices", "max_pending", "command_timeout_ms", "sweep_interval_ms",
      "default_transition_ds"] | none
  let usual : AdapterConfig := default
  some ⟨← Json.orElse usual.maxDevices Json.size? maxDevices,
    ← Json.orElse usual.maxPending Json.size? maxPending,
    ← Json.orElse usual.commandTimeout Json.size? commandTimeout,
    ← Json.orElse usual.sweepInterval Json.size? sweepInterval,
    ← Json.orElse usual.defaultTransition Json.uint16? defaultTransition⟩

def entries (c : AdapterConfig) : List (String × Toml) :=
  [("max_devices", .integer c.maxDevices), ("max_pending", .integer c.maxPending),
    ("command_timeout_ms", .integer c.commandTimeout),
    ("sweep_interval_ms", .integer c.sweepInterval),
    ("default_transition_ds", .integer c.defaultTransition.toNat)]

end AdapterConfig

namespace EventBusConfig

def ofJson? (j : Json) : Option EventBusConfig := do
  let [maxHandlers, maxDepth] ←
    j.record? ["max_handlers_per_event", "max_publish_depth"] | none
  let usual : EventBusConfig := default
  some ⟨← Json.orElse usual.maxHandlers Json.size? maxHandlers,
    ← Json.orElse usual.maxDepth Json.size? maxDepth⟩

def entries (c : EventBusConfig) : List (String × Toml) :=
  [("max_handlers_per_event", .integer c.maxHandlers), ("max_publish_depth", .integer c.maxDepth)]

end EventBusConfig

namespace MqttConfig

def ofJson? (j : Json) : Option MqttConfig := do
  let [baseTopic, retainAvailability] ← j.record? ["base_topic", "retain_availability"] | none
  let usual : MqttConfig := default
  some ⟨← Json.orElse usual.baseTopic Json.text? baseTopic,
    ← Json.orElse usual.retainAvailability Json.bool? retainAvailability⟩

def entries (c : MqttConfig) : List (String × Toml) :=
  [("base_topic", .text c.baseTopic), ("retain_availability", .boolean c.retainAvailability)]

end MqttConfig

namespace StorageConfig

def ofJson? (j : Json) : Option StorageConfig := do
  let [path] ← j.record? ["path"] | none
  let usual : StorageConfig := default
  some ⟨← Json.orElse usual.path (Json.nullable? Json.text?) path⟩

def entries (c : StorageConfig) : List (String × Toml) :=
  c.path.toList.map fun path ↦ ("path", .text path)

end StorageConfig

namespace BridgeConfig

/-- The values of an array. -/
def items? : Toml → Option (List Toml)
  | .array items => some items
  | _ => none

/-- A section may be an array of its first settings in order. What such an array holds beyond the
`size` settings of the section is passed over. -/
def settings (size : Nat) : Json → Json
  | .arr items => .arr (items.take size)
  | j => j

/-- Reads a document without checking the settings. -/
def ofToml? (document : Toml) : Option BridgeConfig := do
  let [adapter, eventBus, mqtt, storage] ←
    document.toJson.record? ["adapter", "event_bus", "mqtt", "storage"] | none
  let corrections ← match document.field? "quirks" with
    | none => some []
    | some v => (← items? v).mapM Toml.normal?
  some ⟨← Json.orElse default (AdapterConfig.ofJson? <| settings 5 ·) adapter,
    ← Json.orElse default (EventBusConfig.ofJson? <| settings 2 ·) eventBus,
    ← Json.orElse default (MqttConfig.ofJson? <| settings 2 ·) mqtt,
    ← Json.orElse default (StorageConfig.ofJson? <| settings 1 ·) storage, corrections⟩

/-- Reads the text of a document and checks the settings. -/
def ofText (text : String) : Except Fault BridgeConfig := do
  match ofToml? (← Toml.parse text) with
  | none => .error (.config Toml.malformed)
  | some c =>
    c.validate
    .ok c

/-- The numbers among the settings that a document may be unable to hold. -/
def sizes (c : BridgeConfig) : List Nat :=
  [c.adapter.maxDevices, c.adapter.maxPending, c.adapter.commandTimeout, c.adapter.sweepInterval,
    c.eventBus.maxHandlers, c.eventBus.maxDepth]

def entries (c : BridgeConfig) : List (String × Toml) :=
  [("adapter", .table c.adapter.entries), ("event_bus", .table c.eventBus.entries),
    ("mqtt", .table c.mqtt.entries), ("storage", .table c.storage.entries),
    ("quirks", .array c.corrections)]

/-- The text of the document. Numbers that no document can hold are refused. -/
def render (c : BridgeConfig) : Except Fault String :=
  if c.sizes.all fun (n : Nat) ↦ n ≤ Int64.maxValue.toInt then .ok (Toml.document c.entries)
  else .error (.serialization "integer out of range")

def toJson (c : BridgeConfig) : Json :=
  .obj [("adapter", (Toml.table c.adapter.entries).toJson),
    ("event_bus", (Toml.table c.eventBus.entries).toJson),
    ("mqtt", (Toml.table c.mqtt.entries).toJson),
    ("storage", .obj [("path", .ofOption .str c.storage.path)]),
    ("quirks", (Toml.array c.corrections).toJson)]

end BridgeConfig

end MeshBridge
