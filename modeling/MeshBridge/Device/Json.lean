import MeshBridge.Attribute.Json
import MeshBridge.Decimal.Numeral
import MeshBridge.Device.Tree
/-!
Devices in JSON. Tables are objects whose keys are decimal numerals, in the order of the numbers;
where a key is repeated the last entry counts.
-/

set_option autoImplicit false
set_option relaxedAutoImplicit false

namespace MeshBridge

/-- A key that is a number below `bound`, written without a sign and without leading zeros. -/
def Json.key? (bound : Nat) (text : String) : Option Nat :=
  match text.toList with
  | [] => none
  | '0' :: _ :: _ => none
  | digits => (Decimal.natOfDigits? digits).filter (· < bound)

/-- The entries of an object read with their keys. -/
def Json.entries? {κ α : Type} (key : String → Option κ) (read : Json → Option α) :
    Json → Option (List (κ × α))
  | .obj fields => fields.mapM fun (name, value) ↦ do some (← key name, ← read value)
  | _ => none

/-- The entries of a table under numerals for keys. -/
def Json.ofTable {κ α : Type} [Ord κ] (key : κ → Nat) (write : α → Json) (t : Table κ α) : Json :=
  .obj (t.entries.map fun (k, a) ↦ (toString (key k), write a))

def key8? (name : String) : Option UInt8 := (Json.key? UInt8.size name).map Nat.toUInt8

def key16? (name : String) : Option UInt16 := (Json.key? UInt16.size name).map Nat.toUInt16

namespace Attribute

def toJson (a : Attribute) : Json :=
  .obj [("id", .int a.id.toNat), ("value", a.value.toJson), ("reportable", .bool a.reportable)]

def ofJson? (j : Json) : Option Attribute := do
  let [id, value, reportable] ← j.record? ["id", "value", "reportable"] | none
  some ⟨← Json.required Json.uint16? id, ← Json.required (AttributeValue.ofJson? .json) value,
    ← Json.required Json.bool? reportable⟩

end Attribute

namespace Cluster

def toJson (c : Cluster) : Json :=
  .obj [("id", .int c.id.toNat), ("is_server", .bool c.isServer),
    ("attributes", .ofTable UInt16.toNat Attribute.toJson c.attributes)]

def ofJson? (j : Json) : Option Cluster := do
  let [id, isServer, attributes] ← j.record? ["id", "is_server", "attributes"] | none
  some ⟨← Json.required Json.uint16? id, ← Json.required Json.bool? isServer,
    .ofList (← Json.required (Json.entries? key16? Attribute.ofJson?) attributes)⟩

end Cluster

namespace Endpoint

def toJson (e : Endpoint) : Json :=
  .obj [("id", .int e.id.toNat), ("profile_id", .int e.profile.toNat),
    ("device_id", .int e.deviceType.toNat),
    ("clusters", .ofTable UInt16.toNat Cluster.toJson e.clusters)]

def ofJson? (j : Json) : Option Endpoint := do
  let [id, profile, deviceType, clusters] ←
    j.record? ["id", "profile_id", "device_id", "clusters"] | none
  some ⟨← Json.required Json.uint8? id, ← Json.required Json.uint16? profile,
    ← Json.required Json.uint16? deviceType,
    .ofList (← Json.required (Json.entries? key16? Cluster.ofJson?) clusters)⟩

end Endpoint

namespace Node

/-- The fields of a node but for the time it was last seen. -/
def identityFields (n : Node) : List (String × Json) :=
  [("ieee", n.device.toJson), ("network_address", .int n.address.toNat),
    ("manufacturer", .str n.manufacturer), ("model", .str n.model), ("online", .bool n.online)]

def toJson (n : Node) : Json :=
  .obj (n.identityFields ++ [("last_seen", .int n.lastSeen.toInt),
    ("endpoints", .ofTable UInt8.toNat Endpoint.toJson n.endpoints)])

def ofJson? (j : Json) : Option Node := do
  let [device, address, manufacturer, model, online, lastSeen, endpoints] ←
    j.record? ["ieee", "network_address", "manufacturer", "model", "online", "last_seen",
      "endpoints"] | none
  some ⟨← Json.required Eui64.ofJson? device, ← Json.required Json.uint16? address,
    ← Json.required Json.text? manufacturer, ← Json.required Json.text? model,
    ← Json.required Json.bool? online, ← Json.required Json.int64? lastSeen,
    .ofList (← Json.required (Json.entries? key8? Endpoint.ofJson?) endpoints)⟩

end Node

end MeshBridge
