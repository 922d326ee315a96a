import MeshBridge.Capability.Access
import MeshBridge.Capability.Json
import MeshBridge.Device.Json
/-!
The state of every device with the last known values of its capabilities. The capabilities of the
first endpoint go by their names, those of the others by their names and the endpoint.
-/

set_option autoImplicit false
set_option relaxedAutoImplicit false

namespace MeshBridge

structure DeviceSnapshot where
  node : Node
  readings : Table String CapabilityValue

namespace DeviceSnapshot

/-- The name of a reading of the endpoint at a position. -/
def key (capability : Capability) (position : Nat) (endpoint : UInt8) : String :=
  if position = 0 then capability.name else capability.name ++ "_" ++ toString endpoint

/-- The readings of an endpoint with their names. -/
def readingsOf {ρ σ : Type} (c : Coordinator ρ σ) (device : Eui64) (position : Nat)
    (endpoint : Endpoint) : List (String × CapabilityValue) :=
  (Capability.all.filter fun capability ↦ endpoint.clusters.contains capability.cluster).filterMap
    fun capability ↦
      match c.read ⟨device, endpoint.id⟩ capability with
      | .ok (some value) => some (key capability position endpoint.id, value)
      | _ => none

/-- Adds entries under keys that are not taken yet. -/
def addNew (t : Table String CapabilityValue) (entries : List (String × CapabilityValue)) :
    Table String CapabilityValue :=
  entries.foldl (fun t e ↦ if t.contains e.1 then t else t.insert e.1 e.2) t

def ofNode {ρ σ : Type} (c : Coordinator ρ σ) (node : Node) : DeviceSnapshot :=
  ⟨node, addNew ∅ (node.endpoints.values.zipIdx.flatMap fun (endpoint, position) ↦
    readingsOf c node.device position endpoint)⟩

def toJson (s : DeviceSnapshot) : Json :=
  .obj (s.node.identityFields ++ [("last_seen", .int s.node.lastSeen.toInt),
    ("capabilities", .obj (s.readings.entries.map fun (key, value) ↦ (key, value.toJson)))])

end DeviceSnapshot

namespace Coordinator

/-- The state of every device, in the order of global addresses. -/
def snapshot {ρ σ : Type} (c : Coordinator ρ σ) : List DeviceSnapshot :=
  c.devices.snapshot.map (DeviceSnapshot.ofNode c)

end Coordinator

end MeshBridge
