import MeshBridge.Capability.Basic
import MeshBridge.Json.Record
/-!
Capabilities and their values in JSON. A value is written bare: a boolean, an integer or a number
with a point, tried in this order when it is read.
-/

set_option autoImplicit false
set_option relaxedAutoImplicit false

namespace MeshBridge

namespace Capability

def toJson (c : Capability) : Json := .str c.name

def ofJson? (origin : Json.Origin) (j : Json) : Option Capability := (j.name? origin).bind ofName?

end Capability

namespace CapabilityValue

def toJson : CapabilityValue → Json
  | bool b => .bool b
  | int n => .int n.toInt
  | float x => .real x

def ofJson? (j : Json) : Option CapabilityValue :=
  (j.bool?.map bool).or ((j.int64?.map int).or (j.float?.map float))

end CapabilityValue

namespace Reporting

def ofJson? (j : Json) : Option Reporting := do
  let [low, high, change] ←
    j.record? ["min_interval_s", "max_interval_s", "reportable_change"] | none
  some ⟨← Json.required Json.uint16? low, ← Json.required Json.uint16? high,
    ← Json.required Json.uint32? change⟩

end Reporting

end MeshBridge
