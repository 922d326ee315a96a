import MeshBridge.Attribute.Json
import MeshBridge.Event
/-!
Events in JSON: an object with the name of the kind under `type` and the fields of the event.
-/

set_option autoImplicit false
set_option relaxedAutoImplicit false

namespace MeshBridge.Event

/-- The fields of an event after its name. -/
def fields : Event → List (String × Json)
  | deviceJoined device address =>
    [("ieee", device.toJson), ("network_address", .int address.toNat)]
  | deviceLeft device => [("ieee", device.toJson)]
  | attributeChanged device endpoint cluster attr value =>
    [("ieee", device.toJson), ("endpoint", .int endpoint.toNat), ("cluster", .int cluster.toNat),
      ("attribute", .int attr.toNat), ("value", value.toJson)]
  | commandConfirmed id => [("correlation_id", id.toJson)]
  | commandFailed id status => [("correlation_id", id.toJson), ("error_code", .int status.toNat)]
  | commandTimeout id => [("correlation_id", id.toJson)]
  | stackUp panId channel => [("pan_id", .int panId.toNat), ("channel", .int channel.toNat)]
  | stackDown reason => [("reason", .str reason)]

def toJson (e : Event) : Json := .obj (("type", .str e.kind.name) :: e.fields)

/-- Reads the fields of an event of a known kind. -/
def ofFields? (j : Json) : EventKind → Option Event
  | .deviceJoined => do
    let [device, address] ← j.record? ["ieee", "network_address"] | none
    some (deviceJoined (← Json.required Eui64.ofJson? device)
      (← Json.required Json.uint16? address))
  | .deviceLeft => do
    let [device] ← j.record? ["ieee"] | none
    some (deviceLeft (← Json.required Eui64.ofJson? device))
  | .attributeChanged => do
    let [device, endpoint, cluster, attr, value] ←
      j.record? ["ieee", "endpoint", "cluster", "attribute", "value"] | none
    some (attributeChanged (← Json.required Eui64.ofJson? device)
      (← Json.required Json.uint8? endpoint) (← Json.required Json.uint16? cluster)
      (← Json.required Json.uint16? attr)
      (← Json.required (AttributeValue.ofJson? .setAside) value))
  | .commandConfirmed => do
    let [id] ← j.record? ["correlation_id"] | none
    some (commandConfirmed (← Json.required CorrelationId.ofJson? id))
  | .commandFailed => do
    let [id, status] ← j.record? ["correlation_id", "error_code"] | none
    some (commandFailed (← Json.required CorrelationId.ofJson? id)
      (← Json.required Json.uint16? status))
  | .commandTimeout => do
    let [id] ← j.record? ["correlation_id"] | none
    some (commandTimeout (← Json.required CorrelationId.ofJson? id))
  | .stackUp => do
    let [panId, channel] ← j.record? ["pan_id", "channel"] | none
    some (stackUp (← Json.required Json.uint16? panId) (← Json.required Json.uint8? channel))
  | .stackDown => do
    let [reason] ← j.record? ["reason"] | none
    some (stackDown (← Json.required Json.text? reason))

def ofJson? (j : Json) : Option Event := do
  let (name, fields) ← j.tagged? "type"
  let kind ← EventKind.ofName? name
  ofFields? fields kind

end MeshBridge.Event
