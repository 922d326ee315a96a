import MeshBridge.Capability.Access
import MeshBridge.Json.Reader
import MeshBridge.Json.Record
/-!
Commands that come in over the broker: an object with a state, a brightness, a color temperature, or
several of them. All are resolved to intents before the first is carried out.
-/

set_option autoImplicit false
set_option relaxedAutoImplicit false

namespace MeshBridge

structure SetRequest where
  /-- `ON`, `OFF` or `TOGGLE` in letters of any case. -/
  state : Option String
  brightness : Option Int64
  colorTemp : Option Int64
  /-- The endpoint; without one it is found by the capability. -/
  endpoint : Option UInt8
  deriving DecidableEq, Repr

namespace SetRequest

def ofJson? (j : Json) : Option SetRequest := do
  let [state, brightness, colorTemp, endpoint] ←
    j.record? ["state", "brightness", "color_temp", "endpoint"] | none
  some ⟨← Json.orElse none (Json.nullable? Json.text?) state,
    ← Json.orElse none (Json.nullable? Json.int64?) brightness,
    ← Json.orElse none (Json.nullable? Json.int64?) colorTemp,
    ← Json.orElse none (Json.nullable? Json.uint8?) endpoint⟩

def ofBytes (payload : List UInt8) : Except Fault SetRequest :=
  match (Json.ofBytes? payload).bind ofJson? with
  | some request => .ok request
  | none => .error (.serialization "not a set payload")

/-- The intent for a state in words. -/
def stateIntent (state : String) : Except Fault Intent :=
  let word := String.ofList (state.toList.map Char.toUpper)
  if word = "ON" then .ok (.write .onOff (.bool true))
  else if word = "OFF" then .ok (.write .onOff (.bool false))
  else if word = "TOGGLE" then .ok .toggle
  else .error (.invalidArgument ("unknown state " ++ Text.quoted word))

variable {ρ σ : Type}

/-- The endpoint a capability is written to: the one asked for, else the first with the cluster of
the capability, else the first of all, else number one. -/
def target (c : Coordinator ρ σ) (device : Eui64) (capability : Capability)
    (endpoint : Option UInt8) : Except Fault Target :=
  match endpoint with
  | some endpoint => .ok ⟨device, endpoint⟩
  | none =>
    (c.node device).map fun node ↦
      let found := (node.endpointWith? capability.cluster).or node.endpoints.values.head?
      ⟨device, (found.map (·.id)).getD 1⟩

/-- The intent for one part of a request, if that part is there. -/
def part {α : Type} (c : Coordinator ρ σ) (device : Eui64) (r : SetRequest)
    (capability : Capability) (value : Option α) (intent : α → Except Fault Intent) :
    Except Fault (List (Target × Intent)) :=
  match value with
  | none => .ok []
  | some a => do
    let target ← target c device capability r.endpoint
    .ok [(target, ← intent a)]

/-- All that a request asks of a device: its state, its brightness, its color temperature. -/
def plan (c : Coordinator ρ σ) (device : Eui64) (r : SetRequest) :
    Except Fault (List (Target × Intent)) := do
  let state ← part c device r .onOff r.state stateIntent
  let brightness ← part c device r .brightness r.brightness fun n ↦
    .ok (.write .brightness (.int n))
  let colorTemp ← part c device r .colorTemp r.colorTemp fun n ↦ .ok (.write .colorTemp (.int n))
  match state ++ brightness ++ colorTemp with
  | [] => .error (.invalidArgument "set payload carries no command")
  | plan => .ok plan

end SetRequest

end MeshBridge
