import MeshBridge.Coordinator.Commands
/-!
Reading and writing capabilities of known devices. A reading is the value stored for the attribute
behind a capability, corrected for the device; a writing is resolved into the one request that
carries the corrected value, without a change to anything.
-/

set_option autoImplicit false
set_option relaxedAutoImplicit false

namespace MeshBridge

/-- An endpoint of a device. -/
structure Target where
  device : Eui64
  endpoint : UInt8
  deriving DecidableEq, Repr

/-- What a device is to do. -/
inductive Intent where
  | write (capability : Capability) (value : CapabilityValue)
  | toggle
  /-- Takes a hue and a saturation together. -/
  | paint (hue saturation : UInt8)
  /-- Asks the device to report a capability from now on. -/
  | configure (capability : Capability)
  /-- Asks the device to report a capability once. -/
  | refresh (capability : Capability)
  deriving DecidableEq

namespace CapabilityValue

/-- The number nearest to an integer value from zero up to `high`. -/
def saturate (high : Nat) (n : Int64) : Nat := min n.toNatClampNeg high

end CapabilityValue

namespace Coordinator

open Correction (Corrected)

variable {ρ σ : Type}

/-- A device that is known, whether it is in reach or not. -/
def node (c : Coordinator ρ σ) (device : Eui64) : Except Fault Node :=
  match c.devices.find? device with
  | some node => .ok node
  | none => .error (unknownDevice device)

/-! ### Reading -/

/-- The value that a node reported for a capability. -/
def stored (node : Node) (endpoint : UInt8) (capability : Capability) : Option CapabilityValue :=
  (node.attribute? endpoint capability.cluster capability.attr).bind fun a ↦
    capability.ofAttribute a.value

/-- The last known value of a capability, if the device reported one. -/
def read (c : Coordinator ρ σ) (target : Target) (capability : Capability) :
    Except Fault (Option CapabilityValue) :=
  (c.node target.device).map fun node ↦
    (stored node target.endpoint capability).map fun value ↦
      (c.corrections.correctReport node.manufacturer node.model capability value).value

/-- How a device is to report a capability. -/
def reportingFor (c : Coordinator ρ σ) (device : Eui64) (capability : Capability) :
    Except Fault Reporting :=
  (c.node device).map fun node ↦
    (c.corrections.reporting? node.manufacturer node.model capability).getD
      capability.defaultReporting

/-! ### Writing -/

/-- A value corrected for a device. -/
def correct (c : Coordinator ρ σ) (device : Eui64) (capability : Capability)
    (value : CapabilityValue) : Except Fault Corrected :=
  (c.node device).map fun node ↦
    c.corrections.correctCommand node.manufacturer node.model capability value

/-- A number for a capability, cut to the range from zero to `high`. -/
def number (capability : Capability) (high : Nat) (value : CapabilityValue) : Except Fault Nat :=
  match value.int? with
  | some n => .ok (CapabilityValue.saturate high n)
  | none => .error (.invalidArgument
      (capability.name ++ " expects a number, got " ++ toString value))

def colorComponent (value : CapabilityValue) : Except Fault UInt8 :=
  match value.int? with
  | some n => .ok (CapabilityValue.saturate 254 n).toUInt8
  | none => .error (.invalidArgument ("colour component " ++ toString value ++ " is not numeric"))

/-- The request for a hue and a saturation that are corrected already. -/
def colorRequest (c : Coordinator ρ σ) (hue saturation : CapabilityValue) :
    Except Fault Request := do
  let hue ← colorComponent hue
  let saturation ← colorComponent saturation
  .ok (.color (.hueSaturation hue saturation c.config.defaultTransition))

/-- The last known value of a color component, zero if there is none, corrected to be sent. -/
def heldComponent (c : Coordinator ρ σ) (target : Target) (capability : Capability) :
    Except Fault CapabilityValue :=
  (c.node target.device).map fun node ↦
    let value := (stored node target.endpoint capability).getD (.int 0)
    (c.corrections.correctCommand node.manufacturer node.model capability value).value

/-- The request that carries a corrected value. Of hue and saturation the other one is kept. -/
def requestFor (c : Coordinator ρ σ) (target : Target) (capability : Capability)
    (value : CapabilityValue) : Except Fault Request :=
  let transition := c.config.defaultTransition
  match capability with
  | .onOff =>
    match value.bool? with
    | some on => .ok (.onOff (if on then .on else .off))
    | none => .error (.invalidArgument ("on_off expects a bool, got " ++ toString value))
  | .brightness => (number capability 254 value).map fun n ↦ .level n.toUInt8 transition
  | .colorTemp =>
    (number capability 65535 value).map fun n ↦ .color (.temperature n.toUInt16 transition)
  | .hue => do c.colorRequest value (← c.heldComponent target .saturation)
  | .saturation => do c.colorRequest (← c.heldComponent target .hue) value
  | _ => .error (.invalidArgument (capability.name ++ " is read-only"))

/-- The request for an intent, for the device as it is known now. -/
def resolve (c : Coordinator ρ σ) (target : Target) : Intent → Except Fault Request
  | .write capability value => do
    let corrected ← c.correct target.device capability value
    c.requestFor target corrected.target corrected.value
  | .toggle => (c.node target.device).map fun _ ↦ .onOff .toggle
  | .paint hue saturation => do
    let hue ← c.correct target.device .hue (.int (Int64.ofNat hue.toNat))
    let saturation ← c.correct target.device .saturation (.int (Int64.ofNat saturation.toNat))
    c.colorRequest hue.value saturation.value
  | .configure capability =>
    (c.reportingFor target.device capability).map fun reporting ↦
      .configureReporting capability.cluster capability.attr reporting
  | .refresh capability => .ok (.readAttributes capability.cluster [capability.attr])

/-- Resolves an intent and sends its request. -/
def carryOut [Radio ρ] (c : Coordinator ρ σ) (now : Moment) (target : Target) (intent : Intent) :
    Step ρ σ CorrelationId :=
  match c.resolve target intent with
  | .error f => c.refuse f
  | .ok request => c.send now target.device target.endpoint request

end Coordinator

end MeshBridge
