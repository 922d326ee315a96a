import MeshBridge.Capability.Access
/-!
What can be said to a light or a switch, and what can be asked of a light, a switch or a sensor.
-/

set_option autoImplicit false
set_option relaxedAutoImplicit false

namespace MeshBridge

/-- What can be said to a light. A switch takes the first three. -/
inductive LightCommand where
  | on
  | off
  | toggle
  | brightness (level : UInt8)
  | colorTemp (mireds : UInt16)
  deriving DecidableEq, Repr

namespace LightCommand

def intent : LightCommand → Intent
  | on => .write .onOff (.bool true)
  | off => .write .onOff (.bool false)
  | toggle => .toggle
  | brightness level => .write .brightness (.int (Int64.ofNat level.toNat))
  | colorTemp mireds => .write .colorTemp (.int (Int64.ofNat mireds.toNat))

/-- The two intents that make up a color by hue, saturation and value. -/
def hsv (hue saturation value : UInt8) : List Intent :=
  [.paint hue saturation, (brightness value).intent]

end LightCommand

/-- What can be asked of a device. -/
inductive Reading where
  | state | brightness | colorTemp | temperature | humidity | occupancy | battery
  deriving DecidableEq, Repr

/-- The answer of a device. -/
inductive Measured where
  | flag (b : Bool)
  | number (n : Nat)
  | quantity (x : Float)
  deriving DecidableEq

namespace Reading

def capability : Reading → Capability
  | state => .onOff
  | brightness => .brightness
  | colorTemp => .colorTemp
  | temperature => .temperature
  | humidity => .humidity
  | occupancy => .occupancy
  | battery => .battery

/-- The answer in a value, which is cut to the range of the reading. -/
def ofValue (r : Reading) (v : CapabilityValue) : Option Measured :=
  let number (high : Nat) := v.int?.map fun n ↦ .number (CapabilityValue.saturate high n)
  match r with
  | state | occupancy => v.bool?.map .flag
  | brightness => number 254
  | colorTemp => number 65535
  | battery => number 100
  | temperature | humidity => v.float?.map .quantity

end Reading

namespace Coordinator

variable {ρ σ : Type}

def measure (c : Coordinator ρ σ) (target : Target) (r : Reading) :
    Except Fault (Option Measured) :=
  (c.read target r.capability).map fun value ↦ value.bind r.ofValue

end Coordinator

end MeshBridge
