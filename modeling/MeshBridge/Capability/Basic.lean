import MeshBridge.Attribute.Value
import MeshBridge.Decimal.Layout
import MeshBridge.Fault
import MeshBridge.Radio.Frame
/-!
Capabilities: what a device can be asked for or told, independent of how its attributes encode it.
Each capability is bound to one attribute of one cluster, and its values are of one kind.
-/

set_option autoImplicit false
set_option relaxedAutoImplicit false

namespace MeshBridge

/-! ### Numbers of clusters and attributes -/

namespace ClusterId

def basic : UInt16 := 0x0000

def powerConfiguration : UInt16 := 0x0001

def onOff : UInt16 := 0x0006

def levelControl : UInt16 := 0x0008

def colorControl : UInt16 := 0x0300

def temperatureMeasurement : UInt16 := 0x0402

def humidityMeasurement : UInt16 := 0x0405

def occupancySensing : UInt16 := 0x0406

end ClusterId

namespace AttributeId

def manufacturerName : UInt16 := 0x0004

def modelIdentifier : UInt16 := 0x0005

/-- The attribute in which a cluster keeps its one measured or controlled quantity. -/
def main : UInt16 := 0x0000

def currentSaturation : UInt16 := 0x0001

def colorTemperature : UInt16 := 0x0007

def batteryPercentageRemaining : UInt16 := 0x0021

end AttributeId

/-! ### Values -/

/-- The value of a capability. -/
inductive CapabilityValue where
  | bool (b : Bool)
  | int (n : Int64)
  | float (x : Float)
  deriving DecidableEq, Inhabited

namespace CapabilityValue

def bool? : CapabilityValue → Option Bool
  | bool b => some b
  | _ => none

/-- The number as an integer: a fraction is rounded, a half away from zero. -/
def int? : CapabilityValue → Option Int64
  | bool _ => none
  | int n => some n
  | float x => some (Binary64.ofFloat x).roundInt64

def float? : CapabilityValue → Option Float
  | bool _ => none
  | int n => some (Float.ofInt n.toInt)
  | float x => some x

instance : ToString CapabilityValue where
  toString
    | bool b => toString b
    | int n => toString n
    | float x => Decimal.plain.text x

end CapabilityValue

/-! ### Capabilities -/

inductive Capability where
  | onOff | brightness | colorTemp | hue | saturation
  | temperature | humidity | occupancy | battery
  deriving DecidableEq, Repr, Inhabited

namespace Capability

inductive Kind where
  | bool | integer | float
  deriving DecidableEq, Repr

def all : List Capability :=
  [onOff, brightness, colorTemp, hue, saturation, temperature, humidity, occupancy, battery]

def name : Capability → String
  | onOff => "on_off"
  | brightness => "brightness"
  | colorTemp => "color_temp"
  | hue => "hue"
  | saturation => "saturation"
  | temperature => "temperature"
  | humidity => "humidity"
  | occupancy => "occupancy"
  | battery => "battery"

instance : ToString Capability := ⟨name⟩

def ofName? (name : String) : Option Capability := all.find? (·.name = name)

def parse (text : String) : Except Fault Capability :=
  match ofName? text with
  | some c => .ok c
  | none => .error (.invalidArgument ("unknown capability: " ++ text))

def kind : Capability → Kind
  | onOff | occupancy => .bool
  | temperature | humidity => .float
  | _ => .integer

def cluster : Capability → UInt16
  | onOff => ClusterId.onOff
  | brightness => ClusterId.levelControl
  | colorTemp | hue | saturation => ClusterId.colorControl
  | temperature => ClusterId.temperatureMeasurement
  | humidity => ClusterId.humidityMeasurement
  | occupancy => ClusterId.occupancySensing
  | battery => ClusterId.powerConfiguration

def attr : Capability → UInt16
  | colorTemp => AttributeId.colorTemperature
  | saturation => AttributeId.currentSaturation
  | battery => AttributeId.batteryPercentageRemaining
  | _ => AttributeId.main

/-- The capability that an attribute of a cluster backs. -/
def ofAttributeId? (cluster attr : UInt16) : Option Capability :=
  all.find? fun c ↦ c.cluster = cluster ∧ c.attr = attr

def isWritable : Capability → Bool
  | onOff | brightness | colorTemp | hue | saturation => true
  | _ => false

/-- How often a device reports, unless it is corrected to report otherwise. -/
def defaultReporting : Capability → Reporting
  | onOff | occupancy => ⟨0, 300, 0⟩
  | brightness | hue | saturation => ⟨1, 300, 1⟩
  | colorTemp => ⟨1, 300, 10⟩
  | temperature => ⟨10, 300, 10⟩
  | humidity => ⟨10, 300, 100⟩
  | battery => ⟨3600, 43200, 0⟩

/-- Hundredths, as temperatures and humidities are reported. -/
def hundredths (n : Int) : CapabilityValue := .float (Float.ofInt n / 100.0)

/-- A reported value in the units of the capability. Numbers that stand for "no measurement" and
values that do not fit give nothing. -/
def ofAttribute : Capability → AttributeValue → Option CapabilityValue
  | onOff, v => (v.bool?.or (v.int?.map (· ≠ 0))).map .bool
  | occupancy, v => (v.bool?.or (v.int?.map fun n ↦ n % 2 ≠ 0)).map .bool
  | temperature, v => if v = .i16 Int16.minValue then none else v.int?.map hundredths
  | humidity, v => if v = .u16 0xFFFF then none else v.int?.map hundredths
  | battery, v => if v = .u8 0xFF then none else v.int?.map fun n ↦ .int (Int64.ofInt (n.tdiv 2))
  | _, v => v.int?.map fun n ↦ .int (Int64.ofInt n)

end Capability

end MeshBridge
