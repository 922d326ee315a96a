import MeshBridge.Capability.Basic
/-!
Corrections for devices that do not behave by the book. An entry names the devices it is for by
manufacturer and model and lists actions, each on one capability. Evaluating an entry is a fold over
its actions that changes nothing but the result.
-/

set_option autoImplicit false
set_option relaxedAutoImplicit false

namespace MeshBridge.Correction

/-- How the model of an entry is compared with that of a device. -/
inductive ModelMatch where
  | exact
  /-- The model of the device begins with that of the entry. -/
  | leading
  deriving DecidableEq, Repr, Inhabited

namespace ModelMatch

def name : ModelMatch → String
  | exact => "exact"
  | leading => "prefix"

def label : ModelMatch → String
  | exact => "Exact"
  | leading => "Prefix"

def ofName? (name : String) : Option ModelMatch := [exact, leading].find? (·.name = name)

end ModelMatch

/-- One change to values of the target capability, or to how they are handled. -/
inductive Action where
  | clampRange (target : Capability) (low high : Int32)
  | invertBoolean (target : Capability) (enabled : Bool)
  | scaleNumeric (target : Capability) (multiplier offset : Float)
  /-- Values are written to another capability. -/
  | remapAttribute (target other : Capability)
  | overrideReporting (target : Capability) (reporting : Reporting)
  /-- Reported values are dropped. -/
  | ignoreSpurious (target : Capability)
  deriving DecidableEq

namespace Action

def target : Action → Capability
  | clampRange target _ _ | invertBoolean target _ | scaleNumeric target _ _
  | remapAttribute target _ | overrideReporting target _ | ignoreSpurious target => target

def name : Action → String
  | clampRange .. => "clamp_range"
  | invertBoolean .. => "invert_boolean"
  | scaleNumeric .. => "scale_numeric"
  | remapAttribute .. => "remap_attribute"
  | overrideReporting .. => "override_reporting"
  | ignoreSpurious .. => "ignore_spurious"

/-- What an action does, in words. -/
def effect : Action → String
  | clampRange _ low high => "clamp [" ++ toString low ++ ", " ++ toString high ++ "]"
  | invertBoolean _ enabled => "invert (enabled=" ++ toString enabled ++ ")"
  | scaleNumeric _ multiplier offset =>
    "x" ++ Decimal.plain.text multiplier ++ " + " ++ Decimal.plain.text offset
  | remapAttribute _ other => "remap -> " ++ other.name
  | overrideReporting _ r =>
    "reporting " ++ toString r.minInterval ++ "s.." ++ toString r.maxInterval ++ "s change " ++
      toString r.change
  | ignoreSpurious _ => "ignore spurious"

instance : ToString Action := ⟨fun a ↦ a.target.name ++ ": " ++ a.effect⟩

end Action

/-- A rule for the devices of one manufacturer. -/
structure Entry where
  manufacturer : String
  model : String
  matching : ModelMatch
  actions : List Action
  deriving DecidableEq

namespace Entry

/-- Whether the entry is for a device. -/
def covers (e : Entry) (manufacturer model : String) : Bool :=
  e.manufacturer == manufacturer &&
    match e.matching with
    | .exact => e.model == model
    | .leading => e.model.toList.isPrefixOf model.toList

end Entry

/-- Which way a value goes. -/
inductive Direction where
  /-- Reported by the device, or read back. -/
  | inbound
  /-- About to be sent. -/
  | outbound
  deriving DecidableEq, Repr

/-- A value after correction. -/
structure Corrected where
  /-- Whether an entry is for the device. -/
  matched : Bool
  /-- How many actions had an effect. -/
  applied : Nat
  value : CapabilityValue
  /-- The capability that the value is to be written to. -/
  target : Capability
  reporting : Option Reporting
  /-- Whether the value is to be dropped. -/
  ignored : Bool
  deriving DecidableEq

/-- A value that no entry is for. -/
def Corrected.unchanged (c : Capability) (value : CapabilityValue) : Corrected :=
  ⟨false, 0, value, c, none, false⟩

/-- The nearest number in a range, which must not be empty. What is no number stays so. -/
def clamp (low high : Int32) : CapabilityValue → Option CapabilityValue
  | .bool _ => none
  | .int n => some (.int (max low.toInt64 (min n high.toInt64)))
  | .float x =>
    let low := Float.ofInt low.toInt
    let high := Float.ofInt high.toInt
    let x := if x < low then low else x
    some (.float (if high < x then high else x))

/-- Multiplies and adds. Values of an integer capability are rounded, a half away from zero. -/
def scale (kind : Capability.Kind) (multiplier offset : Float) (value : CapabilityValue) :
    Option CapabilityValue :=
  value.float?.map fun x ↦
    let y := x * multiplier + offset
    match kind with
    | .integer => .int (Binary64.ofFloat y).roundInt64
    | _ => .float y

/-- What an action makes of a value, or nothing if it has no effect on it. -/
def Action.apply (direction : Direction) (c : Capability) (r : Corrected) :
    Action → Option Corrected
  | .clampRange _ low high => (clamp low high r.value).map fun v ↦ { r with value := v }
  | .invertBoolean _ enabled =>
    match r.value with
    | .bool b => if enabled then some { r with value := .bool !b } else none
    | _ => none
  | .scaleNumeric _ multiplier offset =>
    (scale c.kind multiplier offset r.value).map fun v ↦ { r with value := v }
  | .remapAttribute _ other => some { r with target := other }
  | .overrideReporting _ reporting => some { r with reporting := some reporting }
  | .ignoreSpurious _ =>
    match direction with
    | .inbound => some { r with ignored := true }
    | .outbound => none

/-- One step of the fold: an action with an effect is counted. -/
def Action.step (direction : Direction) (c : Capability) (r : Corrected) (a : Action) : Corrected :=
  match a.apply direction c r with
  | some r => { r with applied := r.applied + 1 }
  | none => r

namespace Entry

/-- The actions on a capability, in order. -/
def actionsOn (e : Entry) (c : Capability) : List Action := e.actions.filter (·.target = c)

def correct (e : Entry) (direction : Direction) (c : Capability) (value : CapabilityValue) :
    Corrected :=
  (e.actionsOn c).foldl (Action.step direction c)
    { Corrected.unchanged c value with matched := true }

/-- The reporting of the last action that overrides it. -/
def reporting? (e : Entry) (c : Capability) : Option Reporting :=
  e.actions.reverse.findSome? fun
    | .overrideReporting target reporting => if target = c then some reporting else none
    | _ => none

end Entry

end MeshBridge.Correction
