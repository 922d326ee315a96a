import MeshBridge.Address
/-!
Messages and topics of the broker. Below the base topic each device has a topic of its own, named by
its global address; the only topic on which commands come in ends in `set`.
-/

set_option autoImplicit false
set_option relaxedAutoImplicit false

namespace MeshBridge

structure MqttMessage where
  topic : String
  payload : String
  /-- Whether the broker keeps the message for those who subscribe later. -/
  retain : Bool
  deriving DecidableEq, Repr

namespace Topic

/-- The base topic without the slashes at its end. -/
def trimmed (base : String) : String :=
  String.ofList (base.toList.reverse.dropWhile (· = '/')).reverse

def below (base suffix : String) : String := base ++ "/" ++ suffix

def availability (base : String) (device : Eui64) : String :=
  below base (device.hex ++ "/availability")

def capabilityState (base : String) (device : Eui64) (capability : String) : String :=
  below base (device.hex ++ "/" ++ capability ++ "/state")

def bridgeState (base : String) : String := below base "bridge/state"

def bridgeDevices (base : String) : String := below base "bridge/devices"

/-- The filter that takes in all command topics. -/
def commandFilter (base : String) : String := below base "+/set"

/-- What remains of a text after one that it begins with. -/
def dropLeading : (lead text : List Char) → Option (List Char)
  | [], text => some text
  | _ :: _, [] => none
  | c :: lead, d :: text => if c = d then dropLeading lead text else none

/-- What remains of a text before one that it ends with. -/
def dropTrailing (trail text : List Char) : Option (List Char) :=
  (dropLeading trail.reverse text.reverse).map List.reverse

/-- The level of a command topic that names the device. -/
def deviceLevel? (base topic : String) : Option (List Char) := do
  let rest ← dropLeading base.toList topic.toList
  let rest ← dropLeading ['/'] rest
  let device ← dropTrailing "/set".toList rest
  if device.contains '/' then none else some device

/-- The device that a command topic is for. -/
def device (base topic : String) : Except Fault Eui64 :=
  match deviceLevel? base topic with
  | some level => Eui64.parse (String.ofList level)
  | none => .error (.invalidArgument ("not a set topic: " ++ topic))

end Topic

end MeshBridge
