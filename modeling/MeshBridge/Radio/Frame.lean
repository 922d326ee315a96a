import MeshBridge.Address
/-!
What is handed to the radio stack: requests to devices, framed with the network address and the
endpoint they are for, and the stack's refusal of one.
-/

set_option autoImplicit false
set_option relaxedAutoImplicit false

namespace MeshBridge

/-- How often a device reports an attribute: bounds on the interval in seconds, and the change that
is worth a report. -/
structure Reporting where
  minInterval : UInt16
  maxInterval : UInt16
  change : UInt32
  deriving DecidableEq, Repr, Inhabited

inductive OnOffCommand where
  | off | on | toggle
  deriving DecidableEq, Repr

namespace OnOffCommand

def name : OnOffCommand → String
  | off => "Off"
  | on => "On"
  | toggle => "Toggle"

end OnOffCommand

/-- Transitions are in tenths of a second. -/
inductive ColorCommand where
  | hueSaturation (hue saturation : UInt8) (transition : UInt16)
  | temperature (mireds transition : UInt16)
  deriving DecidableEq, Repr

/-- A request to a device. -/
inductive Request where
  | onOff (command : OnOffCommand)
  | level (level : UInt8) (transition : UInt16)
  | color (command : ColorCommand)
  | readAttributes (cluster : UInt16) (attrs : List UInt16)
  | configureReporting (cluster attr : UInt16) (reporting : Reporting)
  /-- Binds a cluster of the device to the coordinator. -/
  | bind (device : Eui64) (cluster : UInt16)
  deriving DecidableEq, Repr

namespace Request

def name : Request → String
  | onOff _ => "on_off"
  | level .. => "level"
  | color _ => "color"
  | readAttributes .. => "read_attributes"
  | configureReporting .. => "configure_reporting"
  | bind .. => "bind"

/-- Refuses a request that no radio should be handed. -/
def check : Request → Except Fault Unit
  | readAttributes _ [] => .error (.invalidArgument "no attributes to read")
  | configureReporting _ _ r =>
    if r.maxInterval < r.minInterval then
      .error (.invalidArgument
        ("reporting interval " ++ toString r.minInterval ++ "s > " ++
          toString r.maxInterval ++ "s"))
    else .ok ()
  | _ => .ok ()

end Request

/-- A request on its way to an endpoint of a device. -/
structure Frame where
  address : NetworkAddress
  endpoint : UInt8
  request : Request
  deriving DecidableEq, Repr

/-- The radio stack refused a request. -/
structure Rejection where
  code : UInt16
  deriving DecidableEq, Repr

namespace Rejection

def message (r : Rejection) : String :=
  "stack rejected send (status 0x" ++ Hex.padded .upper 4 r.code.toNat ++ ")"

end Rejection

end MeshBridge
