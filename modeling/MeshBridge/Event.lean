import MeshBridge.Address
import MeshBridge.Attribute.Value
/-!
Events: what happened in the network, told to everyone who subscribed to its kind.
-/

set_option autoImplicit false
set_option relaxedAutoImplicit false

namespace MeshBridge

/-- What subscriptions are made for. -/
inductive EventKind where
  | deviceJoined | deviceLeft | attributeChanged
  | commandConfirmed | commandFailed | commandTimeout
  | stackUp | stackDown
  deriving DecidableEq, Repr, Inhabited

namespace EventKind

def all : List EventKind :=
  [deviceJoined, deviceLeft, attributeChanged, commandConfirmed, commandFailed, commandTimeout,
    stackUp, stackDown]

def name : EventKind → String
  | deviceJoined => "DeviceJoined"
  | deviceLeft => "DeviceLeft"
  | attributeChanged => "AttributeChanged"
  | commandConfirmed => "CommandConfirmed"
  | commandFailed => "CommandFailed"
  | commandTimeout => "CommandTimeout"
  | stackUp => "StackUp"
  | stackDown => "StackDown"

def ofName? (name : String) : Option EventKind := all.find? (·.name = name)

instance : ToString EventKind := ⟨name⟩

end EventKind

inductive Event where
  /-- A device announced itself and can be reached at a network address. -/
  | deviceJoined (device : Eui64) (address : NetworkAddress)
  | deviceLeft (device : Eui64)
  /-- A reported value was stored. -/
  | attributeChanged (device : Eui64) (endpoint : UInt8) (cluster attr : UInt16)
      (value : AttributeValue)
  /-- The device received a command. -/
  | commandConfirmed (id : CorrelationId)
  | commandFailed (id : CorrelationId) (status : UInt16)
  /-- No outcome of a command was heard of in time. -/
  | commandTimeout (id : CorrelationId)
  /-- The network was formed. -/
  | stackUp (panId : UInt16) (channel : UInt8)
  | stackDown (reason : String)
  deriving DecidableEq, Repr, Inhabited

namespace Event

def kind : Event → EventKind
  | deviceJoined .. => .deviceJoined
  | deviceLeft .. => .deviceLeft
  | attributeChanged .. => .attributeChanged
  | commandConfirmed .. => .commandConfirmed
  | commandFailed .. => .commandFailed
  | commandTimeout .. => .commandTimeout
  | stackUp .. => .stackUp
  | stackDown .. => .stackDown

/-- The device an event is about. -/
def device? : Event → Option Eui64
  | deviceJoined device _ | deviceLeft device | attributeChanged device _ _ _ _ => some device
  | _ => none

/-- The command whose outcome an event tells. -/
def command? : Event → Option CorrelationId
  | commandConfirmed id | commandFailed id _ | commandTimeout id => some id
  | _ => none

def isOutcome (e : Event) : Bool := e.command?.isSome

end Event

end MeshBridge
