/-!
The lifecycle of the radio stack. It starts uninitialised, and from the error state there is no way
back.
-/

set_option autoImplicit false
set_option relaxedAutoImplicit false

namespace MeshBridge

inductive Lifecycle where
  | uninitialized | initializing | ready | error
  deriving DecidableEq, Repr, Inhabited

namespace Lifecycle

def all : List Lifecycle := [uninitialized, initializing, ready, error]

/-- The name of a state in documents. -/
def name : Lifecycle → String
  | uninitialized => "Uninitialized"
  | initializing => "Initializing"
  | ready => "Ready"
  | error => "Error"

/-- The name of a state in messages. -/
def label : Lifecycle → String
  | uninitialized => "UNINITIALIZED"
  | initializing => "INITIALIZING"
  | ready => "READY"
  | error => "ERROR"

instance : ToString Lifecycle := ⟨label⟩

def ofName? (name : String) : Option Lifecycle := all.find? (·.name = name)

def canMove : Lifecycle → Lifecycle → Bool
  | uninitialized, initializing | initializing, ready | initializing, error | ready, error => true
  | _, _ => false

/-- The next state, if there is a way to it. -/
def move? (s next : Lifecycle) : Option Lifecycle := if s.canMove next then some next else none

def isTerminal (s : Lifecycle) : Bool := s = error

end Lifecycle

end MeshBridge
