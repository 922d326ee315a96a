import MeshBridge.Text.Hex
/-!
Faults: why a call was refused. A fault is one of eleven kinds, most with a detail in words; its
message is the detail after the words of the kind. Only the failure of the radio stack itself cannot
be mended by the caller.
-/

set_option autoImplicit false
set_option relaxedAutoImplicit false

namespace MeshBridge

/-- Why a call was refused. -/
inductive Fault where
  /-- Malformed or out-of-range input. -/
  | invalidArgument (detail : String)
  /-- The adapter has not been initialised. -/
  | notInitialized
  /-- The adapter is in a state that does not allow the call. -/
  | notReady (detail : String)
  | alreadyExists (detail : String)
  /-- A bounded table is full. -/
  | resourceExhausted (detail : String)
  | notFound (detail : String)
  /-- The radio stack refused a request with this status. -/
  | protocolFailure (status : UInt16)
  | stackFatal (detail : String)
  | storage (detail : String)
  | config (detail : String)
  | serialization (detail : String)
  deriving DecidableEq, Repr, Inhabited

namespace Fault

def message : Fault → String
  | invalidArgument detail => "Invalid argument: " ++ detail
  | notInitialized => "Adapter not initialized"
  | notReady detail => "Not ready: " ++ detail
  | alreadyExists detail => "Already exists: " ++ detail
  | resourceExhausted detail => "Resource exhausted: " ++ detail
  | notFound detail => "Not found: " ++ detail
  | protocolFailure status =>
    "Protocol failure (status 0x" ++ Hex.padded .upper 4 status.toNat ++ ")"
  | stackFatal detail => "Stack fatal: " ++ detail
  | storage detail => "Storage error: " ++ detail
  | config detail => "Configuration error: " ++ detail
  | serialization detail => "Serialization error: " ++ detail

/-- Whether the caller can do something about it. -/
def isRecoverable : Fault → Bool
  | stackFatal _ => false
  | _ => true

end Fault

/-- A series of commands that stopped part way: what stopped it, and the commands issued before. -/
structure BatchFault (α : Type) where
  issued : List α
  cause : Fault
  deriving DecidableEq, Repr

namespace BatchFault

variable {α : Type}

def message (f : BatchFault α) : String :=
  f.cause.message ++ " (" ++ toString f.issued.length ++ " command(s) already issued)"

/-- A fault before any command was issued. -/
def ofFault (cause : Fault) : BatchFault α := ⟨[], cause⟩

end BatchFault

end MeshBridge
