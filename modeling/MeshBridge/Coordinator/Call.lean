import MeshBridge.Coordinator.Commands
import MeshBridge.Coordinator.Reports
/-!
The calls on a coordinator as data, so that a run of it is a list.
-/

set_option autoImplicit false
set_option relaxedAutoImplicit false

namespace MeshBridge.Coordinator

inductive Call where
  | init
  | start
  | permitJoin (seconds : UInt8)
  | formed (status panId : UInt16) (channel : UInt8)
  | fatal (reason : String)
  | announce (device : Eui64) (address : NetworkAddress)
  | leave (device : Eui64)
  | report (r : Report)
  | status (seq : SequenceNumber) (status : UInt16)
  | remove (device : Eui64)
  | sweep
  | send (device : Eui64) (endpoint : UInt8) (request : Request)
  deriving DecidableEq, Repr

/-- What a call gives. -/
inductive CallReply where
  | done
  | count (n : Nat)
  | issued (id : CorrelationId)
  deriving DecidableEq, Repr

variable {ρ σ : Type}

def perform [Radio ρ] [KeyValueStore σ] (c : Coordinator ρ σ) (now : Moment) :
    Call → Step ρ σ CallReply
  | .init => c.init.map fun _ ↦ .done
  | .start => c.start.map fun _ ↦ .done
  | .permitJoin seconds => (c.permitJoin seconds).map fun _ ↦ .done
  | .formed status panId channel => (c.formed status panId channel).map fun _ ↦ .done
  | .fatal reason => (c.fatal reason).map fun _ ↦ .done
  | .announce device address => (c.announce now device address).map fun _ ↦ .done
  | .leave device => (c.leave device).map fun _ ↦ .done
  | .report r => (c.report now r).map fun _ ↦ .done
  | .status seq status => (c.status seq status).map fun _ ↦ .done
  | .remove device => (c.remove device).map fun _ ↦ .done
  | .sweep => (c.sweep now).map .count
  | .send device endpoint request => (c.send now device endpoint request).map .issued

end MeshBridge.Coordinator
