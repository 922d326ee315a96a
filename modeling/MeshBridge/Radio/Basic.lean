import MeshBridge.Radio.Frame
/-!
The radio stack as seen from above: a machine that takes requests and accepts or refuses each at
once. What becomes of an accepted request is reported later, under the sequence number given here.
-/

set_option autoImplicit false
set_option relaxedAutoImplicit false

namespace MeshBridge

/-- What may be asked of a radio on a test bench. -/
inductive RadioControl where
  /-- Refuse the next request. -/
  | rejectNext (code : UInt16)
  /-- Number the next accepted request. -/
  | nextSequence (seq : SequenceNumber)
  deriving DecidableEq, Repr

/-- A radio stack with states in `ρ`. -/
class Radio (ρ : Type) where
  /-- Asks for a network to be formed. -/
  start : ρ → ρ × Except Rejection Unit
  /-- Opens the network for so many seconds. -/
  permitJoin : UInt8 → ρ → ρ × Except Rejection Unit
  send : Frame → ρ → ρ × Except Rejection SequenceNumber
  control : RadioControl → ρ → ρ

end MeshBridge
