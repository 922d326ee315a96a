import MeshBridge.Radio.Basic
/-!
A radio stack without a radio. It keeps every frame it accepts, numbers them in turn, and refuses
the one request it was told to refuse.
-/

set_option autoImplicit false
set_option relaxedAutoImplicit false

namespace MeshBridge

structure SimulatedRadio where
  nextSequence : SequenceNumber
  /-- The status with which the next request is refused. -/
  refusal : Option UInt16
  /-- Accepted frames with their numbers, oldest first. -/
  sent : List (SequenceNumber × Frame)
  formations : Nat
  /-- The seconds for which the network was opened last. -/
  joinSeconds : Option UInt8
  deriving DecidableEq, Repr

namespace SimulatedRadio

def empty : SimulatedRadio := ⟨0, none, [], 0, none⟩

instance : Inhabited SimulatedRadio := ⟨empty⟩

/-- Lets a request through unless it is to be refused; a refusal is used up. -/
def offer {α : Type} (r : SimulatedRadio) (accept : SimulatedRadio → SimulatedRadio × α) :
    SimulatedRadio × Except Rejection α :=
  match r.refusal with
  | some code => ({ r with refusal := none }, .error ⟨code⟩)
  | none => let (r, a) := accept r; (r, .ok a)

def start (r : SimulatedRadio) : SimulatedRadio × Except Rejection Unit :=
  r.offer fun r ↦ ({ r with formations := r.formations + 1 }, ())

def permitJoin (seconds : UInt8) (r : SimulatedRadio) : SimulatedRadio × Except Rejection Unit :=
  r.offer fun r ↦ ({ r with joinSeconds := some seconds }, ())

def send (frame : Frame) (r : SimulatedRadio) : SimulatedRadio × Except Rejection SequenceNumber :=
  r.offer fun r ↦
    ({ r with nextSequence := r.nextSequence + 1, sent := r.sent ++ [(r.nextSequence, frame)] },
      r.nextSequence)

def control : RadioControl → SimulatedRadio → SimulatedRadio
  | .rejectNext code, r => { r with refusal := some code }
  | .nextSequence seq, r => { r with nextSequence := seq }

instance : Radio SimulatedRadio := ⟨start, permitJoin, send, control⟩

def frames (r : SimulatedRadio) : List Frame := r.sent.map (·.2)

/-- The number of the frame accepted last. -/
def lastSequence? (r : SimulatedRadio) : Option SequenceNumber := r.sent.getLast?.map (·.1)

end SimulatedRadio

end MeshBridge
