import MeshBridge.Radio.Basic
/-!
A radio stack with a record of what it was asked and what it answered. It answers as the stack
inside does and the record is only ever added to, so whatever drives a radio can be watched at work.
-/

set_option autoImplicit false
set_option relaxedAutoImplicit false

namespace MeshBridge

/-- One request to a radio and the answer to it. -/
inductive Exchange where
  | start (answer : Except Rejection Unit)
  | permitJoin (seconds : UInt8) (answer : Except Rejection Unit)
  | send (frame : Frame) (answer : Except Rejection SequenceNumber)

namespace Exchange

/-- The frame that was handed over. -/
def frame? : Exchange → Option Frame
  | send frame _ => some frame
  | _ => none

/-- The number under which a frame was accepted. -/
def accepted? : Exchange → Option SequenceNumber
  | send _ (.ok seq) => some seq
  | _ => none

/-- The refusal of a frame. -/
def rejected? : Exchange → Option Rejection
  | send _ (.error rejection) => some rejection
  | _ => none

end Exchange

structure RecordedRadio (ρ : Type) where
  radio : ρ
  /-- What was asked so far, oldest first. -/
  exchanges : List Exchange

namespace RecordedRadio

variable {ρ : Type} [Radio ρ]

def start (r : RecordedRadio ρ) : RecordedRadio ρ × Except Rejection Unit :=
  let (radio, answer) := Radio.start r.radio
  (⟨radio, r.exchanges ++ [.start answer]⟩, answer)

def permitJoin (seconds : UInt8) (r : RecordedRadio ρ) : RecordedRadio ρ × Except Rejection Unit :=
  let (radio, answer) := Radio.permitJoin seconds r.radio
  (⟨radio, r.exchanges ++ [.permitJoin seconds answer]⟩, answer)

def send (frame : Frame) (r : RecordedRadio ρ) :
    RecordedRadio ρ × Except Rejection SequenceNumber :=
  let (radio, answer) := Radio.send frame r.radio
  (⟨radio, r.exchanges ++ [.send frame answer]⟩, answer)

def control (k : RadioControl) (r : RecordedRadio ρ) : RecordedRadio ρ :=
  { r with radio := Radio.control k r.radio }

instance : Radio (RecordedRadio ρ) := ⟨start, permitJoin, send, control⟩

end RecordedRadio

end MeshBridge
