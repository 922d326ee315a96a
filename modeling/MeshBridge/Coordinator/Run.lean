import MeshBridge.Coordinator.Call
import MeshBridge.Radio.Recorded
/-!
Runs of a coordinator: calls made in turn, each at its own time. A turn knows the coordinator it
found, so everything a call did can be read off it: what it changed, the events it told, what it
gave, and what it asked of the radio.
-/

set_option autoImplicit false
set_option relaxedAutoImplicit false

namespace MeshBridge.Coordinator

variable {ρ σ : Type}

/-- The same coordinator over another radio. -/
def withRadio {ρ' : Type} (c : Coordinator ρ σ) (radio : ρ') : Coordinator ρ' σ := { c with radio }

/-- A call that is made on a coordinator. -/
structure Turn (ρ σ : Type) where
  before : Coordinator ρ σ
  now : Moment
  call : Call

namespace Turn

variable [Radio ρ] [KeyValueStore σ]

def step (t : Turn ρ σ) : Step ρ σ CallReply := t.before.perform t.now t.call

def after (t : Turn ρ σ) : Coordinator ρ σ := t.step.after

def events (t : Turn ρ σ) : List Event := t.step.events

def result (t : Turn ρ σ) : Except Fault CallReply := t.step.result

/-- What the call asks of the radio: the record of a radio that was put under it with a blank
one. -/
def exchanges (t : Turn ρ σ) : List Exchange :=
  let recorded := t.before.withRadio (RecordedRadio.mk t.before.radio [])
  (recorded.perform t.now t.call).after.radio.exchanges

/-- The identifier of the command that the call gave back. -/
def issued? (t : Turn ρ σ) : Option CorrelationId :=
  match t.result with
  | .ok (.issued id) => some id
  | _ => none

/-- The number under which the radio accepted a frame. -/
def accepted? (t : Turn ρ σ) : Option SequenceNumber := t.exchanges.findSome? Exchange.accepted?

/-- The refusal of a frame by the radio. -/
def rejected? (t : Turn ρ σ) : Option Rejection := t.exchanges.findSome? Exchange.rejected?

end Turn

/-- The coordinator after calls made in turn. -/
def run [Radio ρ] [KeyValueStore σ] (c : Coordinator ρ σ) (calls : List (Moment × Call)) :
    Coordinator ρ σ :=
  calls.foldl (fun c timed ↦ (c.perform timed.1 timed.2).after) c

/-- The turns of a run, oldest first. -/
def turns [Radio ρ] [KeyValueStore σ] (c : Coordinator ρ σ) : List (Moment × Call) → List (Turn ρ σ)
  | [] => []
  | (now, call) :: rest => ⟨c, now, call⟩ :: (c.perform now call).after.turns rest

/-- The events told in a run, oldest first. -/
def log [Radio ρ] [KeyValueStore σ] (c : Coordinator ρ σ) (calls : List (Moment × Call)) :
    List Event :=
  (c.turns calls).flatMap (·.events)

/-! ### Runs one call longer

A run may end after any of its calls, so what is shown of all runs holds at every point of a run. -/

section Append

variable [Radio ρ] [KeyValueStore σ]

theorem run_append (c : Coordinator ρ σ) (calls more : List (Moment × Call)) :
    c.run (calls ++ more) = (c.run calls).run more :=
  List.foldl_append

theorem turns_append (c : Coordinator ρ σ) (calls more : List (Moment × Call)) :
    c.turns (calls ++ more) = c.turns calls ++ (c.run calls).turns more := by
  induction calls generalizing c with
  | nil => rfl
  | cons timed rest ih =>
    show ⟨c, timed.1, timed.2⟩ :: (c.perform timed.1 timed.2).after.turns (rest ++ more) = _
    rw [ih]
    rfl

/-- The turn that a further call adds to a run. -/
def nextTurn (c : Coordinator ρ σ) (calls : List (Moment × Call)) (timed : Moment × Call) :
    Turn ρ σ :=
  ⟨c.run calls, timed.1, timed.2⟩

theorem run_concat (c : Coordinator ρ σ) (calls : List (Moment × Call)) (timed : Moment × Call) :
    c.run (calls ++ [timed]) = (c.nextTurn calls timed).after :=
  run_append c calls [timed]

theorem turns_concat (c : Coordinator ρ σ) (calls : List (Moment × Call)) (timed : Moment × Call) :
    c.turns (calls ++ [timed]) = c.turns calls ++ [c.nextTurn calls timed] :=
  turns_append c calls [timed]

theorem log_concat (c : Coordinator ρ σ) (calls : List (Moment × Call)) (timed : Moment × Call) :
    c.log (calls ++ [timed]) = c.log calls ++ (c.nextTurn calls timed).events := by
  simp only [log, turns_concat, List.flatMap_append, List.flatMap_singleton]

end Append

end MeshBridge.Coordinator
