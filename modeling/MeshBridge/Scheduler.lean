/-!
A round of pollers, run one after the other in the order of their registration. No poller is cut
short; one that uses up its budget is named in the report of the pass.
-/

set_option autoImplicit false
set_option relaxedAutoImplicit false

namespace MeshBridge

structure Poller where
  name : String
  /-- The whole milliseconds that a run takes. It takes a moment more than these. -/
  duration : Nat
  deriving DecidableEq, Repr

/-- What a pass did. -/
structure PassReport where
  ran : Nat
  /-- The pollers that took longer than the budget. -/
  overruns : List String
  deriving DecidableEq, Repr

structure Scheduler where
  pollers : List Poller
  /-- The milliseconds that a poller may take. -/
  budget : Nat
  passes : Nat
  deriving DecidableEq, Repr

namespace Scheduler

def defaultBudget : Nat := 50

def withBudget (budget : Nat) : Scheduler := ⟨[], budget, 0⟩

def register (s : Scheduler) (p : Poller) : Scheduler := { s with pollers := s.pollers ++ [p] }

/-- The names of the pollers in the order in which a pass runs them. -/
def order (s : Scheduler) : List String := s.pollers.map (·.name)

def overran (s : Scheduler) (p : Poller) : Bool := s.budget ≤ p.duration

/-- Runs every poller once. -/
def pass (s : Scheduler) : Scheduler × PassReport :=
  ({ s with passes := s.passes + 1 },
    ⟨s.pollers.length, (s.pollers.filter s.overran).map (·.name)⟩)

/-- The first `count` runs of passes repeated without end. -/
def firstRuns (s : Scheduler) (count : Nat) : List String :=
  ((List.range count).flatMap fun _ ↦ s.order).take count

end Scheduler

end MeshBridge
