import MeshBridge.Event
import MeshBridge.Fault
/-!
A bus of events: subscriptions with handlers of any type `α`, at most so many for one kind of event.
Numbers of subscriptions grow and are never used again: they are natural numbers, which do not run
out.
-/

set_option autoImplicit false
set_option relaxedAutoImplicit false

namespace MeshBridge

structure Subscription (α : Type) where
  id : Nat
  kind : EventKind
  handler : α
  deriving DecidableEq, Repr

/-- Subscriptions in the order in which they were made. -/
structure EventBus (α : Type) where
  name : String
  /-- How many subscriptions there may be for one kind. -/
  maxHandlers : Nat
  /-- How many publications may be under way when one is begun. -/
  maxDepth : Nat
  subscriptions : List (Subscription α)
  nextId : Nat
  deriving DecidableEq, Repr

namespace EventBus

variable {α : Type}

def defaultMaxHandlers : Nat := 10

def defaultMaxDepth : Nat := 8

def withLimits (maxHandlers maxDepth : Nat) : EventBus α :=
  ⟨"default", maxHandlers, maxDepth, [], 1⟩

def withName (name : String) : EventBus α :=
  { (withLimits defaultMaxHandlers defaultMaxDepth : EventBus α) with name }

instance : Inhabited (EventBus α) := ⟨withLimits defaultMaxHandlers defaultMaxDepth⟩

/-- The subscriptions for a kind, oldest first. -/
def handlers (b : EventBus α) (kind : EventKind) : List (Subscription α) :=
  b.subscriptions.filter (·.kind = kind)

def handlerCount (b : EventBus α) (kind : EventKind) : Nat := (b.handlers kind).length

/-- Adds a handler for a kind of event and gives the number of the subscription. -/
def subscribe (b : EventBus α) (kind : EventKind) (handler : α) :
    Except Fault (EventBus α × Nat) :=
  if b.maxHandlers ≤ b.handlerCount kind then
    .error (.resourceExhausted ("event handlers for " ++ kind.name ++ " (max " ++
      toString b.maxHandlers ++ ")"))
  else
    .ok ({ b with
      subscriptions := b.subscriptions ++ [⟨b.nextId, kind, handler⟩], nextId := b.nextId + 1 },
      b.nextId)

/-- Removes a subscription and tells whether there was one. -/
def unsubscribe (b : EventBus α) (id : Nat) : EventBus α × Bool :=
  ({ b with subscriptions := b.subscriptions.filter (·.id ≠ id) },
    b.subscriptions.any (·.id = id))

/-- Refuses an event that would be published while too many publications are under way. -/
def checkDepth (b : EventBus α) (depth : Nat) (kind : EventKind) : Except Fault Unit :=
  if b.maxDepth ≤ depth then
    .error (.resourceExhausted ("publish depth " ++ toString depth ++ " for " ++ kind.name))
  else .ok ()

end EventBus

end MeshBridge
