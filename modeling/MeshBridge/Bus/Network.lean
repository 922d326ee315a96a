import MeshBridge.Bus.Basic
/-!
Several buses whose handlers act on all of them. A handler is a program of any kind that comes to an
end: it is run whenever an event of its kind is published, goes by the event, by what its steps gave
and by a memory that all handlers share, and may break off. All buses count the publications under
way together. Each step of a program that ran to its end, and each run of a handler, is traced, and
each publication is put on record when it is over.
-/

set_option autoImplicit false
set_option relaxedAutoImplicit false

namespace MeshBridge

/-- What a step gives. -/
inductive BusReply where
  | subscribed (id : Nat)
  | removed (wasThere : Bool)
  /-- The number of handlers that ran to their end. -/
  | delivered (n : Nat)
  | count (n : Nat)
  | name (name : String)
  deriving DecidableEq, Repr

/-- Why a step gave nothing. -/
inductive BusRefusal where
  | fault (f : Fault)
  /-- There is no such bus or label. -/
  | missing
  /-- The program broke off. -/
  | brokenOff
  deriving DecidableEq, Repr

abbrev BusOutcome := Except BusRefusal BusReply

mutual

/-- What can be done to the buses, with memories in `ω`. The number of a bus comes first. -/
inductive BusStep (ω : Type) where
  /-- Subscribes a handler under a label, which then names the subscription. -/
  | listen (bus : Nat) (kind : EventKind) (label : String) (handler : Event → BusProgram ω)
  /-- Ends the subscription of this bus that has the number named by a label. -/
  | unsubscribe (bus : Nat) (label : String)
  /-- Ends the subscription of this bus that has a number. -/
  | cancel (bus id : Nat)
  | publish (bus : Nat) (event : Event)
  | count (bus : Nat) (kind : EventKind)
  | name (bus : Nat)
  /-- Breaks off the program. -/
  | breakOff
  /-- A step that could not be read as one. -/
  | refused (verb : String) (f : Fault)

/-- What a handler does with an event, step by step. Whatever the steps give, there is an end. -/
inductive BusProgram (ω : Type) where
  | finish
  /-- Takes a step and goes on by what it gives. -/
  | take (step : BusStep ω) (next : BusOutcome → BusProgram ω)
  /-- Goes on by what is in memory. -/
  | consult (next : ω → BusProgram ω)
  | memorize (memory : ω) (next : BusProgram ω)

end

namespace BusStep

def verb {ω : Type} : BusStep ω → String
  | listen .. => "subscribe"
  | unsubscribe .. => "unsubscribe"
  | cancel .. => "unsubscribe"
  | publish .. => "publish"
  | count .. => "count"
  | name _ => "name"
  | breakOff => "breakOff"
  | refused verb _ => verb

end BusStep

namespace BusProgram

variable {ω : Type}

/-- Induction on what is left of a program, the handlers that it subscribes left aside. -/
@[elab_as_elim, induction_eliminator]
theorem induction {motive : BusProgram ω → Prop} (finish : motive .finish)
    (take : ∀ step next, (∀ outcome, motive (next outcome)) → motive (.take step next))
    (consult : ∀ next, (∀ memory, motive (next memory)) → motive (.consult next))
    (memorize : ∀ memory next, motive next → motive (.memorize memory next)) :
    ∀ program, motive program
  | .finish => finish
  | .take step next =>
    take step next fun outcome ↦ induction finish take consult memorize (next outcome)
  | .consult next => consult next fun memory ↦ induction finish take consult memorize (next memory)
  | .memorize memory next => memorize memory next (induction finish take consult memorize next)

/-- The program that takes steps in turn, whatever they give. -/
def ofScript : List (BusStep ω) → BusProgram ω
  | [] => .finish
  | step :: rest => .take step fun _ ↦ ofScript rest

end BusProgram

/-- A step of programs without a memory. -/
abbrev BusAction := BusStep Unit

/-- Subscribes a script under a label. It is run whatever the event is. -/
def BusAction.subscribe (bus : Nat) (kind : EventKind) (label : String)
    (script : List BusAction) : BusAction :=
  .listen bus kind label fun _ ↦ .ofScript script

structure BusHandler (ω : Type) where
  label : String
  body : Event → BusProgram ω

inductive BusTrace where
  /-- A handler began to run, as one of the handlers of a publication at a depth. -/
  | entered (depth : Nat) (label : String) (event : Event)
  /-- A handler finished a step. -/
  | did (label verb : String) (outcome : BusOutcome)

/-- A call of a handler, and whether the handler ran to its end. -/
structure BusCall (ω : Type) where
  subscription : Subscription (BusHandler ω)
  finished : Bool

/-- A publication that is over. -/
structure BusPublication (ω : Type) where
  /-- The number of publications that were under way, this one included. -/
  depth : Nat
  bus : Nat
  event : Event
  /-- The calls of handlers in turn. -/
  calls : List (BusCall ω)

structure BusNetwork (ω : Type) where
  buses : List (EventBus (BusHandler ω))
  /-- The numbers that labels name, latest first. -/
  labels : List (String × Nat)
  /-- What handlers keep in mind. -/
  memory : ω
  /-- The number of publications under way. -/
  depth : Nat
  /-- What happened, oldest first. -/
  trace : Array BusTrace
  /-- The publications that are over, the last one first. -/
  publications : List (BusPublication ω)

namespace BusNetwork

variable {ω : Type}

def ofBuses [Inhabited ω] (buses : List (EventBus (BusHandler ω))) : BusNetwork ω :=
  ⟨buses, [], default, 0, #[], []⟩

def setBus (n : BusNetwork ω) (i : Nat) (b : EventBus (BusHandler ω)) : BusNetwork ω :=
  { n with buses := n.buses.set i b }

def note (n : BusNetwork ω) (t : BusTrace) : BusNetwork ω := { n with trace := n.trace.push t }

/-- How events are published: the way that is open at the depth of a program. -/
abbrev Publish (ω : Type) := Nat → Event → BusNetwork ω → BusNetwork ω × BusOutcome

/-- Takes one step, publishing in the given way. -/
def act (publish : Publish ω) (n : BusNetwork ω) : BusStep ω → BusNetwork ω × BusOutcome
  | .listen bus kind label handler =>
    match n.buses[bus]? with
    | none => (n, .error .missing)
    | some b =>
      match b.subscribe kind ⟨label, handler⟩ with
      | .error f => (n, .error (.fault f))
      | .ok (b, id) =>
        ({ n.setBus bus b with labels := (label, id) :: n.labels }, .ok (.subscribed id))
  | .unsubscribe bus label =>
    match n.buses[bus]?, n.labels.lookup label with
    | some b, some id =>
      let (b, wasThere) := b.unsubscribe id
      (n.setBus bus b, .ok (.removed wasThere))
    | _, _ => (n, .error .missing)
  | .cancel bus id =>
    match n.buses[bus]? with
    | none => (n, .error .missing)
    | some b =>
      let (b, wasThere) := b.unsubscribe id
      (n.setBus bus b, .ok (.removed wasThere))
  | .publish bus event => publish bus event n
  | .count bus kind =>
    match n.buses[bus]? with
    | none => (n, .error .missing)
    | some b => (n, .ok (.count (b.handlerCount kind)))
  | .name bus =>
    match n.buses[bus]? with
    | none => (n, .error .missing)
    | some b => (n, .ok (.name b.name))
  | .breakOff => (n, .error .brokenOff)
  | .refused _ f => (n, .error (.fault f))

/-- Runs a program and tells whether it got to its end. -/
def runProgram (publish : Publish ω) (label : String) :
    BusProgram ω → BusNetwork ω → BusNetwork ω × Bool
  | .finish, n => (n, true)
  | .take step next, n =>
    match n.act publish step with
    | (n, .error .brokenOff) => (n, false)
    | (n, outcome) =>
      runProgram publish label (next outcome) (n.note (.did label step.verb outcome))
  | .consult next, n => runProgram publish label (next n.memory) n
  | .memorize memory next, n => runProgram publish label next { n with memory }

/-- Calls a handler with an event. -/
def call (publish : Publish ω) (event : Event) (s : Subscription (BusHandler ω))
    (n : BusNetwork ω) : BusNetwork ω × BusCall ω :=
  let (n, finished) := runProgram publish s.handler.label (s.handler.body event)
    (n.note (.entered n.depth s.handler.label event))
  (n, ⟨s, finished⟩)

/-- Calls handlers one after the other. -/
def deliver (publish : Publish ω) (event : Event) :
    List (Subscription (BusHandler ω)) → BusNetwork ω → BusNetwork ω × List (BusCall ω)
  | [], n => (n, [])
  | s :: rest, n =>
    let (n, first) := call publish event s n
    let (n, calls) := deliver publish event rest n
    (n, first :: calls)

/-- A publication begins. -/
def enter (n : BusNetwork ω) : BusNetwork ω := { n with depth := n.depth + 1 }

/-- A publication that began at a depth is over. -/
def leave (n : BusNetwork ω) (depth bus : Nat) (event : Event) (calls : List (BusCall ω)) :
    BusNetwork ω :=
  { n with depth, publications := ⟨depth + 1, bus, event, calls⟩ :: n.publications }

/-- Publishes an event to the handlers its kind has now, which may publish in turn while there is
room for publications under way. -/
def publishWithin : (room : Nat) → Publish ω
  | room, bus, event, n =>
    match n.buses[bus]? with
    | none => (n, .error .missing)
    | some b =>
      match b.checkDepth n.depth event.kind with
      | .error f => (n, .error (.fault f))
      | .ok () =>
        match room with
        | 0 => (n, .error .missing)
        | room + 1 =>
          let (after, calls) :=
            deliver (publishWithin room) event (b.handlers event.kind) n.enter
          (after.leave n.depth bus event calls, .ok (.delivered (calls.countP (·.finished))))

/-- The depth at which every bus refuses to publish. -/
def ceiling (n : BusNetwork ω) : Nat := (n.buses.map (·.maxDepth)).foldr max 0

/-- Publishes an event. There is always room enough, as no bus publishes at the ceiling. -/
def publish : Publish ω := fun bus event n ↦ publishWithin (n.ceiling - n.depth) bus event n

/-- Takes one step from outside of all handlers. -/
def perform (n : BusNetwork ω) (step : BusStep ω) : BusNetwork ω × BusOutcome := n.act publish step

end BusNetwork

end MeshBridge
