import MeshBridge.Proofs.Coordinator.Changes
import MeshBridge.Proofs.Gateway.Nesting
import MeshBridge.Radio.Simulated
import MeshBridge.Store.Memory
/-!
Who hears of a call on the coordinator of a gateway. The call may be made from outside or from a
script on the bus, in the midst of publications. While fewer of these are under way than the bus
allows, each event of the call reaches every handler that its kind has when it is published, in
their order and whether or not the ones before got to their end. Where as many are under way as the
bus allows, the call is made all the same and none of its events reaches anyone
(`conveyed_of_past`). So a bridge or a recorder that follows the events may miss a change that a
script made (`change_not_heard`).
-/

set_option autoImplicit false
set_option relaxedAutoImplicit false

namespace MeshBridge.Gateway

open Coordinator (Past History Turn)

variable {ρ σ : Type} [Radio ρ] [KeyValueStore σ]

/-! ### Events that are heard -/

/-- Handlers are called on an event, one after the other, each on the gateway that the one before
left. What their scripts do is done as from outside. -/
inductive Called (e : Event) : List Handler → Gateway ρ σ → Gateway ρ σ → Prop
  | done (g : Gateway ρ σ) : Called e [] g g
  | call {handler : Handler} {rest : List Handler} {g after : Gateway ρ σ}
      (hrest : Called e rest (handle publish e g handler).1 after) :
    Called e (handler :: rest) g after

/-- An event reaches every handler that its kind has now. -/
structure Heard (e : Event) (g after : Gateway ρ σ) : Prop where
  /-- The handlers are called one level deeper. -/
  called : ∃ last, Called e ((g.bus.handlers e.kind).map (·.handler))
    { g with depth := g.depth + 1 } last ∧ after = { last with depth := g.depth }
  /-- Those that keep a record have the event on record, and nothing is taken off it. -/
  recorded : ∃ seen, after.trace.toList = g.trace.toList ++ seen ∧
    ∀ s ∈ g.bus.handlers e.kind, s.handler = .record → .event e ∈ seen

/-- Events are heard one after the other. -/
inductive HeardInTurn : List Event → Gateway ρ σ → Gateway ρ σ → Prop
  | done (g : Gateway ρ σ) : HeardInTurn [] g g
  | hear {e : Event} {rest : List Event} {g between after : Gateway ρ σ}
      (hfirst : Heard e g between) (hrest : HeardInTurn rest between after) :
    HeardInTurn (e :: rest) g after

theorem called_deliver (e : Event) (handlers : List Handler) (g : Gateway ρ σ) :
    Called e handlers g (deliver publish e handlers g).1 := by
  induction handlers generalizing g with
  | nil => exact .done g
  | cons handler rest ih => exact .call (ih (handle publish e g handler).1)

/-- A handler that keeps a record puts the event on it, and the handlers after it leave it there. -/
theorem recorded_deliver (e : Event) (handlers : List Handler) (g : Gateway ρ σ) :
    ∃ seen, (deliver publish e handlers g).1.trace.toList = g.trace.toList ++ seen ∧
      (.record ∈ handlers → .event e ∈ seen) := by
  induction handlers generalizing g with
  | nil => exact ⟨[], (List.append_nil _).symm, nofun⟩
  | cons handler rest ih =>
    obtain ⟨first, hfirst⟩ := (steady_handle steady_publish e g handler).seen
    obtain ⟨more, hmore, hrecords⟩ := ih (handle publish e g handler).1
    refine ⟨first ++ more, ?_, ?_⟩
    · rw [← List.append_assoc, hfirst]
      exact hmore
    · intro hmem
      rcases List.mem_cons.1 hmem with rfl | hrest
      · have hnoted : (handle publish e g .record).1.trace.toList = g.trace.toList ++ [.event e] :=
          Array.toList_push
        rw [hnoted] at hfirst
        rw [List.append_cancel_left hfirst]
        exact List.mem_append_left more (List.mem_singleton_self _)
      · exact List.mem_append_right first (hrecords hrest)

variable {g : Gateway ρ σ}

theorem heard_publish (hopen : g.depth < g.bus.maxDepth) (e : Event) :
    Heard e g (publish e g).1 := by
  set handlers := (g.bus.handlers e.kind).map (·.handler) with hhandlers
  set inner : Gateway ρ σ := { g with depth := g.depth + 1 } with hinner
  have hpublish : (publish e g).1 =
      { (deliver publish e handlers inner).1 with depth := g.depth } :=
    congrArg (·.1) (publish_of_lt hopen e)
  obtain ⟨seen, hseen, hrecords⟩ := recorded_deliver e handlers inner
  refine ⟨⟨_, called_deliver e handlers inner, hpublish⟩, seen, ?_, ?_⟩
  · rw [hpublish]
    exact hseen
  · intro s hs hrecord
    exact hrecords (hhandlers ▸ List.mem_map.2 ⟨s, hs, hrecord⟩)

/-- What is heard between two events leaves the depth and the limit alone, so if the first is heard
then all are. -/
theorem heardInTurn_publishAll (hopen : g.depth < g.bus.maxDepth) (events : List Event) :
    HeardInTurn events g (publishAll publish g events) := by
  induction events generalizing g with
  | nil => exact .done g
  | cons e rest ih =>
    have hsteady := steady_publish e g
    have hstill : (publish e g).1.depth < (publish e g).1.bus.maxDepth := by
      rw [hsteady.depth, hsteady.maxDepth]
      exact hopen
    exact .hear (heard_publish hopen e) (ih hstill)

theorem publishAll_of_le (hdeep : g.bus.maxDepth ≤ g.depth) (events : List Event) :
    publishAll publish g events = g := by
  induction events with
  | nil => rfl
  | cons e rest ih =>
    show publishAll publish (publish e g).1 rest = g
    rw [publish_of_le hdeep, ih]

/-! ### Calls -/

/-- What comes of a call on the coordinator of a gateway, at whatever depth it is made. -/
structure Conveyed (g : Gateway ρ σ) (t : Turn ρ σ) : Prop where
  /-- Whatever it changes, it has an event for it. -/
  candid : t.Candid
  /-- It gives the same whether or not its events are heard. -/
  outcome : (g.perform (.call t.call)).2 = plain replyOf t.result
  heard : g.depth < g.bus.maxDepth →
    HeardInTurn t.events { g with coordinator := t.after } (g.perform (.call t.call)).1
  /-- Where too many publications are under way, the change is all there is. -/
  withheld : g.bus.maxDepth ≤ g.depth →
    (g.perform (.call t.call)).1 = { g with coordinator := t.after }

/-- No change is without its event, and no event goes unheard while fewer publications are under way
than the bus allows, whatever the handlers do. -/
theorem conveyed_of_past {others : Registry → Registry → Prop} {config : AdapterConfig}
    {corrections : CorrectionTable} {h : History ρ σ}
    (hpast : Past others config corrections g.coordinator h) (call : Coordinator.Call) :
    Conveyed g ⟨g.coordinator, g.now, call⟩ := by
  set t : Turn ρ σ := ⟨g.coordinator, g.now, call⟩ with ht
  set changed : Gateway ρ σ := { g with coordinator := t.after } with hchanged
  have hperform : g.perform (.call t.call) =
      (publishAll publish changed t.events, plain replyOf t.result) := rfl
  refine ⟨Turn.candid hpast.proper.1 hpast.settled, by rw [hperform], ?_, ?_⟩
  · intro hopen
    have hroom : changed.depth < changed.bus.maxDepth := hopen
    rw [hperform]
    exact heardInTurn_publishAll hroom t.events
  · intro hdeep
    have hfull : changed.bus.maxDepth ≤ changed.depth := hdeep
    rw [hperform]
    exact publishAll_of_le hfull t.events

/-! ### A script that lets a device in -/

/-- A gateway whose stack is being set up. All events are recorded, and a script announces a device
as soon as the stack is up. -/
def doorkeeper (limit : Nat) : Gateway SimulatedRadio MemoryStore :=
  let g : Gateway SimulatedRadio MemoryStore :=
    ofParts ⟨default, ⟨10, limit⟩, default, .empty, SimulatedRadio.empty, none⟩
  { g with
    coordinator := g.coordinator.run [(⟨0, 0⟩, .init)]
    bus := { g.bus with
      subscriptions := [⟨1, .stackUp, .record⟩, ⟨2, .deviceJoined, .record⟩,
        ⟨3, .stackUp, .script [("announce", .call (.announce ⟨7⟩ 5))]⟩]
      nextId := 4 } }

/-- In the midst of one publication of two that the bus allows, the device that the script lets in
is heard of. -/
theorem conveyed_of_past_doorkeeper :
    let inside : Gateway SimulatedRadio MemoryStore := { doorkeeper 2 with depth := 1 }
    let t : Turn SimulatedRadio MemoryStore :=
      ⟨inside.coordinator, inside.now, .announce ⟨7⟩ 5⟩
    t.events = [.deviceJoined ⟨7⟩ 5] ∧ inside.depth < inside.bus.maxDepth ∧ Conveyed inside t := by
  intro inside t
  obtain ⟨h, hpast, -⟩ := Coordinator.past_run Eq default .empty SimulatedRadio.empty
    (none : Option MemoryStore) [(⟨0, 0⟩, .init)]
  exact ⟨by decide, by decide, conveyed_of_past (g := inside) hpast (.announce ⟨7⟩ 5)⟩

/-- Where the bus allows one publication at a time, the script lets the device in and is told that
it did, and the recorder of devices that join is never called. -/
theorem change_not_heard :
    let g := doorkeeper 1
    let after := (g.perform (.call (.formed 0 0x1A62 15))).1
    (1 ≤ g.bus.maxHandlers ∧ 1 ≤ g.bus.maxDepth) ∧
      (g.bus.handlers .deviceJoined).map (·.handler) = [.record] ∧
      g.coordinator.address? ⟨7⟩ = none ∧ after.coordinator.address? ⟨7⟩ = some 5 ∧
      after.trace.toList = [.event (.stackUp 0x1A62 15), .did "announce" (.ok .done)] := by
  exact ⟨by decide, rfl, by decide, by decide, rfl⟩

end MeshBridge.Gateway
