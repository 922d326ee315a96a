import MeshBridge.Bus.Network
import Mathlib.Tactic.SplitIfs
/-!
What activity on the buses leaves behind, whatever the handlers do. It changes no limit, ends at the
depth at which it began, and puts publications on record that were all deeper than that and within
the limit of their bus (`Grown`). Each function keeps this when the way of publishing below it does,
so every publication does (`grown_publishWithin`).
-/

set_option autoImplicit false
set_option relaxedAutoImplicit false

namespace MeshBridge

namespace EventBus

variable {α : Type} {b after : EventBus α} {kind : EventKind} {handler : α} {id : Nat}

/-- A subscription that is made is the last of its bus and has a new number. -/
theorem subscribe_eq_ok (h : b.subscribe kind handler = .ok (after, id)) :
    after = { b with
      subscriptions := b.subscriptions ++ [⟨b.nextId, kind, handler⟩]
      nextId := b.nextId + 1 } := by
  unfold subscribe at h
  split_ifs at h
  cases h
  rfl

/-- The fault of an event that is published while too many publications are under way. -/
def tooDeep (depth : Nat) (kind : EventKind) : Fault :=
  .resourceExhausted ("publish depth " ++ toString depth ++ " for " ++ kind.name)

/-- A bus publishes where fewer publications are under way than it allows. -/
theorem checkDepth_of_lt {depth : Nat} (h : depth < b.maxDepth) (kind : EventKind) :
    b.checkDepth depth kind = .ok () :=
  if_neg (Nat.not_le_of_lt h)

theorem checkDepth_of_le {depth : Nat} (h : b.maxDepth ≤ depth) (kind : EventKind) :
    b.checkDepth depth kind = .error (tooDeep depth kind) :=
  if_pos h

end EventBus

namespace BusNetwork

variable {ω : Type} {n between after : BusNetwork ω} {publish : Publish ω}

/-! ### Limits -/

/-- How deep each bus publishes. -/
def limits (n : BusNetwork ω) : List Nat := n.buses.map (·.maxDepth)

theorem limits_setBus {i : Nat} {b changed : EventBus (BusHandler ω)} (hbus : n.buses[i]? = some b)
    (hsame : changed.maxDepth = b.maxDepth) : (n.setBus i changed).limits = n.limits := by
  unfold limits setBus
  refine List.ext_getElem? fun j ↦ ?_
  rw [List.getElem?_map, List.getElem?_map, List.getElem?_set]
  split_ifs with hj hi
  · rw [← hj, hbus, Option.map_some, Option.map_some, hsame]
  · rw [← hj, List.getElem?_eq_none (Nat.le_of_not_lt hi)]
  · rfl

theorem ceiling_eq (h : after.limits = n.limits) : after.ceiling = n.ceiling :=
  congrArg (List.foldr max 0) h

theorem le_foldr_max {limits : List Nat} {limit : Nat} (h : limit ∈ limits) :
    limit ≤ limits.foldr max 0 := by
  induction limits with
  | nil => cases h
  | cons first rest ih =>
    rw [List.foldr_cons]
    rcases List.mem_cons.1 h with rfl | hrest
    · exact Nat.le_max_left ..
    · exact Nat.le_trans (ih hrest) (Nat.le_max_right ..)

/-- No bus publishes at the ceiling. -/
theorem limit_le_ceiling {i limit : Nat} (h : n.limits[i]? = some limit) : limit ≤ n.ceiling :=
  le_foldr_max (List.mem_of_getElem? h)

theorem limits_of_bus {i : Nat} {b : EventBus (BusHandler ω)} (hbus : n.buses[i]? = some b) :
    n.limits[i]? = some b.maxDepth := by
  rw [limits, List.getElem?_map, hbus]
  rfl

/-! ### Growth -/

/-- What activity on the buses leaves behind. -/
structure Grown (n after : BusNetwork ω) : Prop where
  limits : after.limits = n.limits
  depth : after.depth = n.depth
  /-- All that was published meanwhile was published from here on, and within the limits. -/
  record : ∃ added, after.publications = added ++ n.publications ∧
    ∀ p ∈ added, n.depth < p.depth ∧ ∃ limit, n.limits[p.bus]? = some limit ∧ p.depth ≤ limit

theorem Grown.of_same (hlimits : after.limits = n.limits) (hdepth : after.depth = n.depth)
    (hrecord : after.publications = n.publications) : Grown n after :=
  ⟨hlimits, hdepth, [], hrecord, by simp⟩

theorem Grown.refl (n : BusNetwork ω) : Grown n n := .of_same rfl rfl rfl

theorem Grown.trans (hfirst : Grown n between) (hsecond : Grown between after) : Grown n after := by
  obtain ⟨first, hfirstRecord, hfirstDeep⟩ := hfirst.record
  obtain ⟨second, hsecondRecord, hsecondDeep⟩ := hsecond.record
  refine ⟨hsecond.limits.trans hfirst.limits, hsecond.depth.trans hfirst.depth, second ++ first, ?_,
    ?_⟩
  · rw [hsecondRecord, hfirstRecord, List.append_assoc]
  · intro p hp
    rcases List.mem_append.1 hp with hlater | hearlier
    · rw [← hfirst.depth, ← hfirst.limits]
      exact hsecondDeep p hlater
    · exact hfirstDeep p hearlier

/-- A bus is changed, but not its limit. -/
theorem Grown.setBus {i : Nat} {b changed : EventBus (BusHandler ω)} (hbus : n.buses[i]? = some b)
    (hsame : changed.maxDepth = b.maxDepth) : Grown n (n.setBus i changed) :=
  .of_same (limits_setBus hbus hsame) rfl rfl

/-- Assumes: a way of publishing that leaves no more behind than `Grown` says. -/
theorem grown_act (hpublish : ∀ bus event m, Grown m (publish bus event m).1) (n : BusNetwork ω)
    (step : BusStep ω) : Grown n (n.act publish step).1 := by
  cases step with
  | listen bus kind label handler =>
    dsimp only [act]
    split
    · exact .refl n
    · next b hbus =>
      split
      · exact .refl n
      · next changed id hsubscribe =>
        have hchanged := EventBus.subscribe_eq_ok hsubscribe
        exact (Grown.setBus hbus (by rw [hchanged])).trans (.of_same rfl rfl rfl)
  | unsubscribe bus label =>
    dsimp only [act]
    split
    · next b id hbus _ => exact .setBus hbus rfl
    · exact .refl n
  | cancel bus id =>
    dsimp only [act]
    split
    · exact .refl n
    · next b hbus => exact .setBus hbus rfl
  | publish bus event => exact hpublish bus event n
  | count bus kind =>
    dsimp only [act]
    split <;> exact .refl n
  | name bus =>
    dsimp only [act]
    split <;> exact .refl n
  | breakOff | refused => exact .refl n

theorem grown_of_act (hpublish : ∀ bus event m, Grown m (publish bus event m).1)
    {step : BusStep ω} {outcome : BusOutcome} (hact : n.act publish step = (after, outcome)) :
    Grown n after := by
  have hgrown := grown_act hpublish n step
  rw [hact] at hgrown
  exact hgrown

theorem grown_runProgram (hpublish : ∀ bus event m, Grown m (publish bus event m).1)
    (label : String) (program : BusProgram ω) (n : BusNetwork ω) :
    Grown n (runProgram publish label program n).1 := by
  induction program generalizing n with
  | finish => exact .refl n
  | take step next ih =>
    unfold runProgram
    split
    · next m hact => exact grown_of_act hpublish hact
    · next m outcome _ hact =>
      have hnoted : Grown m (m.note (.did label step.verb outcome)) := .of_same rfl rfl rfl
      exact ((grown_of_act hpublish hact).trans hnoted).trans (ih outcome _)
  | consult next ih => exact ih n.memory n
  | memorize memory next ih =>
    have hmemorized : Grown n { n with memory } := .of_same rfl rfl rfl
    exact hmemorized.trans (ih _)

theorem grown_call (hpublish : ∀ bus event m, Grown m (publish bus event m).1) (event : Event)
    (s : Subscription (BusHandler ω)) (n : BusNetwork ω) : Grown n (call publish event s n).1 := by
  have hentered : Grown n (n.note (.entered n.depth s.handler.label event)) := .of_same rfl rfl rfl
  exact hentered.trans (grown_runProgram hpublish s.handler.label (s.handler.body event) _)

theorem grown_deliver (hpublish : ∀ bus event m, Grown m (publish bus event m).1) (event : Event)
    (handlers : List (Subscription (BusHandler ω))) (n : BusNetwork ω) :
    Grown n (deliver publish event handlers n).1 := by
  induction handlers generalizing n with
  | nil => exact .refl n
  | cons s rest ih => exact (grown_call hpublish event s n).trans (ih _)

/-- What is left behind by handlers that were called one level deeper, when they are done. -/
theorem Grown.leave {bus : Nat} {event : Event} {calls : List (BusCall ω)}
    (h : Grown n.enter after) {limit : Nat} (hlimit : n.limits[bus]? = some limit)
    (hroom : n.depth < limit) : Grown n (after.leave n.depth bus event calls) := by
  obtain ⟨added, hrecord, hdeep⟩ := h.record
  refine ⟨h.limits, rfl, ⟨n.depth + 1, bus, event, calls⟩ :: added, ?_, ?_⟩
  · show _ :: after.publications = _
    rw [hrecord]
    rfl
  · intro p hp
    rcases List.mem_cons.1 hp with rfl | hadded
    · exact ⟨Nat.lt_succ_self _, limit, hlimit, hroom⟩
    · obtain ⟨hdepth, hwithin⟩ := hdeep p hadded
      exact ⟨Nat.lt_trans (Nat.lt_succ_self _) hdepth, hwithin⟩

/-! ### Room

The nesting of publications is bounded by the ceiling. -/

/-- Whether publications can be nested as deep as the limits allow, if so many more may be. -/
def HasRoom (n : BusNetwork ω) (room : Nat) : Prop := n.ceiling ≤ n.depth + room

theorem hasRoom_ceiling (n : BusNetwork ω) : n.HasRoom (n.ceiling - n.depth) :=
  Nat.sub_le_iff_le_add'.1 (Nat.le_refl _)

/-- There is as much room after activity on the buses as before it. -/
theorem HasRoom.grown {room : Nat} (h : n.HasRoom room) (hgrown : Grown n after) :
    after.HasRoom room := by
  unfold HasRoom
  rw [ceiling_eq hgrown.limits, hgrown.depth]
  exact h

theorem HasRoom.enter {room : Nat} (h : n.HasRoom (room + 1)) : n.enter.HasRoom room := by
  have hdepth : n.enter.depth + room = n.depth + (room + 1) := Nat.add_right_comm ..
  unfold HasRoom
  rw [hdepth]
  exact h

/-- Where there is no room at all, every bus refuses to publish. -/
theorem HasRoom.limit_le {i : Nat} {b : EventBus (BusHandler ω)} (h : n.HasRoom 0)
    (hbus : n.buses[i]? = some b) : b.maxDepth ≤ n.depth :=
  Nat.le_trans (limit_le_ceiling (limits_of_bus hbus)) h

/-! ### What a publication comes to

One equation for each of its ends. -/

section Ends

variable {bus room : Nat} {b : EventBus (BusHandler ω)}

theorem publishWithin_of_missing (hbus : n.buses[bus]? = none) (room : Nat) (event : Event) :
    publishWithin room bus event n = (n, .error .missing) := by
  unfold publishWithin
  rw [hbus]

theorem publishWithin_of_le (hbus : n.buses[bus]? = some b) (hdeep : b.maxDepth ≤ n.depth)
    (room : Nat) (event : Event) :
    publishWithin room bus event n =
      (n, .error (.fault (EventBus.tooDeep n.depth event.kind))) := by
  unfold publishWithin
  simp only [hbus, EventBus.checkDepth_of_le hdeep]

theorem publishWithin_of_lt (hbus : n.buses[bus]? = some b) (hopen : n.depth < b.maxDepth)
    (room : Nat) (event : Event) :
    publishWithin (room + 1) bus event n =
      ((deliver (publishWithin room) event (b.handlers event.kind) n.enter).1.leave n.depth bus
        event
          (deliver (publishWithin room) event (b.handlers event.kind) n.enter).2,
        .ok (.delivered ((deliver (publishWithin room) event (b.handlers event.kind)
          n.enter).2.countP (·.finished)))) := by
  rw [publishWithin]
  simp only [hbus, EventBus.checkDepth_of_lt hopen]

end Ends

/-- Whatever handlers do, a publication leaves no more behind than `Grown` says. -/
theorem grown_publishWithin (room bus : Nat) (event : Event) (n : BusNetwork ω) :
    Grown n (publishWithin room bus event n).1 := by
  induction room generalizing bus event n with
  | zero =>
    unfold publishWithin
    split
    · exact .refl n
    · split <;> exact .refl n
  | succ room ih =>
    cases hbus : n.buses[bus]? with
    | none =>
      rw [publishWithin_of_missing hbus]
      exact .refl n
    | some b =>
      rcases Nat.lt_or_ge n.depth b.maxDepth with hopen | hdeep
      · rw [publishWithin_of_lt hbus hopen]
        exact (grown_deliver ih event _ n.enter).leave (limits_of_bus hbus) hopen
      · rw [publishWithin_of_le hbus hdeep]
        exact .refl n

end BusNetwork

end MeshBridge
