import MeshBridge.Proofs.Bus.Delivery
import Mathlib.Algebra.BigOperators.Group.Finset.Basic
import Mathlib.Algebra.BigOperators.Ring.Finset
/-!
How far publications go. A publication comes to an end whatever the handlers do, as no more can be
under way than the largest limit of the buses, and a bus refuses what is published at its limit
(`bounded`).

Handlers that publish the event again that they are called with are stopped by nothing else. Below a
limit of `D`, one publication to `k` of them makes `k + k² + … + k^D` calls (`Publishes.calls`,
`echoCount_one`), for every `k` that a bus has room for (`calls_of_subscribed`).
-/

set_option autoImplicit false
set_option relaxedAutoImplicit false

namespace MeshBridge

/-! ### As many handlers as there may be -/

namespace EventBus

variable {α : Type}

/-- Subscribes handlers for one kind, one after the other. -/
def subscribeAll (kind : EventKind) : List α → EventBus α → Except Fault (EventBus α)
  | [], b => .ok b
  | handler :: rest, b => do
    let (b, _) ← b.subscribe kind handler
    subscribeAll kind rest b

theorem handlers_subscribe {b after : EventBus α} {kind : EventKind} {handler : α} {id : Nat}
    (h : b.subscribe kind handler = .ok (after, id)) :
    (after.handlers kind).map (·.handler) = (b.handlers kind).map (·.handler) ++ [handler] := by
  rw [subscribe_eq_ok h]
  simp [handlers]

theorem subscribe_of_lt {b : EventBus α} {kind : EventKind} (handler : α)
    (hfree : b.handlerCount kind < b.maxHandlers) :
    ∃ after id, b.subscribe kind handler = .ok (after, id) :=
  ⟨_, _, if_neg (Nat.not_le_of_lt hfree)⟩

/-- A bus takes all handlers that it has room for. -/
theorem subscribeAll_of_le {b : EventBus α} {kind : EventKind} {handlers : List α}
    (hroom : b.handlerCount kind + handlers.length ≤ b.maxHandlers) :
    ∃ after, b.subscribeAll kind handlers = .ok after ∧ after.maxDepth = b.maxDepth ∧
      (after.handlers kind).map (·.handler) = (b.handlers kind).map (·.handler) ++ handlers := by
  induction handlers generalizing b with
  | nil => exact ⟨b, rfl, rfl, (List.append_nil _).symm⟩
  | cons handler rest ih =>
    rw [List.length_cons] at hroom
    have hfree : b.handlerCount kind < b.maxHandlers := by omega
    obtain ⟨between, id, hfirst⟩ := subscribe_of_lt handler hfree
    have hhandlers := handlers_subscribe hfirst
    have hcount : between.handlerCount kind = b.handlerCount kind + 1 := by
      simpa [handlerCount] using congrArg List.length hhandlers
    have hlimits : between.maxDepth = b.maxDepth ∧ between.maxHandlers = b.maxHandlers := by
      rw [subscribe_eq_ok hfirst]
      exact ⟨rfl, rfl⟩
    have hrestRoom : between.handlerCount kind + rest.length ≤ between.maxHandlers := by omega
    obtain ⟨after, hrest, hdepth, hall⟩ := ih hrestRoom
    refine ⟨after, ?_, hdepth.trans hlimits.1, ?_⟩
    · rw [subscribeAll, hfirst]
      exact hrest
    · rw [hall, hhandlers, List.append_assoc]
      rfl

end EventBus

namespace BusNetwork

variable {ω : Type} {n after : BusNetwork ω} {bus : Nat} {event : Event}

/-! ### Handlers that publish again -/

/-- Whether a program publishes an event so many times, and does nothing else to the buses. -/
inductive Republishes (bus : Nat) (event : Event) : Nat → BusProgram ω → Prop
  | finish : Republishes bus event 0 .finish
  | breakOff (next : BusOutcome → BusProgram ω) : Republishes bus event 0 (.take .breakOff next)
  | publish {times : Nat} {next : BusOutcome → BusProgram ω}
      (hnext : ∀ outcome, Republishes bus event times (next outcome)) :
    Republishes bus event (times + 1) (.take (.publish bus event) next)
  | consult {times : Nat} {next : ω → BusProgram ω}
      (hnext : ∀ memory, Republishes bus event times (next memory)) :
    Republishes bus event times (.consult next)
  | memorize {times : Nat} {memory : ω} {next : BusProgram ω}
      (hnext : Republishes bus event times next) :
    Republishes bus event times (.memorize memory next)

/-- How many handlers began to run. -/
def callCount (n : BusNetwork ω) : Nat :=
  n.trace.toList.countP fun
    | .entered .. => true
    | .did .. => false

/-- The buses are as they were, after so many calls of handlers. -/
structure Calls (count : Nat) (n after : BusNetwork ω) : Prop where
  buses : after.buses = n.buses
  depth : after.depth = n.depth
  count : callCount after = callCount n + count

theorem Calls.refl (n : BusNetwork ω) : Calls 0 n n := ⟨rfl, rfl, rfl⟩

theorem Calls.trans {between : BusNetwork ω} {first second : Nat} (hfirst : Calls first n between)
    (hsecond : Calls second between after) : Calls (first + second) n after where
  buses := hsecond.buses.trans hfirst.buses
  depth := hsecond.depth.trans hfirst.depth
  count := by rw [hsecond.count, hfirst.count, Nat.add_assoc]

theorem Calls.note_did {count : Nat} (h : Calls count n after) {label verb : String}
    {outcome : BusOutcome} : Calls count n (after.note (.did label verb outcome)) :=
  ⟨h.buses, h.depth, by simpa [callCount, note] using h.count⟩

theorem calls_note_entered (n : BusNetwork ω) (depth : Nat) (label : String) (event : Event) :
    Calls 1 n (n.note (.entered depth label event)) :=
  ⟨rfl, rfl, by simp [callCount, note]⟩

section Echo

variable {count times depth : Nat} {buses : List (EventBus (BusHandler ω))}

/-- Assumes: what one publication comes to from here. -/
theorem Runs.calls
    (hpublish : ∀ (m : BusNetwork ω) result, m.buses = buses → m.depth = depth →
      Publishes bus event m result → Calls count m result.1)
    {program : BusProgram ω} (hprogram : Republishes bus event times program) {label : String}
    {result : BusNetwork ω × Bool} (hrun : Runs label program n result) (hbuses : n.buses = buses)
    (hdepth : n.depth = depth) : Calls (times * count) n result.1 := by
  induction hprogram generalizing n with
  | finish =>
    cases hrun
    rw [Nat.zero_mul]
    exact .refl n
  | breakOff next =>
    rw [Nat.zero_mul]
    cases hrun with
    | breakOff hstep =>
      cases steps_breakOff hstep
      exact .refl n
    | take hstep hgoes =>
      cases steps_breakOff hstep
      exact absurd rfl hgoes
  | publish hnext ih =>
    cases hrun with
    | breakOff hstep => exact absurd rfl (steps_publish hstep).goes
    | take hstep hgoes hrest =>
      have hfirst := hpublish n _ hbuses hdepth (steps_publish hstep)
      have hothers := ih _ hrest (hfirst.buses.trans hbuses) (hfirst.depth.trans hdepth)
      rw [Nat.succ_mul, Nat.add_comm]
      exact hfirst.note_did.trans hothers
  | consult hnext ih =>
    cases hrun with
    | consult hrest => exact ih _ hrest hbuses hdepth
  | memorize hnext ih =>
    cases hrun with
    | memorize hrest =>
      have hothers := ih hrest hbuses hdepth
      exact ⟨hothers.buses, hothers.depth, hothers.count⟩

theorem Delivers.calls
    (hpublish : ∀ (m : BusNetwork ω) result, m.buses = buses → m.depth = depth →
      Publishes bus event m result → Calls count m result.1)
    {handlers : List (Subscription (BusHandler ω))}
    (hhandlers : ∀ s ∈ handlers, Republishes bus event times (s.handler.body event))
    {result : BusNetwork ω × List (BusCall ω)} (hcalls : Delivers event handlers n result)
    (hbuses : n.buses = buses) (hdepth : n.depth = depth) :
    Calls (handlers.length * (1 + times * count)) n result.1 := by
  induction handlers generalizing n result with
  | nil =>
    cases hcalls
    rw [List.length_nil, Nat.zero_mul]
    exact .refl n
  | cons s rest ih =>
    cases hcalls with
    | call hrun hrest =>
      have hentered := calls_note_entered n n.depth s.handler.label event
      have hprogram := hhandlers s List.mem_cons_self
      have hfirst := hentered.trans (hrun.calls hpublish hprogram hbuses hdepth)
      have hothers := ih (fun t ht ↦ hhandlers t (List.mem_cons_of_mem s ht)) hrest
        (hfirst.buses.trans hbuses) (hfirst.depth.trans hdepth)
      rw [List.length_cons, Nat.succ_mul, Nat.add_comm]
      exact hfirst.trans hothers

/-- How many calls one publication comes to, if it can be nested so deep and each of `k` handlers
publishes again so many times. -/
def echoCount (k times : Nat) : Nat → Nat
  | 0 => 0
  | room + 1 => k * (1 + times * echoCount k times room)

/-- By induction on how much deeper publications can be nested. -/
theorem Publishes.calls {room : Nat} {b : EventBus (BusHandler ω)}
    (hecho : ∀ s ∈ b.handlers event.kind, Republishes bus event times (s.handler.body event))
    {result : BusNetwork ω × BusOutcome} (hpublishes : Publishes bus event n result)
    (hbus : n.buses[bus]? = some b) (hroom : n.depth + room = b.maxDepth) :
    Calls (echoCount (b.handlerCount event.kind) times room) n result.1 := by
  induction room generalizing n result with
  | zero =>
    cases hpublishes with
    | missing hnone => exact .refl n
    | refused _ _ => exact .refl n
    | delivered hother hopen hcalls =>
      cases hbus.symm.trans hother
      exact absurd hroom (Nat.ne_of_lt hopen)
  | succ room ih =>
    cases hpublishes with
    | missing hnone => cases hbus.symm.trans hnone
    | refused hother hdeep =>
      cases hbus.symm.trans hother
      omega
    | delivered hother hopen hcalls =>
      cases hbus.symm.trans hother
      have hbelow : ∀ (m : BusNetwork ω) result, m.buses = n.buses → m.depth = n.depth + 1 →
          Publishes bus event m result →
            Calls (echoCount (b.handlerCount event.kind) times room) m result.1 := by
        intro m result hbuses hdepth hpublishes
        exact ih hpublishes (by rw [hbuses, hbus]) (by rw [hdepth]; omega)
      have hserved := hcalls.calls hbelow hecho rfl rfl
      exact ⟨hserved.buses, rfl, hserved.count⟩

theorem echoCount_one (k room : Nat) :
    echoCount k 1 room = ∑ j ∈ Finset.range room, k ^ (j + 1) := by
  induction room with
  | zero => rfl
  | succ room ih =>
    calc k * (1 + 1 * echoCount k 1 room)
        = k + ∑ j ∈ Finset.range room, k * k ^ (j + 1) := by
          rw [ih, Nat.one_mul, Nat.mul_add, Nat.mul_one, Finset.mul_sum]
      _ = k + ∑ j ∈ Finset.range room, k ^ (j + 1 + 1) := by simp only [Nat.pow_succ']
      _ = ∑ j ∈ Finset.range (room + 1), k ^ (j + 1) := by
          rw [Finset.sum_range_succ', Nat.zero_add, Nat.pow_one, Nat.add_comm]

end Echo

/-- The program that publishes the event again. -/
def echo (bus : Nat) : BusHandler ω :=
  ⟨"echo", fun event ↦ .take (.publish bus event) fun _ ↦ .finish⟩

theorem republishes_echo (bus : Nat) (event : Event) :
    Republishes bus event 1 ((echo bus : BusHandler ω).body event) :=
  .publish fun _ ↦ .finish

/-! ### What bounds a publication -/

/-- What bounds the publication of an event, whatever handlers there are. -/
structure Bounded (n : BusNetwork ω) (bus : Nat) (event : Event) : Prop where
  /-- By the rules, which bound nothing, it comes to an end, and to one only. -/
  ends : ∃! result, Publishes bus event n result
  /-- No more publications are under way than the bus of the last of them allows, and so never more
  than the largest limit. -/
  within : ∀ result, Publishes bus event n result →
    ∃ added, result.1.publications = added ++ n.publications ∧
      ∀ p ∈ added, ∃ b, n.buses[p.bus]? = some b ∧ p.depth ≤ b.maxDepth ∧ p.depth ≤ n.ceiling
  /-- At the limit of its bus or above it an event is refused. No handler is called, and nothing is
  changed. -/
  refuses : ∀ b, n.buses[bus]? = some b → b.maxDepth ≤ n.depth → ∀ result,
    Publishes bus event n result →
      result = (n, .error (.fault (.resourceExhausted ("publish depth " ++ toString n.depth ++
        " for " ++ event.kind.name))))
  /-- From outside, to `k` handlers that all publish the event once again, there are `k` calls at
  the first depth, `k` for each of them at the second, and so on down to the limit. -/
  echoes : ∀ b, n.buses[bus]? = some b → n.depth = 0 →
    (∀ s ∈ b.handlers event.kind, Republishes bus event 1 (s.handler.body event)) →
      ∀ result, Publishes bus event n result →
        callCount result.1 =
            callCount n + ∑ j ∈ Finset.range b.maxDepth, b.handlerCount event.kind ^ (j + 1) ∧
          result.1.depth = 0

theorem Publishes.within {result : BusNetwork ω × BusOutcome} (h : Publishes bus event n result) :
    ∃ added, result.1.publications = added ++ n.publications ∧
      ∀ p ∈ added, ∃ b, n.buses[p.bus]? = some b ∧ p.depth ≤ b.maxDepth ∧ p.depth ≤ n.ceiling := by
  obtain ⟨added, hrecord, hdeep⟩ := h.grown.record
  refine ⟨added, hrecord, fun p hp ↦ ?_⟩
  obtain ⟨-, limit, hlimit, hwithin⟩ := hdeep p hp
  obtain ⟨b, hbus, rfl⟩ : ∃ b, n.buses[p.bus]? = some b ∧ b.maxDepth = limit := by
    simpa [limits] using hlimit
  exact ⟨b, hbus, hwithin, Nat.le_trans hwithin (limit_le_ceiling hlimit)⟩

theorem Publishes.refused_of_le {result : BusNetwork ω × BusOutcome}
    (h : Publishes bus event n result) {b : EventBus (BusHandler ω)}
    (hbus : n.buses[bus]? = some b) (hdeep : b.maxDepth ≤ n.depth) :
    result = (n, .error (.fault (EventBus.tooDeep n.depth event.kind))) := by
  rw [← publishes_iff.1 h]
  exact publishWithin_of_le hbus hdeep _ event

/-- As many handlers as a new bus has room for can all publish again what they are called with. -/
theorem calls_of_subscribed {maxHandlers k : Nat} (hroom : k ≤ maxHandlers) (maxDepth : Nat)
    (event : Event) :
    ∃ b : EventBus (BusHandler Unit),
      (EventBus.withLimits maxHandlers maxDepth).subscribeAll event.kind
          (List.replicate k (echo 0)) = .ok b ∧
        callCount (publish 0 event (ofBuses [b])).1 = ∑ j ∈ Finset.range maxDepth, k ^ (j + 1) ∧
          (publish 0 event (ofBuses [b])).1.depth = 0 := by
  let fresh : EventBus (BusHandler Unit) := .withLimits maxHandlers maxDepth
  let echoes : List (BusHandler Unit) := List.replicate k (echo 0)
  have hempty : fresh.handlerCount event.kind + echoes.length ≤ fresh.maxHandlers := by
    rw [List.length_replicate]
    exact Nat.le_trans (Nat.le_of_eq (Nat.zero_add k)) hroom
  obtain ⟨b, hsubscribed, hdepth, hhandlers⟩ := EventBus.subscribeAll_of_le hempty
  have hall : (b.handlers event.kind).map (·.handler) = List.replicate k (echo 0) := hhandlers
  have hcount : b.handlerCount event.kind = k := by
    simpa [EventBus.handlerCount] using congrArg List.length hall
  have hecho : ∀ s ∈ b.handlers event.kind, Republishes 0 event 1 (s.handler.body event) := by
    intro s hs
    have hsame := List.eq_of_mem_replicate (hall ▸ List.mem_map_of_mem hs)
    rw [hsame]
    exact republishes_echo 0 event
  have hbus : (ofBuses [b]).buses[0]? = some b := rfl
  have hpublishes : Publishes 0 event (ofBuses [b]) (publish 0 event (ofBuses [b])) :=
    publishes_iff.2 rfl
  have hcalls := hpublishes.calls hecho hbus ((Nat.zero_add _).trans hdepth.symm)
  rw [hcount, echoCount_one] at hcalls
  exact ⟨b, hsubscribed, hcalls.count.trans (Nat.zero_add _), hcalls.depth⟩

/-- Whatever the buses and their handlers are, a publication is bounded. A new bus takes as many
handlers that publish again as it has room for, and then makes all the calls that they ask for. -/
theorem bounded (n : BusNetwork ω) (bus : Nat) (event : Event) :
    Bounded n bus event ∧
      ∀ maxHandlers maxDepth k, k ≤ maxHandlers → ∃ b : EventBus (BusHandler Unit),
        (EventBus.withLimits maxHandlers maxDepth).subscribeAll event.kind
            (List.replicate k (echo 0)) = .ok b ∧
          callCount (publish 0 event (ofBuses [b])).1 =
              ∑ j ∈ Finset.range maxDepth, k ^ (j + 1) ∧
            (publish 0 event (ofBuses [b])).1.depth = 0 := by
  refine ⟨?_, fun _ maxDepth _ hroom ↦ calls_of_subscribed hroom maxDepth event⟩
  exact {
    ends := ⟨publish bus event n, publishes_iff.2 rfl, fun _ h ↦ (publishes_iff.1 h).symm⟩
    within := fun _ h ↦ h.within
    refuses := fun _ hbus hdeep _ h ↦ h.refused_of_le hbus hdeep
    echoes := by
      intro b hbus hdepth hecho result h
      have hcalls := h.calls hecho hbus ((congrArg (· + b.maxDepth) hdepth).trans (Nat.zero_add _))
      rw [echoCount_one] at hcalls
      exact ⟨hcalls.count, hcalls.depth.trans hdepth⟩ }

/-- Two handlers and a limit of three: `2 + 4 + 8` calls. -/
theorem bounded_twoEchoes :
    2 ≤ 10 ∧ ∃ b : EventBus (BusHandler Unit),
      (EventBus.withLimits 10 3).subscribeAll .stackDown (List.replicate 2 (echo 0)) = .ok b ∧
        callCount (publish 0 (.stackDown "down") (ofBuses [b])).1 = 14 ∧
          (publish 0 (.stackDown "down") (ofBuses [b])).1.depth = 0 :=
  ⟨by decide, (bounded (ofBuses [meddlers]) 0 (.stackDown "down")).2 10 3 2 (by decide)⟩

end BusNetwork

end MeshBridge
