import MeshBridge.Proofs.Bus.Rules
/-!
Which handlers a publication calls. Handlers may do anything meanwhile: subscribe others, end any
subscription, their own or that of a handler whose turn is yet to come, publish on any bus, and
break off. Still exactly those are called that the kind of the event had when the publication began,
each once and in the order of their subscriptions (`serves_of_open`). What they change is there for
what comes after: for the handler that is called next, and for publications that begin later.
-/

set_option autoImplicit false
set_option relaxedAutoImplicit false

namespace MeshBridge.BusNetwork

variable {ω : Type} {n after : BusNetwork ω} {bus : Nat} {event : Event}

/-! ### What the rules leave behind -/

theorem Publishes.grown {result : BusNetwork ω × BusOutcome} (h : Publishes bus event n result) :
    Grown n result.1 := by
  rw [← publishes_iff.1 h]
  exact grown_publishWithin _ bus event n

theorem Delivers.grown {handlers : List (Subscription (BusHandler ω))}
    {result : BusNetwork ω × List (BusCall ω)} (h : Delivers event handlers n result) :
    Grown n result.1 := by
  rw [← h.eq _ n.hasRoom_ceiling]
  exact grown_deliver (grown_publishWithin _) event handlers n

theorem Runs.grown {label : String} {program : BusProgram ω} {result : BusNetwork ω × Bool}
    (h : Runs label program n result) : Grown n result.1 := by
  rw [← h.eq _ n.hasRoom_ceiling]
  exact grown_runProgram (grown_publishWithin _) label program n

theorem Steps.grown {step : BusStep ω} {result : BusNetwork ω × BusOutcome}
    (h : Steps step n result) : Grown n result.1 := by
  rw [← h.eq _ n.hasRoom_ceiling]
  exact grown_act (grown_publishWithin _) n step

/-- Each handler is called, once and in its turn, whatever those before it did. -/
theorem Delivers.subscriptions {handlers : List (Subscription (BusHandler ω))}
    {calls : List (BusCall ω)} (h : Delivers event handlers n (after, calls)) :
    calls.map (·.subscription) = handlers := by
  induction handlers generalizing n calls with
  | nil =>
    cases h
    rfl
  | cons s rest ih =>
    cases h with
    | call hrun hrest => rw [List.map_cons, ih hrest]

/-! ### What the trace tells of it -/

/-- The handlers that began to run for publications at a depth, and with which events. -/
def enteredAt (depth : Nat) (n : BusNetwork ω) : List (String × Event) :=
  n.trace.toList.filterMap fun
    | .entered d label event => if d = depth then some (label, event) else none
    | .did .. => none

theorem enteredAt_of_trace {depth : Nat} (h : after.trace = n.trace) :
    enteredAt depth after = enteredAt depth n := by
  unfold enteredAt
  rw [h]

theorem enteredAt_note_did (depth : Nat) (n : BusNetwork ω) (label verb : String)
    (outcome : BusOutcome) :
    enteredAt depth (n.note (.did label verb outcome)) = enteredAt depth n := by
  simp [enteredAt, note]

theorem enteredAt_note_entered (depth : Nat) (n : BusNetwork ω) (label : String) (event : Event) :
    enteredAt depth (n.note (.entered n.depth label event)) =
      enteredAt depth n ++ if depth = n.depth then [(label, event)] else [] := by
  by_cases hdepth : depth = n.depth
  · simp [enteredAt, note, hdepth]
  · simp [enteredAt, note, hdepth, Ne.symm hdepth]

theorem act_trace {publish : Publish ω} {step : BusStep ω}
    (hother : ∀ bus event, step ≠ .publish bus event) (n : BusNetwork ω) :
    (n.act publish step).1.trace = n.trace := by
  cases step with
  | publish bus event => exact absurd rfl (hother bus event)
  | breakOff | refused => rfl
  | listen bus kind label handler =>
    dsimp only [act]
    split
    · rfl
    · split <;> rfl
  | _ =>
    dsimp only [act]
    split <;> rfl

/- By induction on what happens. All that is published meanwhile is published from a greater depth,
so a handler that is called at a depth is the only one to begin there until it is done. -/
mutual

theorem Publishes.enteredAt_eq {bus : Nat} {event : Event} {n : BusNetwork ω}
    {result : BusNetwork ω × BusOutcome} : Publishes bus event n result →
      ∀ depth ≤ n.depth, enteredAt depth result.1 = enteredAt depth n
  | .missing _, _, _ => rfl
  | .refused _ _, _, _ => rfl
  | .delivered _ _ hcalls, depth, hdepth => by
    have hlower : depth ≠ n.enter.depth := Nat.ne_of_lt (Nat.lt_succ_of_le hdepth)
    have hcalled := hcalls.enteredAt_eq depth (Nat.le_succ_of_le hdepth)
    rw [if_neg hlower, List.append_nil] at hcalled
    exact hcalled

theorem Delivers.enteredAt_eq {event : Event} {handlers : List (Subscription (BusHandler ω))}
    {n : BusNetwork ω} {result : BusNetwork ω × List (BusCall ω)} :
    Delivers event handlers n result →
      ∀ depth ≤ n.depth, enteredAt depth result.1 = enteredAt depth n ++
        if depth = n.depth then handlers.map fun s ↦ (s.handler.label, event) else []
  | .done, _, _ => by simp
  | .call (s := s) hrun hrest, depth, hdepth => by
    have hkept : _ = n.depth := hrun.grown.depth
    have hfirst := hrun.enteredAt_eq depth hdepth
    have hothers := hrest.enteredAt_eq depth (by rw [hkept]; exact hdepth)
    rw [hothers, hfirst, enteredAt_note_entered, hkept, List.append_assoc]
    by_cases hsame : depth = n.depth
    · rw [if_pos hsame, if_pos hsame, if_pos hsame]
      rfl
    · rw [if_neg hsame, if_neg hsame, if_neg hsame]
      rfl

theorem Runs.enteredAt_eq {label : String} {program : BusProgram ω} {n : BusNetwork ω}
    {result : BusNetwork ω × Bool} : Runs label program n result →
      ∀ depth ≤ n.depth, enteredAt depth result.1 = enteredAt depth n
  | .finish, _, _ => rfl
  | .breakOff hstep, depth, hdepth => hstep.enteredAt_eq depth hdepth
  | .take hstep _ hrest, depth, hdepth => by
    have hbetween := Nat.le_trans hdepth (Nat.le_of_eq hstep.grown.depth.symm)
    rw [hrest.enteredAt_eq depth hbetween, enteredAt_note_did]
    exact hstep.enteredAt_eq depth hdepth
  | .consult hrest, depth, hdepth => hrest.enteredAt_eq depth hdepth
  | .memorize hrest, depth, hdepth => hrest.enteredAt_eq depth hdepth

theorem Steps.enteredAt_eq {step : BusStep ω} {n : BusNetwork ω}
    {result : BusNetwork ω × BusOutcome} : Steps step n result →
      ∀ depth ≤ n.depth, enteredAt depth result.1 = enteredAt depth n
  | .publish hpublish, depth, hdepth => hpublish.enteredAt_eq depth hdepth
  | .other _ hother, _, _ => enteredAt_of_trace (act_trace hother n)

end

/-! ### Open publications -/

/-- What a publication of an event does on a bus that lets it in: it begins where the network is
`n`, makes `calls`, and leaves `result` behind. -/
structure Serves (n : BusNetwork ω) (bus : Nat) (b : EventBus (BusHandler ω)) (event : Event)
    (calls : List (BusCall ω)) (result : BusNetwork ω) : Prop where
  /-- Exactly the handlers are called that the kind had at the beginning, each once, in the order of
  their subscriptions. -/
  called : calls.map (·.subscription) = b.handlers event.kind
  /-- The trace has the same to tell: no others began to run at this depth. -/
  entered : enteredAt (n.depth + 1) result = enteredAt (n.depth + 1) n ++
    (b.handlers event.kind).map fun s ↦ (s.handler.label, event)
  /-- Each handler runs its program, from what those before it left to what those after it find, and
  what the last one leaves is what the publication leaves, as it was not under way before. -/
  runs : ∃ after, Delivers event (b.handlers event.kind) n.enter (after, calls) ∧
    result = after.leave n.depth bus event calls
  depth : result.depth = n.depth
  /-- Publications that began meanwhile were nested in this one. -/
  nested : ∃ later,
    result.publications = ⟨n.depth + 1, bus, event, calls⟩ :: later ++ n.publications ∧
      ∀ p ∈ later, n.depth + 1 < p.depth

/-- Whatever the handlers of all the buses do, a publication below the limit of its bus gives the
number of handlers that ran to their end, and calls exactly those that there were when it began. -/
theorem serves_of_open {b : EventBus (BusHandler ω)} (hbus : n.buses[bus]? = some b)
    (hopen : n.depth < b.maxDepth) (event : Event) :
    ∃ calls result, publish bus event n = (result, .ok (.delivered (calls.countP (·.finished)))) ∧
      Serves n bus b event calls result := by
  obtain ⟨⟨after, calls⟩, hcalls⟩ :
      ∃ served, Delivers event (b.handlers event.kind) n.enter served :=
    ⟨_, delivers_deliver (grown_publishWithin _) (fun _ _ _ ↦ publishes_publishWithin _ _) event _
      n.enter.hasRoom_ceiling⟩
  have hentered := hcalls.enteredAt_eq n.enter.depth (Nat.le_refl _)
  obtain ⟨later, hlater, hdeep⟩ := hcalls.grown.record
  refine ⟨calls, after.leave n.depth bus event calls,
    publishes_iff.1 (.delivered hbus hopen hcalls), ?_⟩
  exact {
    called := hcalls.subscriptions
    entered := by
      rw [if_pos rfl] at hentered
      exact hentered
    runs := ⟨after, hcalls, rfl⟩
    depth := rfl
    nested := ⟨later, congrArg _ hlater, fun p hp ↦ (hdeep p hp).1⟩ }

/-- Three handlers of one kind. The first ends its own subscription and that of the last and adds
another, the second publishes the event again and breaks off. -/
def meddlers : EventBus (BusHandler Unit) where
  name := "meddlers"
  maxHandlers := 10
  maxDepth := 2
  subscriptions :=
    [⟨1, .stackDown, ⟨"first", fun _ ↦ .ofScript
        [.cancel 0 1, .cancel 0 3, .listen 0 .stackDown "added" fun _ ↦ .finish]⟩⟩,
      ⟨2, .stackDown, ⟨"second", fun event ↦ .ofScript [.publish 0 event, .breakOff]⟩⟩,
      ⟨3, .stackDown, ⟨"last", fun _ ↦ .finish⟩⟩]
  nextId := 4

/-- The second handler publishes to itself and to the one that was added. -/
theorem serves_of_open_meddlers :
    (ofBuses [meddlers]).buses[0]? = some meddlers ∧
      (ofBuses [meddlers]).depth < meddlers.maxDepth ∧
      ∃ calls result, publish 0 (.stackDown "down") (ofBuses [meddlers]) =
          (result, .ok (.delivered (calls.countP (·.finished)))) ∧
        Serves (ofBuses [meddlers]) 0 meddlers (.stackDown "down") calls result :=
  ⟨rfl, by decide, serves_of_open rfl (by decide) (.stackDown "down")⟩

example : (publish 0 (.stackDown "down") (ofBuses [meddlers])).1.publications.map
      (fun p ↦ (p.depth, p.calls.map fun c ↦ (c.subscription.handler.label, c.finished))) =
    [(1, [("first", true), ("second", false), ("last", true)]),
      (2, [("second", false), ("added", true)])] := by decide

end MeshBridge.BusNetwork
