import MeshBridge.Proofs.Bus.Growth
/-!
The rules of publishing, with no bound on how deep publications are nested. A publication calls the
handlers that its kind has when it begins, one after the other, and each of them runs its program to
its end or to where it breaks off; a step of a program may be a publication again. What happens by
these rules is a finite tree, so an outcome by the rules is an outcome that is reached.

Every publication has an outcome by the rules, exactly one, and it is the one that is computed
(`publishes_iff`): the bound that the computation puts on the nesting never cuts it short.
-/

set_option autoImplicit false
set_option relaxedAutoImplicit false

namespace MeshBridge.BusNetwork

variable {ω : Type}

mutual

/-- An event is published on a bus. -/
inductive Publishes : Nat → Event → BusNetwork ω → BusNetwork ω × BusOutcome → Prop
  | missing {bus : Nat} {event : Event} {n : BusNetwork ω} (hbus : n.buses[bus]? = none) :
    Publishes bus event n (n, .error .missing)
  | refused {bus : Nat} {event : Event} {n : BusNetwork ω} {b : EventBus (BusHandler ω)}
      (hbus : n.buses[bus]? = some b) (hdeep : b.maxDepth ≤ n.depth) :
    Publishes bus event n (n, .error (.fault (EventBus.tooDeep n.depth event.kind)))
  | delivered {bus : Nat} {event : Event} {n after : BusNetwork ω} {b : EventBus (BusHandler ω)}
      {calls : List (BusCall ω)} (hbus : n.buses[bus]? = some b) (hopen : n.depth < b.maxDepth)
      (hcalls : Delivers event (b.handlers event.kind) n.enter (after, calls)) :
    Publishes bus event n
      (after.leave n.depth bus event calls, .ok (.delivered (calls.countP (·.finished))))

/-- Handlers are called with an event, one after the other. -/
inductive Delivers : Event → List (Subscription (BusHandler ω)) → BusNetwork ω →
    BusNetwork ω × List (BusCall ω) → Prop
  | done {event : Event} {n : BusNetwork ω} : Delivers event [] n (n, [])
  | call {event : Event} {s : Subscription (BusHandler ω)}
      {rest : List (Subscription (BusHandler ω))} {n between after : BusNetwork ω}
      {finished : Bool} {calls : List (BusCall ω)}
      (hrun : Runs s.handler.label (s.handler.body event)
        (n.note (.entered n.depth s.handler.label event)) (between, finished))
      (hrest : Delivers event rest between (after, calls)) :
    Delivers event (s :: rest) n (after, ⟨s, finished⟩ :: calls)

/-- The program of a handler with a label is run, to its end or to where it breaks off. -/
inductive Runs : String → BusProgram ω → BusNetwork ω → BusNetwork ω × Bool → Prop
  | finish {label : String} {n : BusNetwork ω} : Runs label .finish n (n, true)
  | breakOff {label : String} {step : BusStep ω} {next : BusOutcome → BusProgram ω}
      {n after : BusNetwork ω} (hstep : Steps step n (after, .error .brokenOff)) :
    Runs label (.take step next) n (after, false)
  | take {label : String} {step : BusStep ω} {next : BusOutcome → BusProgram ω}
      {n between : BusNetwork ω} {outcome : BusOutcome} {result : BusNetwork ω × Bool}
      (hstep : Steps step n (between, outcome)) (hgoes : outcome ≠ .error .brokenOff)
      (hrest : Runs label (next outcome) (between.note (.did label step.verb outcome)) result) :
    Runs label (.take step next) n result
  | consult {label : String} {next : ω → BusProgram ω} {n : BusNetwork ω}
      {result : BusNetwork ω × Bool} (hrest : Runs label (next n.memory) n result) :
    Runs label (.consult next) n result
  | memorize {label : String} {memory : ω} {next : BusProgram ω} {n : BusNetwork ω}
      {result : BusNetwork ω × Bool} (hrest : Runs label next { n with memory } result) :
    Runs label (.memorize memory next) n result

/-- A step is taken. Steps that do not publish are the same in every way of publishing. -/
inductive Steps : BusStep ω → BusNetwork ω → BusNetwork ω × BusOutcome → Prop
  | publish {bus : Nat} {event : Event} {n : BusNetwork ω} {result : BusNetwork ω × BusOutcome}
      (hpublish : Publishes bus event n result) : Steps (.publish bus event) n result
  | other {step : BusStep ω} {n : BusNetwork ω} (publish : Publish ω)
      (hother : ∀ bus event, step ≠ .publish bus event) : Steps step n (n.act publish step)

end

theorem act_of_other {step : BusStep ω} (hother : ∀ bus event, step ≠ .publish bus event)
    (n : BusNetwork ω) (publish other : Publish ω) : n.act publish step = n.act other step := by
  cases step with
  | publish bus event => exact absurd rfl (hother bus event)
  | _ => rfl

theorem steps_publish {bus : Nat} {event : Event} {n : BusNetwork ω}
    {result : BusNetwork ω × BusOutcome} (h : Steps (.publish bus event) n result) :
    Publishes bus event n result := by
  cases h with
  | publish hpublish => exact hpublish
  | other publish hother => exact absurd rfl (hother bus event)

theorem steps_breakOff {n : BusNetwork ω} {result : BusNetwork ω × BusOutcome}
    (h : Steps .breakOff n result) : result = (n, .error .brokenOff) := by
  cases h
  rfl

/-- A handler that breaks off does not break off the program that published. -/
theorem Publishes.goes {bus : Nat} {event : Event} {n : BusNetwork ω}
    {result : BusNetwork ω × BusOutcome} (h : Publishes bus event n result) :
    result.2 ≠ .error .brokenOff := by
  cases h <;> nofun

/-! ### What is computed follows the rules -/

section Follows

variable {publish : Publish ω} {room : Nat} {n : BusNetwork ω}

theorem steps_act (hrules : ∀ bus event (m : BusNetwork ω), m.HasRoom room →
      Publishes bus event m (publish bus event m)) (hroom : n.HasRoom room) (step : BusStep ω) :
    Steps step n (n.act publish step) := by
  by_cases hpublish : ∃ bus event, step = .publish bus event
  · obtain ⟨bus, event, rfl⟩ := hpublish
    exact .publish (hrules bus event n hroom)
  · exact .other publish fun bus event hsame ↦ hpublish ⟨bus, event, hsame⟩

theorem runs_runProgram (hgrown : ∀ bus event m, Grown m (publish bus event m).1)
    (hrules : ∀ bus event (m : BusNetwork ω), m.HasRoom room →
      Publishes bus event m (publish bus event m))
    (label : String) (program : BusProgram ω) (hroom : n.HasRoom room) :
    Runs label program n (runProgram publish label program n) := by
  induction program generalizing n with
  | finish => exact .finish
  | take step next ih =>
    have hstep := steps_act hrules hroom step
    unfold runProgram
    split
    · next m hact =>
      rw [hact] at hstep
      exact .breakOff hstep
    · next m outcome hgoes hact =>
      rw [hact] at hstep
      have hbetween := hroom.grown (grown_of_act hgrown hact)
      exact .take hstep hgoes (ih outcome hbetween)
  | consult next ih => exact .consult (ih n.memory hroom)
  | memorize memory next ih =>
    have hsame : ({ n with memory } : BusNetwork ω).HasRoom room := hroom
    exact .memorize (ih hsame)

theorem delivers_deliver (hgrown : ∀ bus event m, Grown m (publish bus event m).1)
    (hrules : ∀ bus event (m : BusNetwork ω), m.HasRoom room →
      Publishes bus event m (publish bus event m))
    (event : Event) (handlers : List (Subscription (BusHandler ω))) (hroom : n.HasRoom room) :
    Delivers event handlers n (deliver publish event handlers n) := by
  induction handlers generalizing n with
  | nil => exact .done
  | cons s rest ih =>
    have hnoted : (n.note (.entered n.depth s.handler.label event)).HasRoom room := hroom
    exact .call (runs_runProgram hgrown hrules s.handler.label (s.handler.body event) hnoted)
      (ih (hroom.grown (grown_call hgrown event s n)))

/-- Assumes: room for as many publications as there can be under way. -/
theorem publishes_publishWithin (bus : Nat) (event : Event) (hroom : n.HasRoom room) :
    Publishes bus event n (publishWithin room bus event n) := by
  induction room generalizing bus event n with
  | zero =>
    cases hbus : n.buses[bus]? with
    | none =>
      rw [publishWithin_of_missing hbus]
      exact .missing hbus
    | some b =>
      rw [publishWithin_of_le hbus (hroom.limit_le hbus)]
      exact .refused hbus (hroom.limit_le hbus)
  | succ room ih =>
    cases hbus : n.buses[bus]? with
    | none =>
      rw [publishWithin_of_missing hbus]
      exact .missing hbus
    | some b =>
      rcases Nat.lt_or_ge n.depth b.maxDepth with hopen | hdeep
      · rw [publishWithin_of_lt hbus hopen]
        exact .delivered hbus hopen (delivers_deliver (grown_publishWithin room)
          (fun bus event _ hm ↦ ih bus event hm) event (b.handlers event.kind) hroom.enter)
      · rw [publishWithin_of_le hbus hdeep]
        exact .refused hbus hdeep

end Follows

/-! ### What follows the rules is computed

By induction on what happens. Each part is as the computation has it, and leaves as much room for
what comes after it. -/

mutual

theorem Publishes.eq {bus : Nat} {event : Event} {n : BusNetwork ω}
    {result : BusNetwork ω × BusOutcome} : Publishes bus event n result →
      ∀ room, n.HasRoom room → publishWithin room bus event n = result
  | .missing hbus, room, _ => publishWithin_of_missing hbus room event
  | .refused hbus hdeep, room, _ => publishWithin_of_le hbus hdeep room event
  | .delivered hbus hopen _, 0, hroom => absurd hopen (Nat.not_lt_of_le (hroom.limit_le hbus))
  | .delivered hbus hopen hcalls, room + 1, hroom => by
    rw [publishWithin_of_lt hbus hopen, hcalls.eq room hroom.enter]

theorem Delivers.eq {event : Event} {handlers : List (Subscription (BusHandler ω))}
    {n : BusNetwork ω} {result : BusNetwork ω × List (BusCall ω)} :
    Delivers event handlers n result →
      ∀ room, n.HasRoom room → deliver (publishWithin room) event handlers n = result
  | .done, _, _ => rfl
  | .call (s := s) hrun hrest, room, hroom => by
    have hfirst := hrun.eq room hroom
    have hgrown := grown_call (grown_publishWithin room) event s n
    unfold call at hgrown
    rw [hfirst] at hgrown
    unfold deliver call
    rw [hfirst]
    dsimp only
    rw [hrest.eq room (hroom.grown hgrown)]

theorem Runs.eq {label : String} {program : BusProgram ω} {n : BusNetwork ω}
    {result : BusNetwork ω × Bool} : Runs label program n result →
      ∀ room, n.HasRoom room → runProgram (publishWithin room) label program n = result
  | .finish, _, _ => rfl
  | .breakOff hstep, room, hroom => by rw [runProgram, hstep.eq room hroom]
  | .take hstep hgoes hrest, room, hroom => by
    have hact := hstep.eq room hroom
    rw [runProgram, hact]
    split
    · next hbroken => exact absurd (Prod.mk.inj hbroken).2 hgoes
    · next hsame =>
      obtain ⟨rfl, rfl⟩ := Prod.mk.inj hsame
      have hbetween := hroom.grown (grown_of_act (grown_publishWithin room) hact)
      exact hrest.eq room hbetween
  | .consult hrest, room, hroom => hrest.eq room hroom
  | .memorize hrest, room, hroom => hrest.eq room hroom

theorem Steps.eq {step : BusStep ω} {n : BusNetwork ω} {result : BusNetwork ω × BusOutcome} :
    Steps step n result → ∀ room, n.HasRoom room → n.act (publishWithin room) step = result
  | .publish hpublish, room, hroom => hpublish.eq room hroom
  | .other publish hother, room, _ => act_of_other hother n (publishWithin room) publish

end

/-- Every publication has exactly one outcome by the rules, the one that is computed. -/
theorem publishes_iff {bus : Nat} {event : Event} {n : BusNetwork ω}
    {result : BusNetwork ω × BusOutcome} :
    Publishes bus event n result ↔ publish bus event n = result := by
  constructor
  · intro hpublishes
    exact hpublishes.eq _ n.hasRoom_ceiling
  · rintro rfl
    exact publishes_publishWithin bus event n.hasRoom_ceiling

end MeshBridge.BusNetwork
