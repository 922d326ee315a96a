import MeshBridge.Proofs.Bus.Rules
import MeshBridge.Proofs.Bus.Tables
/-!
Calls on the buses in the order in which they are made, from outside or from inside of handlers at
any depth. The turns of a step are the step itself or, if it is a publication, all the steps that
its handlers take meanwhile, those of further publications included (`turnsOf`). From one turn to
the next nothing changes a subscription (`linked_run`), so what a turn keeps of every bus holds at
each turn of a run (`Linked.keeps`).

Hence on buses that were new, whatever is done to them and whatever their handlers do, every call
finds tables that are orderly and does just what it says (`orderly_run`): the numbers that a bus
gives are 1, 2, 3 and so on, and a subscription that was ended once cannot be ended again.
-/

set_option autoImplicit false
set_option relaxedAutoImplicit false

namespace MeshBridge.BusNetwork

variable {ω : Type}

/-! ### Turns -/

/-- A step that is no publication, and where it was taken. -/
structure Turn (ω : Type) where
  before : BusNetwork ω
  step : BusStep ω

namespace Turn

def after (t : Turn ω) : BusNetwork ω := (t.before.act publish t.step).1

def outcome (t : Turn ω) : BusOutcome := (t.before.act publish t.step).2

/-- The bus and the number of the subscription that is to be ended. A label stands for the number
that it names at the time. -/
def cancelled? (t : Turn ω) : Option (Nat × Nat) :=
  match t.step with
  | .cancel bus id => some (bus, id)
  | .unsubscribe bus label => (t.before.labels.lookup label).map (bus, ·)
  | _ => none

/-- The number that a bus gave. -/
def given? (t : Turn ω) (i : Nat) : Option Nat :=
  match t.step, t.outcome with
  | .listen bus _ _ _, .ok (.subscribed id) => if bus = i then some id else none
  | _, _ => none

end Turn

/-- The numbers that a bus gave in these turns, in the order in which it gave them. -/
def numbers (i : Nat) (ts : List (Turn ω)) : List Nat := ts.filterMap (·.given? i)

/-- How the turns of a publication are listed. -/
abbrev Listing (ω : Type) := Nat → Event → BusNetwork ω → List (Turn ω)

section Listing

variable (publish : Publish ω) (listing : Listing ω)

def turnsOfStep (n : BusNetwork ω) : BusStep ω → List (Turn ω)
  | .publish bus event => listing bus event n
  | step => [⟨n, step⟩]

/-- The turns of a program, which is run as `runProgram` runs it. -/
def turnsOfProgram (label : String) : BusProgram ω → BusNetwork ω → List (Turn ω)
  | .finish, _ => []
  | .take step next, n =>
    turnsOfStep listing n step ++
      match n.act publish step with
      | (_, .error .brokenOff) => []
      | (after, outcome) =>
        turnsOfProgram label (next outcome) (after.note (.did label step.verb outcome))
  | .consult next, n => turnsOfProgram label (next n.memory) n
  | .memorize memory next, n => turnsOfProgram label next { n with memory }

/-- The turns of handlers that are called one after the other, as `deliver` calls them. -/
def turnsOfHandlers (event : Event) :
    List (Subscription (BusHandler ω)) → BusNetwork ω → List (Turn ω)
  | [], _ => []
  | s :: rest, n =>
    turnsOfProgram publish listing s.handler.label (s.handler.body event)
        (n.note (.entered n.depth s.handler.label event)) ++
      turnsOfHandlers event rest (call publish event s n).1

end Listing

/-- The turns of a publication within a room, as `publishWithin` has it. -/
def turnsWithin : (room : Nat) → Listing ω
  | room, bus, event, n =>
    match n.buses[bus]? with
    | none => []
    | some b =>
      match b.checkDepth n.depth event.kind with
      | .error _ => []
      | .ok () =>
        match room with
        | 0 => []
        | room + 1 =>
          turnsOfHandlers (publishWithin room) (turnsWithin room) event (b.handlers event.kind)
            n.enter

/-- The turns of a step that is taken from outside of all handlers. -/
def turnsOf (n : BusNetwork ω) (step : BusStep ω) : List (Turn ω) :=
  turnsOfStep (fun bus event m ↦ turnsWithin (m.ceiling - m.depth) bus event m) n step

/-- The network after steps that were taken in turn from outside. -/
def run (n : BusNetwork ω) (steps : List (BusStep ω)) : BusNetwork ω :=
  steps.foldl (fun n step ↦ (n.perform step).1) n

/-- All turns of steps that are taken one after the other. -/
def turns (n : BusNetwork ω) : List (BusStep ω) → List (Turn ω)
  | [] => []
  | step :: rest => n.turnsOf step ++ (n.perform step).1.turns rest

/-! ### Turns in a row -/

/-- These turns led from the subscriptions of one network to those of another, and nothing else
changed a subscription. -/
inductive Linked : BusNetwork ω → List (Turn ω) → BusNetwork ω → Prop
  | stays {n after : BusNetwork ω} (hbuses : after.buses = n.buses) : Linked n [] after
  | turn {n after : BusNetwork ω} {t : Turn ω} {rest : List (Turn ω)}
      (hother : ∀ bus event, t.step ≠ .publish bus event) (hbuses : t.before.buses = n.buses)
      (hrest : Linked t.after rest after) : Linked n (t :: rest) after

section Linked

variable {n m between after : BusNetwork ω} {ts more : List (Turn ω)}

theorem Linked.refl (n : BusNetwork ω) : Linked n [] n := .stays rfl

theorem Linked.of_buses (h : Linked n ts after) (hbuses : n.buses = m.buses) :
    Linked m ts after := by
  cases h with
  | stays hsame => exact .stays (hsame.trans hbuses)
  | turn hother hbefore hrest => exact .turn hother (hbefore.trans hbuses) hrest

theorem Linked.trans (hfirst : Linked n ts between) (hrest : Linked between more after) :
    Linked n (ts ++ more) after := by
  induction hfirst with
  | stays hbuses => exact hrest.of_buses hbuses
  | turn hother hbuses _ ih => exact .turn hother hbuses (ih hrest)

/-- What does not concern the buses may happen at the end. -/
theorem Linked.aside (h : Linked n ts between) (hbuses : after.buses = between.buses) :
    Linked n ts after := by
  have hlast := h.trans (.stays hbuses)
  rwa [List.append_nil] at hlast

variable {publish : Publish ω} {listing : Listing ω}

theorem turnsOfStep_of_other {step : BusStep ω} (hother : ∀ bus event, step ≠ .publish bus event)
    (n : BusNetwork ω) : turnsOfStep listing n step = [⟨n, step⟩] := by
  cases step with
  | publish bus event => exact absurd rfl (hother bus event)
  | _ => rfl

theorem linked_act
    (hpublish : ∀ bus event m, Linked m (listing bus event m) (publish bus event m).1)
    (n : BusNetwork ω) (step : BusStep ω) :
    Linked n (turnsOfStep listing n step) (n.act publish step).1 := by
  by_cases hstep : ∃ bus event, step = .publish bus event
  · obtain ⟨bus, event, rfl⟩ := hstep
    exact hpublish bus event n
  · have hother : ∀ bus event, step ≠ .publish bus event := fun bus event hsame ↦
      hstep ⟨bus, event, hsame⟩
    rw [turnsOfStep_of_other hother, act_of_other hother n publish BusNetwork.publish]
    exact .turn hother rfl (.refl _)

theorem linked_runProgram
    (hpublish : ∀ bus event m, Linked m (listing bus event m) (publish bus event m).1)
    (label : String) (program : BusProgram ω) (n : BusNetwork ω) :
    Linked n (turnsOfProgram publish listing label program n)
      (runProgram publish label program n).1 := by
  induction program generalizing n with
  | finish => exact .refl n
  | take step next ih =>
    have hstep := linked_act hpublish n step
    unfold turnsOfProgram runProgram
    rcases hact : n.act publish step with ⟨after, refusal | reply⟩
    · rw [hact] at hstep
      cases refusal with
      | brokenOff =>
        rw [List.append_nil]
        exact hstep
      | fault | missing => exact hstep.trans ((ih _ _).of_buses rfl)
    · rw [hact] at hstep
      exact hstep.trans ((ih _ _).of_buses rfl)
  | consult next ih => exact ih n.memory n
  | memorize memory next ih => exact (ih { n with memory }).of_buses rfl

theorem linked_call
    (hpublish : ∀ bus event m, Linked m (listing bus event m) (publish bus event m).1)
    (event : Event) (s : Subscription (BusHandler ω)) (n : BusNetwork ω) :
    Linked n (turnsOfProgram publish listing s.handler.label (s.handler.body event)
      (n.note (.entered n.depth s.handler.label event))) (call publish event s n).1 :=
  (linked_runProgram hpublish s.handler.label (s.handler.body event) _).of_buses rfl

theorem linked_deliver
    (hpublish : ∀ bus event m, Linked m (listing bus event m) (publish bus event m).1)
    (event : Event) (handlers : List (Subscription (BusHandler ω))) (n : BusNetwork ω) :
    Linked n (turnsOfHandlers publish listing event handlers n)
      (deliver publish event handlers n).1 := by
  induction handlers generalizing n with
  | nil => exact .refl n
  | cons s rest ih => exact (linked_call hpublish event s n).trans (ih _)

/-- By induction on the room. Where an event is refused there are no turns. -/
theorem linked_publishWithin (room bus : Nat) (event : Event) (n : BusNetwork ω) :
    Linked n (turnsWithin room bus event n) (publishWithin room bus event n).1 := by
  induction room generalizing bus event n with
  | zero =>
    unfold turnsWithin publishWithin
    cases n.buses[bus]? with
    | none => exact .refl n
    | some b =>
      dsimp only
      cases b.checkDepth n.depth event.kind <;> exact .refl n
  | succ room ih =>
    unfold turnsWithin publishWithin
    cases n.buses[bus]? with
    | none => exact .refl n
    | some b =>
      dsimp only
      cases b.checkDepth n.depth event.kind with
      | error => exact .refl n
      | ok =>
        have hserved := linked_deliver ih event (b.handlers event.kind) n.enter
        have hentered : Linked n _ _ := hserved.of_buses rfl
        exact hentered.aside rfl

theorem linked_perform (n : BusNetwork ω) (step : BusStep ω) :
    Linked n (n.turnsOf step) (n.perform step).1 :=
  linked_act (fun bus event m ↦ linked_publishWithin _ bus event m) n step

/-- Nothing but its turns changes a subscription in a run. -/
theorem linked_run (n : BusNetwork ω) (steps : List (BusStep ω)) :
    Linked n (n.turns steps) (n.run steps) := by
  induction steps generalizing n with
  | nil => exact .refl n
  | cons step rest ih => exact (linked_perform n step).trans (ih _)

end Linked

/-! ### What a turn does -/

section Turn

variable {t : Turn ω} {b : EventBus (BusHandler ω)} {bus id : Nat}

/-- A handler is subscribed, or nothing is changed. -/
theorem Turn.of_listen {kind : EventKind} {label : String} {handler : Event → BusProgram ω}
    (hstep : t.step = .listen bus kind label handler) (hbus : t.before.buses[bus]? = some b) :
    (∃ changed id, b.subscribe kind ⟨label, handler⟩ = .ok (changed, id) ∧
        t.after.buses = t.before.buses.set bus changed ∧ t.outcome = .ok (.subscribed id)) ∨
      ∃ f, b.subscribe kind ⟨label, handler⟩ = .error f ∧ t.after = t.before ∧
        t.outcome = .error (.fault f) := by
  unfold Turn.after Turn.outcome
  rw [hstep]
  simp only [act, hbus]
  cases b.subscribe kind ⟨label, handler⟩ with
  | error f => exact .inr ⟨f, rfl, rfl, rfl⟩
  | ok made => exact .inl ⟨made.1, made.2, rfl, rfl, rfl⟩

/-- The subscription that a number names is ended, if there is one. -/
theorem Turn.of_cancelled? (hcancelled : t.cancelled? = some (bus, id))
    (hbus : t.before.buses[bus]? = some b) :
    t.after = t.before.setBus bus (b.unsubscribe id).1 ∧
      t.outcome = .ok (.removed (b.unsubscribe id).2) := by
  obtain ⟨n, step⟩ := t
  unfold Turn.after Turn.outcome
  cases step with
  | cancel i j =>
    cases hcancelled
    simp only [act, hbus, and_self]
  | unsubscribe i label =>
    obtain ⟨j, hlabel, hsame⟩ := Option.map_eq_some_iff.1 hcancelled
    cases hsame
    simp only [act, hbus, hlabel, and_self]
  | _ => cases hcancelled

theorem setBus_self {n : BusNetwork ω} (hbus : n.buses[bus]? = some b) : n.setBus bus b = n := by
  obtain ⟨hlt, rfl⟩ := List.getElem?_eq_some_iff.1 hbus
  unfold setBus
  rw [List.set_getElem_self]

/-- Where one bus is changed, the others stay and give no numbers. -/
theorem rel_set {buses : List (EventBus (BusHandler ω))} {changed : EventBus (BusHandler ω)}
    {given : Nat → Option Nat} (hbus : buses[bus]? = some b)
    (hchanges : b.Changes (given bus) changed)
    (hothers : ∀ i, i ≠ bus → given i = none) (i : Nat) :
    Option.Rel (fun b after ↦ b.Changes (given i) after) buses[i]? (buses.set bus changed)[i]? := by
  by_cases hi : i = bus
  · obtain ⟨hlt, -⟩ := List.getElem?_eq_some_iff.1 hbus
    rw [hi, hbus, List.getElem?_set_self hlt]
    exact .some hchanges
  · rw [List.getElem?_set_ne (Ne.symm hi), hothers i hi]
    cases buses[i]? with
    | none => exact .none
    | some => exact .some .same

theorem rel_same (buses : List (EventBus (BusHandler ω))) (i : Nat) :
    Option.Rel (fun b after ↦ b.Changes none after) buses[i]? buses[i]? := by
  cases buses[i]? with
  | none => exact .none
  | some => exact .some .same

theorem Turn.rel_of_same {i : Nat} (hafter : t.after.buses = t.before.buses)
    (hgiven : t.given? i = none) :
    Option.Rel (fun b after ↦ b.Changes (t.given? i) after) t.before.buses[i]?
      t.after.buses[i]? := by
  rw [hafter, hgiven]
  exact rel_same _ i

theorem Turn.rel_of_cancelled {i : Nat} (hcancelled : t.cancelled? = some (bus, id))
    (hbus : t.before.buses[bus]? = some b) (hgiven : ∀ i, t.given? i = none) :
    Option.Rel (fun b after ↦ b.Changes (t.given? i) after) t.before.buses[i]?
      t.after.buses[i]? := by
  rw [(t.of_cancelled? hcancelled hbus).1]
  refine rel_set hbus ?_ (fun i _ ↦ hgiven i) i
  rw [hgiven]
  exact .unsubscribed id

/-- All that a turn can do to a bus. -/
theorem Turn.changes (hother : ∀ bus event, t.step ≠ .publish bus event) (i : Nat) :
    Option.Rel (fun b after ↦ b.Changes (t.given? i) after) t.before.buses[i]?
      t.after.buses[i]? := by
  obtain ⟨n, step⟩ := t
  cases step with
  | publish bus event => exact absurd rfl (hother bus event)
  | listen bus kind label handler =>
    cases hbus : n.buses[bus]? with
    | none =>
      refine Turn.rel_of_same ?_ ?_
      · simp only [Turn.after, act, hbus]
      · simp only [Turn.given?, Turn.outcome, act, hbus]
    | some b =>
      have hlisten := Turn.of_listen (t := ⟨n, .listen bus kind label handler⟩) rfl hbus
      rcases hlisten with ⟨changed, id, hsubscribe, hafter, houtcome⟩ |
        ⟨f, hsubscribe, hafter, houtcome⟩
      · rw [hafter]
        refine rel_set hbus ?_ ?_ i
        · simp only [Turn.given?, houtcome, if_pos]
          exact .subscribed hsubscribe
        · intro i hi
          simp only [Turn.given?, houtcome, if_neg (Ne.symm hi)]
      · refine Turn.rel_of_same (congrArg _ hafter) ?_
        simp only [Turn.given?, houtcome]
  | cancel bus id =>
    cases hbus : n.buses[bus]? with
    | none =>
      refine Turn.rel_of_same ?_ rfl
      simp only [Turn.after, act, hbus]
    | some b => exact Turn.rel_of_cancelled rfl hbus fun _ ↦ rfl
  | unsubscribe bus label =>
    cases hbus : n.buses[bus]? with
    | none =>
      refine Turn.rel_of_same ?_ rfl
      simp only [Turn.after, act, hbus]
    | some b =>
      cases hlabel : n.labels.lookup label with
      | none =>
        refine Turn.rel_of_same ?_ rfl
        simp only [Turn.after, act, hbus, hlabel]
      | some id =>
        have hcancelled : Turn.cancelled? ⟨n, .unsubscribe bus label⟩ = some (bus, id) := by
          simp only [Turn.cancelled?, hlabel, Option.map_some]
        exact Turn.rel_of_cancelled hcancelled hbus fun _ ↦ rfl
  | count bus kind | name bus =>
    refine Turn.rel_of_same ?_ rfl
    unfold Turn.after act
    dsimp only
    split <;> rfl
  | breakOff | refused => exact Turn.rel_of_same rfl rfl

end Turn

/-! ### What a run keeps -/

section Run

variable {n after : BusNetwork ω} {ts : List (Turn ω)} {i : Nat}

/-- What every change of a bus keeps holds of it at every turn. -/
theorem Linked.keeps {P : Option (EventBus (BusHandler ω)) → Prop}
    (hP : ∀ given b changed, Option.Rel (fun b after ↦ EventBus.Changes b given after) b changed →
      P b → P changed)
    (h : Linked n ts after) (hn : P n.buses[i]?) :
    (∀ t ∈ ts, P t.before.buses[i]?) ∧ P after.buses[i]? := by
  induction h with
  | stays hbuses =>
    rw [hbuses]
    exact ⟨nofun, hn⟩
  | @turn n after t rest hother hbuses _ ih =>
    rw [← hbuses] at hn
    obtain ⟨hturns, hafter⟩ := ih (hP _ _ _ (t.changes hother i) hn)
    exact ⟨List.forall_mem_cons.2 ⟨hn, hturns⟩, hafter⟩

/-- Turns in a row are turns up to any point and turns from there on. -/
theorem Linked.split {earlier later : List (Turn ω)} (h : Linked n (earlier ++ later) after) :
    ∃ between, Linked n earlier between ∧ Linked between later after := by
  induction earlier generalizing n with
  | nil => exact ⟨n, .refl n, h⟩
  | cons t rest ih =>
    cases h with
    | turn hother hbuses hrest =>
      obtain ⟨between, hfirst, hlater⟩ := ih hrest
      exact ⟨between, .turn hother hbuses hfirst, hlater⟩

theorem numbers_cons (i : Nat) (t : Turn ω) (rest : List (Turn ω)) :
    numbers i (t :: rest) = (t.given? i).toList ++ numbers i rest := by
  unfold numbers
  rw [List.filterMap_cons]
  cases t.given? i <;> rfl

/-- A bus gives one number after the other and passes none over. -/
theorem Linked.numbers_eq (h : Linked n ts after) {b : EventBus (BusHandler ω)}
    (hbus : n.buses[i]? = some b) :
    numbers i ts = List.range' b.nextId (numbers i ts).length := by
  induction h generalizing b with
  | stays => rfl
  | @turn n after t rest hother hbuses _ ih =>
    have hrel := t.changes hother i
    rw [hbuses, hbus] at hrel
    cases hchanged : t.after.buses[i]? with
    | none =>
      rw [hchanged] at hrel
      cases hrel
    | some changed =>
      rw [hchanged] at hrel
      have hrest := ih hchanged
      cases hrel with
      | some hchanges =>
        rcases hchanges.given_eq with ⟨hgiven, hnext⟩ | ⟨hgiven, hnext⟩
        · rw [hnext] at hrest
          rw [numbers_cons, hgiven]
          exact hrest
        · rw [hnext] at hrest
          rw [numbers_cons, hgiven, Option.toList_some, List.singleton_append, List.length_cons,
            List.range'_succ, ← hrest]

end Run

/-! ### Runs from the beginning -/

/-- No kind of any bus has too many subscriptions, and the numbers of all subscriptions of a bus are
different, below the next one, and ascend within each kind. -/
def Orderly (n : BusNetwork ω) : Prop :=
  ∀ b ∈ n.buses, EventBus.Orderly b ∧ ∀ kind, (b.handlers kind).Pairwise fun s u ↦ s.id < u.id

/-- What a turn finds and what it does. -/
structure Turn.Lawful (t : Turn ω) : Prop where
  /-- No kind has too many subscriptions, and their numbers ascend. -/
  orderly : t.before.Orderly
  /-- A full kind takes no handler, and the attempt leaves no trace. -/
  full : ∀ bus kind label handler b, t.step = .listen bus kind label handler →
    t.before.buses[bus]? = some b → b.Full kind →
      t.outcome = .error (.fault (.resourceExhausted
        ("event handlers for " ++ kind.name ++ " (max " ++ toString b.maxHandlers ++ ")"))) ∧
      t.after = t.before
  /-- Any other takes it, behind those that it has, under the next number. -/
  room : ∀ bus kind label handler b, t.step = .listen bus kind label handler →
    t.before.buses[bus]? = some b → ¬ b.Full kind →
      t.outcome = .ok (.subscribed b.nextId) ∧ t.after.buses = t.before.buses.set bus { b with
        subscriptions := b.subscriptions ++ [⟨b.nextId, kind, ⟨label, handler⟩⟩]
        nextId := b.nextId + 1 }
  /-- The subscription that a number names is taken away, and the others stay as they stand. -/
  ends : ∀ bus id b, t.cancelled? = some (bus, id) → t.before.buses[bus]? = some b → b.Live id →
    t.outcome = .ok (.removed true) ∧ ∃ front s rest, b.subscriptions = front ++ s :: rest ∧
      s.id = id ∧ t.after = t.before.setBus bus { b with subscriptions := front ++ rest }
  /-- A number that names none takes nothing away. -/
  misses : ∀ bus id b, t.cancelled? = some (bus, id) → t.before.buses[bus]? = some b → ¬ b.Live id →
    t.outcome = .ok (.removed false) ∧ t.after = t.before

/-- On orderly buses every call does what it says. -/
theorem Turn.lawful {t : Turn ω} (h : t.before.Orderly) : t.Lawful where
  orderly := h
  full bus kind label handler b hstep hbus hfull := by
    have hrefused := EventBus.subscribe_of_full ⟨label, handler⟩ hfull
    rcases Turn.of_listen hstep hbus with ⟨changed, id, hmade, -⟩ | ⟨f, hsame, hafter, houtcome⟩
    · cases hrefused.symm.trans hmade
    · cases hrefused.symm.trans hsame
      exact ⟨houtcome, hafter⟩
  room bus kind label handler b hstep hbus hroom := by
    have hwithin := (h b (List.mem_of_getElem? hbus)).1.within kind
    have hmade := EventBus.subscribe_of_room ⟨label, handler⟩ (Nat.lt_of_le_of_ne hwithin hroom)
    rcases Turn.of_listen hstep hbus with ⟨changed, id, hsame, hafter, houtcome⟩ | ⟨f, hrefused, -⟩
    · cases hmade.symm.trans hsame
      exact ⟨houtcome, hafter⟩
    · cases hmade.symm.trans hrefused
  ends bus id b hcancelled hbus hlive := by
    have horderly := (h b (List.mem_of_getElem? hbus)).1
    obtain ⟨hafter, houtcome⟩ := Turn.of_cancelled? hcancelled hbus
    obtain ⟨front, s, rest, hsplit, hid, hended⟩ := horderly.unsubscribe_of_live hlive
    rw [hended] at hafter houtcome
    exact ⟨houtcome, front, s, rest, hsplit, hid, hafter⟩
  misses bus id b hcancelled hbus hnone := by
    obtain ⟨hafter, houtcome⟩ := Turn.of_cancelled? hcancelled hbus
    rw [EventBus.unsubscribe_of_not_live hnone] at hafter houtcome
    exact ⟨houtcome, hafter.trans (setBus_self hbus)⟩

section Run

variable {n after : BusNetwork ω} {ts earlier later : List (Turn ω)} {t : Turn ω} {bus id : Nat}

theorem orderly_iff : n.Orderly ↔ ∀ (i : Nat), ∀ b ∈ n.buses[i]?, EventBus.Orderly b := by
  constructor
  · intro h i b hb
    exact (h b (List.mem_of_getElem? hb)).1
  · intro h b hb
    obtain ⟨i, hi⟩ := List.mem_iff_getElem?.1 hb
    exact ⟨h i b hi, (h i b hi).handlers_ascending⟩

/-- Buses that are orderly at first are so at every turn, and in the end. -/
theorem Linked.orderly (h : Linked n ts after) (hn : n.Orderly) :
    (∀ t ∈ ts, t.before.Orderly) ∧ after.Orderly := by
  have hkept := fun i ↦ h.keeps (i := i) (P := fun o ↦ ∀ b ∈ o, EventBus.Orderly b) ?_
    (orderly_iff.1 hn i)
  · exact ⟨fun t ht ↦ orderly_iff.2 fun i ↦ (hkept i).1 t ht, orderly_iff.2 fun i ↦ (hkept i).2⟩
  · rintro given _ _ (hchanges | _) hall changed hchanged
    · cases hchanged
      exact (hall _ rfl).changes hchanges
    · cases hchanged

/-- An attempt to end a subscription is answered only where there is such a bus. -/
theorem Turn.bus_of_removed (hcancelled : t.cancelled? = some (bus, id)) {wasThere : Bool}
    (houtcome : t.outcome = .ok (.removed wasThere)) : ∃ b, t.before.buses[bus]? = some b := by
  cases hbus : t.before.buses[bus]? with
  | some b => exact ⟨b, rfl⟩
  | none =>
    obtain ⟨n, step⟩ := t
    unfold Turn.outcome at houtcome
    cases step with
    | cancel i j =>
      cases hcancelled
      simp [act, hbus] at houtcome
    | unsubscribe i label =>
      obtain ⟨j, -, hsame⟩ := Option.map_eq_some_iff.1 hcancelled
      cases hsame
      simp [act, hbus] at houtcome
    | _ => cases hcancelled

/-- A subscription that a turn ended cannot be ended by a later one. -/
theorem Linked.ended (h : Linked n (earlier ++ t :: later) after) (horderly : t.before.Orderly)
    (hcancelled : t.cancelled? = some (bus, id)) (houtcome : t.outcome = .ok (.removed true)) :
    ∀ u ∈ later, u.cancelled? = some (bus, id) → u.outcome = .ok (.removed false) := by
  obtain ⟨b, hbus⟩ := Turn.bus_of_removed hcancelled houtcome
  obtain ⟨hafter, hsame⟩ := Turn.of_cancelled? hcancelled hbus
  have hremoved : (b.unsubscribe id).2 = true := by
    rw [houtcome] at hsame
    exact (BusReply.removed.inj (Except.ok.inj hsame)).symm
  have hended := (horderly b (List.mem_of_getElem? hbus)).1.ended_unsubscribe
    (EventBus.live_of_unsubscribe hremoved)
  have hgone : ∃ b ∈ t.after.buses[bus]?, EventBus.Ended b id := by
    refine ⟨_, ?_, hended⟩
    obtain ⟨hlt, -⟩ := List.getElem?_eq_some_iff.1 hbus
    rw [hafter]
    exact List.getElem?_set_self hlt
  obtain ⟨between, -, hrest⟩ := h.split
  cases hrest with
  | turn _ _ hlater =>
    have hkept := hlater.keeps (P := fun o ↦ ∃ b ∈ o, EventBus.Ended b id) ?_ hgone
    · intro u hu hagain
      obtain ⟨changed, hchanged, hused⟩ := hkept.1 u hu
      obtain ⟨-, hnothing⟩ := Turn.of_cancelled? hagain hchanged
      rw [hnothing, EventBus.unsubscribe_of_not_live hused.gone]
    · rintro given _ _ (hchanges | _) ⟨b, hb, hused⟩
      · cases hb
        exact ⟨_, rfl, hused.changes hchanges⟩
      · cases hb

end Run

/-- Whatever is done to buses that were just made, from outside or by their handlers, each call
finds orderly subscriptions and does what it says. A bus gives the numbers 1, 2, 3 and so on, one
for each handler that it takes, and what was ended once cannot be ended again. -/
theorem orderly_run [Inhabited ω] {buses : List (EventBus (BusHandler ω))}
    (hnew : ∀ b ∈ buses, b.IsNew) (steps : List (BusStep ω)) :
    Linked (ofBuses buses) ((ofBuses buses).turns steps) ((ofBuses buses).run steps) ∧
      (∀ t ∈ (ofBuses buses).turns steps, t.Lawful) ∧
      ((ofBuses buses).run steps).Orderly ∧
      (∀ bus < buses.length, ∃ count,
        numbers bus ((ofBuses buses).turns steps) = List.range' 1 count) ∧
      ∀ earlier t later, (ofBuses buses).turns steps = earlier ++ t :: later →
        ∀ bus id, t.cancelled? = some (bus, id) → t.outcome = .ok (.removed true) →
          ∀ u ∈ later, u.cancelled? = some (bus, id) → u.outcome = .ok (.removed false) := by
  have hlinked := linked_run (ofBuses buses) steps
  have hstart : (ofBuses buses).Orderly := fun b hb ↦
    ⟨(hnew b hb).orderly, (hnew b hb).orderly.handlers_ascending⟩
  obtain ⟨hturns, hend⟩ := hlinked.orderly hstart
  refine ⟨hlinked, fun t ht ↦ Turn.lawful (hturns t ht), hend, ?_, ?_⟩
  · intro bus hlt
    have hnumbers := hlinked.numbers_eq (List.getElem?_eq_getElem hlt)
    rw [(hnew _ (List.getElem_mem hlt)).nextId] at hnumbers
    exact ⟨_, hnumbers⟩
  · intro earlier t later hsplit bus id hcancelled houtcome
    rw [hsplit] at hlinked hturns
    exact hlinked.ended (hturns t (by simp)) hcancelled houtcome

/-- Two buses, the first one with room for two handlers of a kind. -/
def narrow : List (EventBus (BusHandler Unit)) := [.withLimits 2 8, .withLimits 10 8]

/-- The first handler ends its own subscription and adds two others, for one of which there is no
room, and then tries its number on the other bus. The second one, which is called next, and a step
from outside try to end the first subscription again. -/
def crowd : List (BusStep Unit) :=
  [.listen 0 .stackDown "first" fun _ ↦ .ofScript
      [.cancel 0 1, .listen 0 .stackDown "late" fun _ ↦ .finish,
        .listen 0 .stackDown "later" fun _ ↦ .finish, .cancel 1 1],
    .listen 0 .stackDown "second" fun _ ↦ .ofScript [.cancel 0 1],
    .publish 0 (.stackDown "down"), .cancel 0 1, .unsubscribe 0 "late"]

theorem orderly_run_crowd :
    (∀ b ∈ narrow, b.IsNew) ∧ (∀ t ∈ (ofBuses narrow).turns crowd, t.Lawful) ∧
      ((ofBuses narrow).turns crowd).map (·.outcome) =
        [.ok (.subscribed 1), .ok (.subscribed 2), .ok (.removed true), .ok (.subscribed 3),
          .error (.fault (.resourceExhausted "event handlers for StackDown (max 2)")),
          .ok (.removed false), .ok (.removed false), .ok (.removed false),
          .ok (.removed true)] := by
  have hnew : ∀ b ∈ narrow, b.IsNew :=
    List.forall_mem_cons.2 ⟨⟨rfl, rfl⟩, List.forall_mem_cons.2 ⟨⟨rfl, rfl⟩, nofun⟩⟩
  obtain ⟨-, hlawful, -⟩ := orderly_run hnew crowd
  exact ⟨hnew, hlawful, rfl⟩

end MeshBridge.BusNetwork
