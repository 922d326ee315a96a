import MeshBridge.Proofs.Coordinator.Recording
import MeshBridge.Proofs.Gateway.Activity
/-!
Watching the radio of a gateway at work changes nothing. A gateway over a recorded radio does what
the one over the radio itself does, with all that the scripts on its bus do (`act_watched`,
`transparent_publish`), and the record grows by what is asked of the radio meanwhile, whatever is on
it before. So what an action asks of the radio can be read off a blank record (`exchanges`).
-/

set_option autoImplicit false
set_option relaxedAutoImplicit false

namespace MeshBridge

namespace Coordinator

variable {ρ σ : Type} [Radio ρ]

omit [Radio ρ] in
/-- A request is resolved by what is known of devices, whatever the radio is. -/
theorem resolve_watched (c : Coordinator ρ σ) (past : List Exchange) (target : Target)
    (intent : Intent) : (c.watched past).resolve target intent = c.resolve target intent := by
  cases intent <;> rfl

theorem carryOut_watched (c : Coordinator ρ σ) (now : Moment) (target : Target) (intent : Intent) :
    ∃ asked : List Exchange, ∀ past, (c.watched past).carryOut now target intent =
      watchedStep (c.carryOut now target intent) (past ++ asked) := by
  unfold carryOut
  cases hrequest : c.resolve target intent with
  | error f =>
    refine ⟨[], fun past ↦ ?_⟩
    rw [resolve_watched, hrequest, List.append_nil]
    rfl
  | ok request =>
    obtain ⟨asked, -, hasked⟩ := c.send_watched now target.device target.endpoint request
    refine ⟨asked, fun past ↦ ?_⟩
    rw [resolve_watched, hrequest]
    exact hasked past

end Coordinator

namespace Gateway

open Coordinator (watchedStep)

variable {ρ σ α : Type}

/-- A gateway whose radio is watched, after some exchanges with it. -/
def watched (g : Gateway ρ σ) (past : List Exchange) : Gateway (RecordedRadio ρ) σ :=
  { g with coordinator := g.coordinator.watched past }

/-- Watched or not, this does the same to a gateway, and asks these things of the radio. -/
def Asks (f : Gateway ρ σ → Gateway ρ σ × α)
    (watching : Gateway (RecordedRadio ρ) σ → Gateway (RecordedRadio ρ) σ × α) (g : Gateway ρ σ)
    (asked : List Exchange) : Prop :=
  ∀ past, watching (g.watched past) = ((f g).1.watched (past ++ asked), (f g).2)

/-- Watched or not, publishing does the same. -/
def Transparent (publish : Publish ρ σ) (watching : Publish (RecordedRadio ρ) σ) : Prop :=
  ∀ e g, ∃ asked, Asks (publish e) (watching e) g asked

section Transparent

variable {publish : Publish ρ σ} {watching : Publish (RecordedRadio ρ) σ} {g : Gateway ρ σ}

theorem asks_of_same {f : Gateway ρ σ → Gateway ρ σ × α}
    {watching : Gateway (RecordedRadio ρ) σ → Gateway (RecordedRadio ρ) σ × α}
    (h : ∀ past, watching (g.watched past) = ((f g).1.watched past, (f g).2)) :
    ∃ asked, Asks f watching g asked :=
  ⟨[], fun past ↦ by rw [h, List.append_nil]⟩

/-- What is made of the result asks nothing more. -/
theorem Asks.map {β : Type} {f : Gateway ρ σ → Gateway ρ σ × α}
    {watching : Gateway (RecordedRadio ρ) σ → Gateway (RecordedRadio ρ) σ × α}
    {asked : List Exchange} (h : Asks f watching g asked) (k : α → β) :
    Asks (fun g ↦ ((f g).1, k (f g).2)) (fun g ↦ ((watching g).1, k (watching g).2)) g asked :=
  fun past ↦ by simp only [h past]

theorem publishAll_watched (h : Transparent publish watching) (g : Gateway ρ σ)
    (events : List Event) :
    ∃ asked, ∀ past, publishAll watching (g.watched past) events =
      (publishAll publish g events).watched (past ++ asked) := by
  induction events generalizing g with
  | nil => exact ⟨[], fun past ↦ by rw [List.append_nil]; rfl⟩
  | cons e rest ih =>
    obtain ⟨first, hfirst⟩ := h e g
    obtain ⟨others, hothers⟩ := ih (publish e g).1
    refine ⟨first ++ others, fun past ↦ ?_⟩
    show publishAll watching (watching e (g.watched past)).1 rest = _
    rw [hfirst past, hothers (past ++ first), List.append_assoc]
    rfl

/-- What a step of the coordinator asks of the radio, and then what the handlers ask of it. -/
theorem settle_watched (h : Transparent publish watching) (g : Gateway ρ σ) (s : Step ρ σ α)
    (own : List Exchange) :
    ∃ meanwhile, ∀ past,
      settle watching (g.watched past) (watchedStep s (past ++ own)) =
        ((settle publish g s).1.watched (past ++ (own ++ meanwhile)), (settle publish g s).2) := by
  obtain ⟨meanwhile, hmeanwhile⟩ := publishAll_watched h { g with coordinator := s.after } s.events
  refine ⟨meanwhile, fun past ↦ ?_⟩
  rw [← List.append_assoc]
  exact Prod.ext (hmeanwhile (past ++ own)) rfl

theorem post_watched (g : Gateway ρ σ) (past : List Exchange) (m : MqttMessage) :
    (g.watched past).post m = (g.post m).watched past := by
  have hlistens : (g.watched past).brokerListens = g.brokerListens := rfl
  unfold post
  rw [hlistens]
  cases g.brokerListens <;> rfl

variable [Radio ρ]

theorem carryOut_settle_watched (h : Transparent publish watching) (g : Gateway ρ σ)
    (target : Target) (intent : Intent) :
    ∃ asked, Asks (fun g ↦ settle publish g (g.coordinator.carryOut g.now target intent))
      (fun g ↦ settle watching g (g.coordinator.carryOut g.now target intent)) g asked := by
  obtain ⟨own, hown⟩ := g.coordinator.carryOut_watched g.now target intent
  obtain ⟨meanwhile, hsettle⟩ :=
    settle_watched h g (g.coordinator.carryOut g.now target intent) own
  refine ⟨own ++ meanwhile, fun past ↦ ?_⟩
  have hstep : (g.watched past).coordinator.carryOut (g.watched past).now target intent =
      watchedStep (g.coordinator.carryOut g.now target intent) (past ++ own) := hown past
  dsimp only
  rw [hstep]
  exact hsettle past

theorem runPlan_watched (h : Transparent publish watching) (plan : List (Target × Intent))
    (issued : List CorrelationId) (g : Gateway ρ σ) :
    ∃ asked, Asks (runPlan publish issued plan) (runPlan watching issued plan) g asked := by
  induction plan generalizing g issued with
  | nil => exact asks_of_same fun _ ↦ rfl
  | cons item rest ih =>
    obtain ⟨first, hfirst⟩ := carryOut_settle_watched h g item.1 item.2
    cases hsettle : settle publish g (g.coordinator.carryOut g.now item.1 item.2) with
    | mk after result =>
      cases result with
      | error cause =>
        simp only [Asks, hsettle] at hfirst
        refine ⟨first, fun past ↦ ?_⟩
        simp only [runPlan, hfirst, hsettle]
      | ok id =>
        obtain ⟨others, hothers⟩ := ih (issued ++ [id]) after
        simp only [Asks, hsettle] at hfirst
        refine ⟨first ++ others, fun past ↦ ?_⟩
        simp only [runPlan, hfirst, hsettle]
        rw [hothers (past ++ first), List.append_assoc]

variable [KeyValueStore σ]

omit [Radio ρ] in
/-- A value is stored beside the radio. -/
theorem storeValue_watched (g : Gateway ρ σ) (past : List Exchange) (key : String)
    (value : StoredValue) :
    (g.watched past).storeValue key value =
      ((g.storeValue key value).1.watched past, (g.storeValue key value).2) := by
  have hstore : (g.watched past).coordinator.store = g.coordinator.store := rfl
  unfold storeValue
  rw [hstore]
  cases g.coordinator.store with
  | none => rfl
  | some store =>
    dsimp only
    cases KeyValueStore.set Coordinator.networkSpace key value store <;> rfl

/-- What a message asks for does not depend on the radio. -/
theorem receive_watched (h : Transparent publish watching) (g : Gateway ρ σ) (topic : String)
    (payload : List UInt8) :
    ∃ asked, Asks (fun g ↦ g.act publish (.receive topic payload))
      (fun g ↦ g.act watching (.receive topic payload)) g asked := by
  have hplan (past : List Exchange) :
      (g.watched past).broker.plan (g.watched past).coordinator topic payload =
        g.broker.plan g.coordinator topic payload := rfl
  cases hresolved : g.broker.plan g.coordinator topic payload with
  | error f =>
    refine asks_of_same fun past ↦ ?_
    dsimp only [act]
    rw [hplan, hresolved]
  | ok plan =>
    obtain ⟨asked, hasked⟩ := runPlan_watched h plan [] g
    refine ⟨asked, fun past ↦ ?_⟩
    dsimp only [act]
    rw [hplan, hresolved]
    exact hasked.map series past

theorem act_watched (h : Transparent publish watching) (g : Gateway ρ σ) (action : Action) :
    ∃ asked, Asks (fun g ↦ g.act publish action) (fun g ↦ g.act watching action) g asked := by
  cases action with
  | call call =>
    obtain ⟨asked, hasked⟩ := settle_watched h g (g.coordinator.perform g.now call)
      (Coordinator.Turn.mk g.coordinator g.now call).exchanges
    simp only [← Coordinator.perform_watched] at hasked
    have hcall : Asks (fun g ↦ settle publish g (g.coordinator.perform g.now call))
      (fun g ↦ settle watching g (g.coordinator.perform g.now call)) g _ := hasked
    exact ⟨_, hcall.map (plain replyOf)⟩
  | poll =>
    obtain ⟨asked, hasked⟩ := settle_watched h g (g.coordinator.sweep g.now) []
    simp only [List.append_nil] at hasked
    have hsweep : Asks (fun g ↦ settle publish g (g.coordinator.sweep g.now))
      (fun g ↦ settle watching g (g.coordinator.sweep g.now)) g _ := hasked
    exact ⟨_, hsweep.map fun _ ↦ (.ok (.count 1) : Outcome)⟩
  | carryOut target intent =>
    obtain ⟨asked, hasked⟩ := carryOut_settle_watched h g target intent
    exact ⟨asked, hasked.map (plain .issued)⟩
  | paint target hue saturation value =>
    obtain ⟨asked, hasked⟩ := runPlan_watched h
      ((LightCommand.hsv hue saturation value).map fun intent ↦ (target, intent)) [] g
    exact ⟨asked, hasked.map series⟩
  | receive topic payload => exact receive_watched h g topic payload
  | publish event =>
    obtain ⟨asked, hasked⟩ := h event g
    exact ⟨asked, hasked.map (plain .count)⟩
  | subscribe kind script =>
    refine asks_of_same fun past ↦ ?_
    have hbus : (g.watched past).bus = g.bus := rfl
    dsimp only [act]
    rw [hbus]
    cases g.bus.subscribe kind (.script script) <;> rfl
  | registry request =>
    refine asks_of_same fun past ↦ ?_
    have hdevices : (g.watched past).coordinator.devices = g.coordinator.devices := rfl
    have hnow : (g.watched past).now = g.now := rfl
    dsimp only [act]
    rw [hdevices, hnow]
    cases g.coordinator.devices.perform g.now.civil request <;> rfl
  | store key value => exact asks_of_same fun past ↦ g.storeValue_watched past key value
  | publishDevices => exact asks_of_same fun past ↦ congrArg (·, _) (g.post_watched past _)
  | _ => exact asks_of_same fun _ ↦ rfl

theorem runScript_watched (h : Transparent publish watching) (script : List (String × Action))
    (g : Gateway ρ σ) :
    ∃ asked, Asks (runScript publish script) (runScript watching script) g asked := by
  induction script generalizing g with
  | nil => exact asks_of_same fun _ ↦ rfl
  | cons step rest ih =>
    obtain ⟨first, hfirst⟩ := act_watched h g step.2
    cases hact : g.act publish step.2 with
    | mk after outcome =>
      simp only [Asks, hact] at hfirst
      by_cases hbroken : outcome = .error .brokenOff
      · subst hbroken
        exact ⟨first, fun past ↦ by simp only [runScript, hfirst, hact]⟩
      · obtain ⟨others, hothers⟩ := ih (after.note (.did step.1 outcome))
        refine ⟨first ++ others, fun past ↦ ?_⟩
        rw [runScript_of_goes (hfirst past) hbroken, runScript_of_goes hact hbroken,
          ← List.append_assoc]
        exact hothers (past ++ first)

theorem handle_watched (h : Transparent publish watching) (event : Event) (handler : Handler)
    (g : Gateway ρ σ) :
    ∃ asked, Asks (fun g ↦ handle publish event g handler)
      (fun g ↦ handle watching event g handler) g asked := by
  cases handler with
  | record => exact asks_of_same fun _ ↦ rfl
  | broker =>
    refine asks_of_same fun past ↦ ?_
    have hmessage : (g.watched past).broker.message? (g.watched past).coordinator event =
        g.broker.message? g.coordinator event := by cases event <;> rfl
    dsimp only [handle]
    rw [hmessage]
    cases g.broker.message? g.coordinator event with
    | none => rfl
    | some m => exact congrArg (·, true) (g.post_watched past m)
  | script steps => exact runScript_watched h steps g

theorem deliver_watched (h : Transparent publish watching) (event : Event)
    (handlers : List Handler) (g : Gateway ρ σ) :
    ∃ asked, Asks (deliver publish event handlers) (deliver watching event handlers) g asked := by
  induction handlers generalizing g with
  | nil => exact asks_of_same fun _ ↦ rfl
  | cons handler rest ih =>
    obtain ⟨first, hfirst⟩ := handle_watched h event handler g
    obtain ⟨others, hothers⟩ := ih (handle publish event g handler).1
    refine ⟨first ++ others, fun past ↦ ?_⟩
    simp only [Asks] at hfirst hothers
    simp only [deliver, hfirst, hothers, List.append_assoc]

end Transparent

variable [Radio ρ] [KeyValueStore σ]

/-- By induction on the room that is left for publications under way. -/
theorem transparent_publishWithin (room : Nat) :
    Transparent (publishWithin room : Publish ρ σ) (publishWithin room) := by
  induction room with
  | zero =>
    intro event g
    refine asks_of_same fun past ↦ ?_
    have hcheck : (g.watched past).bus.checkDepth (g.watched past).depth event.kind =
        g.bus.checkDepth g.depth event.kind := rfl
    unfold publishWithin
    rw [hcheck]
    cases g.bus.checkDepth g.depth event.kind <;> rfl
  | succ room ih =>
    intro event g
    rcases Nat.lt_or_ge g.depth g.bus.maxDepth with hopen | hdeep
    · obtain ⟨asked, hasked⟩ := deliver_watched ih event
        ((g.bus.handlers event.kind).map (·.handler)) { g with depth := g.depth + 1 }
      refine ⟨asked, fun past ↦ ?_⟩
      have hwatched : (g.watched past).depth < (g.watched past).bus.maxDepth := hopen
      rw [publishWithin_of_lt hopen, publishWithin_of_lt hwatched]
      exact congrArg (fun served ↦
        ({ served.1 with depth := g.depth }, (.ok served.2 : Except Fault Nat))) (hasked past)
    · refine asks_of_same fun past ↦ ?_
      have hcheck : (g.watched past).bus.checkDepth (g.watched past).depth event.kind =
          g.bus.checkDepth g.depth event.kind := rfl
      unfold publishWithin
      rw [hcheck, EventBus.checkDepth_of_le hdeep]

theorem transparent_publish : Transparent (publish : Publish ρ σ) publish :=
  fun event g ↦ transparent_publishWithin (g.bus.maxDepth - g.depth) event g

/-- What an action asks of the radio, with all that handlers do meanwhile: the record of a radio
that was put under the gateway with a blank one. -/
def exchanges (g : Gateway ρ σ) (action : Action) : List Exchange :=
  ((g.watched []).perform action).1.coordinator.radio.exchanges

/-- What is asked does not depend on what was asked before, so it is what a blank record shows. -/
theorem exchanges_eq_of_asks {g : Gateway ρ σ} {action : Action} {asked : List Exchange}
    (h : Asks (fun g ↦ g.perform action) (fun g ↦ g.perform action) g asked) :
    g.exchanges action = asked :=
  congrArg (fun result ↦ result.1.coordinator.radio.exchanges) (h [])

end Gateway

end MeshBridge
