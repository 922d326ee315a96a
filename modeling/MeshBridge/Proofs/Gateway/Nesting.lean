import MeshBridge.Proofs.Gateway.Activity
/-!
Publications within publications. Whatever the scripts on the bus do, an action ends at the depth at
which it began, leaves the limit of the bus alone and only adds to what was seen (`Steady`,
`steady_act`). So at every depth the room that is counted down from the limit is room enough
(`publishWithin_eq_publish`): a handler acts on its gateway as anyone does from outside, and where
fewer publications are under way than the bus allows, an event is delivered to the handlers that its
kind has now (`publish_of_lt`).
-/

set_option autoImplicit false
set_option relaxedAutoImplicit false

namespace MeshBridge

namespace EventBus

variable {α : Type} {b after : EventBus α} {kind : EventKind} {handler : α} {id : Nat}

theorem maxDepth_subscribe (h : b.subscribe kind handler = .ok (after, id)) :
    after.maxDepth = b.maxDepth := by
  rw [subscribe_eq_ok h]

end EventBus

namespace MqttBridge

variable {α : Type}

theorem maxDepth_unsubscribeAll (bus : EventBus α) (ids : List Nat) :
    (unsubscribeAll bus ids).maxDepth = bus.maxDepth := by
  induction ids generalizing bus with
  | nil => rfl
  | cons id rest ih => exact ih (bus.unsubscribe id).1

theorem maxDepth_subscribeAll (bus : EventBus α) (handler : α) (made : List Nat)
    (kinds : List EventKind) : (subscribeAll bus handler made kinds).1.maxDepth = bus.maxDepth := by
  induction kinds generalizing bus made with
  | nil => rfl
  | cons kind rest ih =>
    unfold subscribeAll
    split
    · next subscribed id hsubscribe =>
      exact (ih subscribed (made ++ [id])).trans (EventBus.maxDepth_subscribe hsubscribe)
    · exact maxDepth_unsubscribeAll bus made

theorem maxDepth_attach (b : MqttBridge) (bus : EventBus α) (handler : α) :
    (b.attach bus handler).2.1.maxDepth = bus.maxDepth := by
  have hall := maxDepth_subscribeAll bus handler [] kinds
  unfold attach
  split_ifs
  · split
    · next after ids hsubscribe =>
      rw [hsubscribe] at hall
      exact hall
    · next after f hsubscribe =>
      rw [hsubscribe] at hall
      exact hall
  · rfl

end MqttBridge

namespace Gateway

variable {ρ σ α : Type}

/-! ### What every activity keeps -/

/-- What a gateway is like after something was done to it, whatever it was. -/
structure Steady (g after : Gateway ρ σ) : Prop where
  depth : after.depth = g.depth
  maxDepth : after.bus.maxDepth = g.bus.maxDepth
  /-- What was seen before is still on record. -/
  seen : g.trace.toList <+: after.trace.toList

section Steady

variable {g between after : Gateway ρ σ}

theorem Steady.refl (g : Gateway ρ σ) : Steady g g := ⟨rfl, rfl, List.prefix_rfl⟩

theorem Steady.trans (hfirst : Steady g between) (hrest : Steady between after) :
    Steady g after :=
  ⟨hrest.depth.trans hfirst.depth, hrest.maxDepth.trans hfirst.maxDepth,
    hfirst.seen.trans hrest.seen⟩

theorem steady_note (g : Gateway ρ σ) (t : TraceEntry) : Steady g (g.note t) where
  depth := rfl
  maxDepth := rfl
  seen := by
    rw [note, Array.toList_push]
    exact List.prefix_append _ _

theorem steady_post (g : Gateway ρ σ) (m : MqttMessage) : Steady g (g.post m) := by
  unfold post
  split_ifs
  · have hnote := g.steady_note (.message m)
    exact ⟨hnote.depth, hnote.maxDepth, hnote.seen⟩
  · exact .refl g

/-- One level deeper and back. -/
theorem Steady.leave {g last : Gateway ρ σ} (h : Steady { g with depth := g.depth + 1 } last) :
    Steady g { last with depth := g.depth } :=
  ⟨rfl, h.maxDepth, h.seen⟩

end Steady

section Publisher

variable {publish : Publish ρ σ} (hpublish : ∀ e g, Steady g (publish e g).1) {g : Gateway ρ σ}

include hpublish

theorem steady_publishAll (g : Gateway ρ σ) (events : List Event) :
    Steady g (publishAll publish g events) := by
  induction events generalizing g with
  | nil => exact .refl g
  | cons e rest ih => exact (hpublish e g).trans (ih (publish e g).1)

theorem steady_settle (g : Gateway ρ σ) (s : Step ρ σ α) : Steady g (settle publish g s).1 := by
  have hpublished := steady_publishAll hpublish { g with coordinator := s.after } s.events
  exact ⟨hpublished.depth, hpublished.maxDepth, hpublished.seen⟩

variable [Radio ρ]

theorem steady_runPlan (plan : List (Target × Intent)) (issued : List CorrelationId)
    (g : Gateway ρ σ) : Steady g (runPlan publish issued plan g).1 := by
  induction plan generalizing g issued with
  | nil => exact .refl g
  | cons item rest ih =>
    have hfirst := steady_settle hpublish g (g.coordinator.carryOut g.now item.1 item.2)
    unfold runPlan
    split
    · next after id hsettle =>
      rw [hsettle] at hfirst
      exact hfirst.trans (ih (issued ++ [id]) after)
    · next after cause hsettle =>
      rw [hsettle] at hfirst
      exact hfirst

variable [KeyValueStore σ]

theorem steady_act (g : Gateway ρ σ) (action : Action) : Steady g (g.act publish action).1 := by
  cases action with
  | call call => exact steady_settle hpublish g (g.coordinator.perform g.now call)
  | poll => exact steady_settle hpublish g (g.coordinator.sweep g.now)
  | carryOut target intent =>
    exact steady_settle hpublish g (g.coordinator.carryOut g.now target intent)
  | paint target hue saturation value =>
    let plan := (LightCommand.hsv hue saturation value).map fun intent ↦ (target, intent)
    exact steady_runPlan hpublish plan [] g
  | receive topic payload =>
    dsimp only [act]
    split
    · exact .refl g
    · next plan _ => exact steady_runPlan hpublish plan [] g
  | publish event => exact hpublish event g
  | publishDevices => exact g.steady_post _
  | attach => exact ⟨rfl, g.broker.maxDepth_attach g.bus .broker, List.prefix_rfl⟩
  | detach => exact ⟨rfl, MqttBridge.maxDepth_unsubscribeAll g.bus _, List.prefix_rfl⟩
  | subscribe kind script =>
    dsimp only [act]
    split
    · next bus id hsubscribe =>
      exact ⟨rfl, EventBus.maxDepth_subscribe hsubscribe, List.prefix_rfl⟩
    · exact .refl g
  | registry request =>
    dsimp only [act]
    split
    · exact .refl g
    · exact ⟨rfl, rfl, List.prefix_rfl⟩
  | store key value =>
    show Steady g (g.storeValue key value).1
    unfold storeValue
    split
    · exact .refl g
    · split
      · exact .refl g
      · exact ⟨rfl, rfl, List.prefix_rfl⟩
  | _ => exact ⟨rfl, rfl, List.prefix_rfl⟩

theorem steady_runScript (script : List (String × Action)) (g : Gateway ρ σ) :
    Steady g (runScript publish script g).1 := by
  induction script generalizing g with
  | nil => exact .refl g
  | cons step rest ih =>
    have hacted := steady_act hpublish g step.2
    unfold runScript
    split
    · next after hact =>
      rw [hact] at hacted
      exact hacted
    · next after outcome _ hact =>
      rw [hact] at hacted
      exact (hacted.trans (after.steady_note _)).trans (ih _)

theorem steady_handle (event : Event) (g : Gateway ρ σ) (handler : Handler) :
    Steady g (handle publish event g handler).1 := by
  cases handler with
  | record => exact g.steady_note (.event event)
  | broker =>
    dsimp only [handle]
    split
    · exact g.steady_post _
    · exact .refl g
  | script steps => exact steady_runScript hpublish steps g

theorem steady_deliver (event : Event) (handlers : List Handler) (g : Gateway ρ σ) :
    Steady g (deliver publish event handlers g).1 := by
  induction handlers generalizing g with
  | nil => exact .refl g
  | cons handler rest ih => exact (steady_handle hpublish event g handler).trans (ih _)

end Publisher

section Within

variable [Radio ρ] [KeyValueStore σ]

/-- By induction on the room that is left for publications under way. -/
theorem steady_publishWithin (room : Nat) (event : Event) (g : Gateway ρ σ) :
    Steady g (publishWithin room event g).1 := by
  induction room generalizing event g with
  | zero =>
    unfold publishWithin
    split <;> exact .refl g
  | succ room ih =>
    rcases Nat.lt_or_ge g.depth g.bus.maxDepth with hopen | hdeep
    · rw [publishWithin_of_lt hopen]
      exact (steady_deliver ih event _ { g with depth := g.depth + 1 }).leave
    · rw [publishWithin_of_le hdeep]
      exact .refl g

theorem steady_publish (event : Event) (g : Gateway ρ σ) : Steady g (publish event g).1 :=
  steady_publishWithin _ event g

end Within

/-! ### Ways of publishing that come to the same

Two ways of publishing may be used for one another where they agree on all gateways that one may
come to from the present one. -/

section Agree

variable {p q : Publish ρ σ} (hp : ∀ e g, Steady g (p e g).1) {g : Gateway ρ σ}

include hp

theorem publishAll_congr (h : ∀ e m, Steady g m → p e m = q e m) (events : List Event) :
    publishAll p g events = publishAll q g events := by
  induction events generalizing g with
  | nil => rfl
  | cons e rest ih =>
    show publishAll p (p e g).1 rest = publishAll q (q e g).1 rest
    rw [← h e g (.refl g)]
    exact ih fun e m hm ↦ h e m ((hp _ g).trans hm)

theorem settle_congr (h : ∀ e m, Steady g m → p e m = q e m) (s : Step ρ σ α) :
    settle p g s = settle q g s := by
  have hsame := publishAll_congr hp (g := { g with coordinator := s.after })
    (fun e m hm ↦ h e m ⟨hm.depth, hm.maxDepth, hm.seen⟩) s.events
  rw [settle, settle, hsame]

variable [Radio ρ]

theorem runPlan_congr (h : ∀ e m, Steady g m → p e m = q e m) (plan : List (Target × Intent))
    (issued : List CorrelationId) : runPlan p issued plan g = runPlan q issued plan g := by
  induction plan generalizing g issued with
  | nil => rfl
  | cons item rest ih =>
    have hfirst := steady_settle hp g (g.coordinator.carryOut g.now item.1 item.2)
    rw [runPlan, runPlan, ← settle_congr hp h]
    split
    · next after id hsettle =>
      rw [hsettle] at hfirst
      exact ih (fun e m hm ↦ h e m (hfirst.trans hm)) _
    · rfl

variable [KeyValueStore σ]

theorem act_congr (h : ∀ e m, Steady g m → p e m = q e m) (action : Action) :
    g.act p action = g.act q action := by
  cases action with
  | call call => simp only [act, settle_congr hp h]
  | poll => simp only [act, settle_congr hp h]
  | carryOut target intent => simp only [act, settle_congr hp h]
  | paint target hue saturation value => simp only [act, runPlan_congr hp h]
  | receive topic payload => simp only [act, runPlan_congr hp h]
  | publish event => simp only [act, h event g (.refl g)]
  | _ => rfl

theorem runScript_congr (h : ∀ e m, Steady g m → p e m = q e m)
    (script : List (String × Action)) : runScript p script g = runScript q script g := by
  induction script generalizing g with
  | nil => rfl
  | cons step rest ih =>
    have hacted := steady_act hp g step.2
    rw [runScript, runScript, ← act_congr hp h step.2]
    split
    · rfl
    · next after outcome _ hact =>
      rw [hact] at hacted
      exact ih fun e m hm ↦ h e m ((hacted.trans (after.steady_note _)).trans hm)

theorem handle_congr (h : ∀ e m, Steady g m → p e m = q e m) (event : Event)
    (handler : Handler) : handle p event g handler = handle q event g handler := by
  cases handler with
  | script steps => exact runScript_congr hp h steps
  | _ => rfl

theorem deliver_congr (h : ∀ e m, Steady g m → p e m = q e m) (event : Event)
    (handlers : List Handler) : deliver p event handlers g = deliver q event handlers g := by
  induction handlers generalizing g with
  | nil => rfl
  | cons handler rest ih =>
    have hhandled := steady_handle hp event g handler
    have hrest := ih fun e m hm ↦ h e m (hhandled.trans hm)
    simp only [deliver, ← handle_congr hp h event handler, hrest]

end Agree

/-! ### Room enough -/

section Room

variable [Radio ρ] [KeyValueStore σ] {g : Gateway ρ σ}

/-- Assumes: room for as many publications as the bus still allows. More room is not used. -/
theorem publishWithin_succ {room : Nat} (h : g.bus.maxDepth ≤ g.depth + room) (event : Event) :
    publishWithin (room + 1) event g = publishWithin room event g := by
  induction room generalizing event g with
  | zero =>
    have hdeep : g.bus.maxDepth ≤ g.depth := h
    have hcheck := EventBus.checkDepth_of_le hdeep event.kind
    rw [publishWithin, publishWithin, hcheck]
  | succ room ih =>
    rcases Nat.lt_or_ge g.depth g.bus.maxDepth with hopen | hdeep
    · rw [publishWithin_of_lt hopen, publishWithin_of_lt hopen,
        deliver_congr (steady_publishWithin (room + 1))]
      intro e m hm
      refine ih ?_ e
      rw [hm.depth, hm.maxDepth]
      show g.bus.maxDepth ≤ g.depth + 1 + room
      omega
    · have hcheck := EventBus.checkDepth_of_le hdeep event.kind
      rw [publishWithin, publishWithin, hcheck]

/-- Assumes: room for as many publications as the bus still allows. -/
theorem publishWithin_eq_publish {room : Nat} (h : g.bus.maxDepth ≤ g.depth + room)
    (event : Event) : publishWithin room event g = publish event g := by
  obtain ⟨more, rfl⟩ : ∃ more, room = (g.bus.maxDepth - g.depth) + more :=
    Nat.exists_eq_add_of_le (by omega)
  induction more with
  | zero => rfl
  | succ more ih =>
    rw [← Nat.add_assoc, publishWithin_succ (by omega), ih (by omega)]

/-- Where fewer publications are under way than the bus allows, the handlers are called one level
deeper, and what they do is done to the gateway as it is done from outside. -/
theorem publish_of_lt (hopen : g.depth < g.bus.maxDepth) (event : Event) :
    publish event g =
      let delivered := deliver publish event ((g.bus.handlers event.kind).map (·.handler))
        { g with depth := g.depth + 1 }
      ({ delivered.1 with depth := g.depth }, .ok delivered.2) := by
  obtain ⟨room, hroom⟩ : ∃ room, g.bus.maxDepth - g.depth = room + 1 :=
    Nat.exists_eq_succ_of_ne_zero (by omega)
  rw [publish, hroom, publishWithin_of_lt hopen, deliver_congr (steady_publishWithin room)]
  intro e m hm
  refine publishWithin_eq_publish ?_ e
  rw [hm.depth, hm.maxDepth]
  show g.bus.maxDepth ≤ g.depth + 1 + room
  omega

theorem publish_of_le (hdeep : g.bus.maxDepth ≤ g.depth) (event : Event) :
    (publish event g).1 = g :=
  publishWithin_of_le hdeep _ event

end Room

end Gateway

end MeshBridge
