import MeshBridge.Gateway.Run
import MeshBridge.Proofs.Bus.Growth
import MeshBridge.Proofs.Coordinator.Turns
/-!
What is kept of a coordinator whatever is done to its gateway. Actions may come from outside or from
scripts on the bus, in the midst of publications and nested as deep as the bus allows: in the end
they make calls on the coordinator, or change its known devices, its radio or its store past these
calls. So what all of these keep (`Kept`) is kept by every action (`Kept.act_publish`). A gateway
whose coordinator has a past has one after every action (`past_act`).
-/

set_option autoImplicit false
set_option relaxedAutoImplicit false

namespace MeshBridge.Gateway

open Coordinator (Past History)

variable {ρ σ α : Type} [Radio ρ] [KeyValueStore σ]

/-! ### What parts of an action come to -/

/-- Where too many publications are under way, an event is passed over. -/
theorem publishWithin_of_le {g : Gateway ρ σ} (hdeep : g.bus.maxDepth ≤ g.depth) (room : Nat)
    (event : Event) : (publishWithin room event g).1 = g := by
  have hcheck := EventBus.checkDepth_of_le hdeep event.kind
  unfold publishWithin
  rw [hcheck]

/-- Elsewhere its handlers are called, one level deeper. -/
theorem publishWithin_of_lt {g : Gateway ρ σ} (hopen : g.depth < g.bus.maxDepth) (room : Nat)
    (event : Event) :
    publishWithin (room + 1) event g =
      let delivered := deliver (publishWithin room) event
        ((g.bus.handlers event.kind).map (·.handler)) { g with depth := g.depth + 1 }
      ({ delivered.1 with depth := g.depth }, .ok delivered.2) := by
  have hcheck := EventBus.checkDepth_of_lt hopen event.kind
  rw [publishWithin, hcheck]

omit [Radio ρ] [KeyValueStore σ] in
/-- A step that changes nothing and tells nothing is not seen on the bus. -/
theorem settle_of_quiet (publish : Publish ρ σ) {g : Gateway ρ σ} {s : Step ρ σ α}
    (hafter : s.after = g.coordinator) (hevents : s.events = []) :
    (settle publish g s).1 = g := by
  rw [settle, hafter, hevents]
  rfl

/-- A script goes on after every action that does not break it off. -/
theorem runScript_of_goes {publish : Publish ρ σ} {g after : Gateway ρ σ} {step : String × Action}
    {rest : List (String × Action)} {outcome : Outcome}
    (hact : g.act publish step.2 = (after, outcome)) (hgoes : outcome ≠ .error .brokenOff) :
    runScript publish (step :: rest) g =
      runScript publish rest (after.note (.did step.1 outcome)) := by
  rw [runScript, hact]
  split
  · next hbroken => exact absurd (Prod.mk.inj hbroken).2 hgoes
  · next hsame =>
    obtain ⟨rfl, rfl⟩ := Prod.mk.inj hsame
    rfl

/-! ### What is kept -/

/-- Calls on a coordinator keep this, and changes of what lies outside of it. -/
structure Kept (P : Coordinator ρ σ → Prop) : Prop where
  perform : ∀ c now call, P c → P (c.perform now call).after
  changed : ∀ c devices radio store, P c → P { c with devices, radio, store }

namespace Kept

variable {P : Coordinator ρ σ → Prop} {publish : Publish ρ σ} {g : Gateway ρ σ}

theorem carryOut (h : Kept P) {c : Coordinator ρ σ} (hc : P c) (now : Moment) (target : Target)
    (intent : Intent) : P (c.carryOut now target intent).after := by
  unfold Coordinator.carryOut
  split
  · exact hc
  · next request _ => exact h.perform c now (.send target.device target.endpoint request) hc

omit [Radio ρ] [KeyValueStore σ] in
theorem publishAll (hpublish : ∀ e g, P g.coordinator → P (publish e g).1.coordinator)
    (events : List Event) (hg : P g.coordinator) :
    P (publishAll publish g events).coordinator := by
  induction events generalizing g with
  | nil => exact hg
  | cons e rest ih => exact ih (hpublish e g hg)

omit [Radio ρ] [KeyValueStore σ] in
theorem settle (hpublish : ∀ e g, P g.coordinator → P (publish e g).1.coordinator)
    {s : Step ρ σ α} (hs : P s.after) : P (settle publish g s).1.coordinator :=
  publishAll hpublish s.events hs

theorem runPlan (h : Kept P) (hpublish : ∀ e g, P g.coordinator → P (publish e g).1.coordinator)
    (plan : List (Target × Intent)) (issued : List CorrelationId) (hg : P g.coordinator) :
    P (runPlan publish issued plan g).1.coordinator := by
  induction plan generalizing g issued with
  | nil => exact hg
  | cons item rest ih =>
    have hsettled : P (Gateway.settle publish g
        (g.coordinator.carryOut g.now item.1 item.2)).1.coordinator :=
      settle hpublish (h.carryOut hg g.now item.1 item.2)
    unfold Gateway.runPlan
    split
    · next after id hstep =>
      rw [hstep] at hsettled
      exact ih _ hsettled
    · next after cause hstep =>
      rw [hstep] at hsettled
      exact hsettled

theorem act (h : Kept P) (hpublish : ∀ e g, P g.coordinator → P (publish e g).1.coordinator)
    (hg : P g.coordinator) (action : Action) : P (g.act publish action).1.coordinator := by
  cases action with
  | call call => exact settle hpublish (h.perform _ g.now call hg)
  | poll => exact settle hpublish (h.perform _ g.now .sweep hg)
  | carryOut target intent => exact settle hpublish (h.carryOut hg g.now target intent)
  | paint target hue saturation value =>
    let plan := (LightCommand.hsv hue saturation value).map fun intent ↦ (target, intent)
    exact h.runPlan hpublish plan [] hg
  | receive topic payload =>
    dsimp only [Gateway.act]
    split
    · exact hg
    · next plan _ => exact h.runPlan hpublish plan [] hg
  | control control => exact h.changed _ _ _ _ hg
  | publish event => exact hpublish event g hg
  | subscribe kind script =>
    dsimp only [Gateway.act]
    split <;> exact hg
  | registry request =>
    dsimp only [Gateway.act]
    split
    · exact hg
    · exact h.changed _ _ _ _ hg
  | store key value =>
    show P (g.storeValue key value).1.coordinator
    unfold storeValue
    split
    · exact hg
    · split
      · exact hg
      · exact h.changed _ _ _ _ hg
  | publishDevices =>
    show P (g.post _).coordinator
    unfold post
    split <;> exact hg
  | _ => exact hg

theorem runScript (h : Kept P) (hpublish : ∀ e g, P g.coordinator → P (publish e g).1.coordinator)
    (script : List (String × Action)) (hg : P g.coordinator) :
    P (runScript publish script g).1.coordinator := by
  induction script generalizing g with
  | nil => exact hg
  | cons step rest ih =>
    have hacted := h.act hpublish hg step.2
    unfold Gateway.runScript
    split
    · next after hact =>
      rw [hact] at hacted
      exact hacted
    · next after outcome _ hact =>
      rw [hact] at hacted
      exact ih hacted

theorem handle (h : Kept P) (hpublish : ∀ e g, P g.coordinator → P (publish e g).1.coordinator)
    (event : Event) (hg : P g.coordinator) (handler : Handler) :
    P (handle publish event g handler).1.coordinator := by
  cases handler with
  | record => exact hg
  | broker =>
    dsimp only [Gateway.handle]
    split
    · unfold post
      split <;> exact hg
    · exact hg
  | script steps => exact h.runScript hpublish steps hg

theorem deliver (h : Kept P) (hpublish : ∀ e g, P g.coordinator → P (publish e g).1.coordinator)
    (event : Event) (handlers : List Handler) (hg : P g.coordinator) :
    P (deliver publish event handlers g).1.coordinator := by
  induction handlers generalizing g with
  | nil => exact hg
  | cons handler rest ih => exact ih (h.handle hpublish event hg handler)

/-- By induction on the room that is left for publications under way. -/
theorem publishWithin (h : Kept P) (room : Nat) (event : Event) (hg : P g.coordinator) :
    P (publishWithin room event g).1.coordinator := by
  induction room generalizing event g with
  | zero =>
    unfold Gateway.publishWithin
    split <;> exact hg
  | succ room ih =>
    rcases Nat.lt_or_ge g.depth g.bus.maxDepth with hopen | hdeep
    · rw [publishWithin_of_lt hopen]
      exact h.deliver (fun e _ ↦ ih e) event _ hg
    · rw [publishWithin_of_le hdeep]
      exact hg

/-- Every action keeps it, with all that the scripts on the bus do meanwhile. -/
theorem act_publish (h : Kept P) (hg : P g.coordinator) (action : Action) :
    P (g.act Gateway.publish action).1.coordinator :=
  h.act (fun e _ ↦ h.publishWithin _ e) hg action

end Kept

/-! ### Pasts and pending commands -/

theorem kept_settled : Kept fun c : Coordinator ρ σ ↦ c.pending.Settled where
  perform _ now call hsettled := Coordinator.settled_perform hsettled now call
  changed _ _ _ _ hsettled := hsettled

/-- The table of pending commands stays settled while an event is published. -/
theorem settled_publish (e : Event) (g : Gateway ρ σ) (h : g.coordinator.pending.Settled) :
    (publish e g).1.coordinator.pending.Settled :=
  kept_settled.publishWithin _ e h

theorem kept_past (config : AdapterConfig) (corrections : CorrectionTable) :
    Kept fun c : Coordinator ρ σ ↦ ∃ h, Past (fun _ _ ↦ True) config corrections c h where
  perform _ now call hpast := hpast.elim fun _ hpast ↦ ⟨_, hpast.called now call⟩
  changed _ _ radio store hpast := hpast.elim fun _ hpast ↦ ⟨_, hpast.changed trivial radio store⟩

/-- A coordinator with a past has one after any action on its gateway, whatever the scripts on the
bus do. -/
theorem past_act {config : AdapterConfig} {corrections : CorrectionTable} {g : Gateway ρ σ}
    (h : ∃ h, Past (fun _ _ ↦ True) config corrections g.coordinator h) (action : Action) :
    ∃ h, Past (fun _ _ ↦ True) config corrections (g.perform action).1.coordinator h :=
  (kept_past config corrections).act_publish h action

end MeshBridge.Gateway
