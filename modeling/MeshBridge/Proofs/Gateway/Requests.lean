import MeshBridge.Proofs.Gateway.Series
import MeshBridge.Proofs.Mqtt.Requests
import MeshBridge.Radio.Simulated
import MeshBridge.Store.Memory
/-!
Requests to a gateway that come to several commands: messages from the broker, and colors given by
hue, saturation and value. Whatever state a gateway is in, it accounts exactly for what it sends on
such a request, and a message that cannot be resolved leaves it as it was (`accountable_of_past`).
-/

set_option autoImplicit false
set_option relaxedAutoImplicit false

namespace MeshBridge.Gateway

open Coordinator (Past History)
open SetRequest (Requested)

variable {ρ σ : Type} [Radio ρ] [KeyValueStore σ] {g : Gateway ρ σ} {topic : String}
  {payload : List UInt8}

/-! ### Requests that are refused as a whole -/

/-- A series whose first command is for a device that is not known leaves no trace. -/
theorem runPlan_of_unknown {item : Target × Intent}
    (hunknown : g.coordinator.devices.find? item.1.device = none)
    (hintent : ∀ capability, item.2 ≠ .refresh capability) (rest : List (Target × Intent)) :
    runPlan publish [] (item :: rest) g =
      (g, .error ⟨[], Coordinator.unknownDevice item.1.device⟩) := by
  have hresolve := Coordinator.resolve_of_unknown hunknown hintent
  obtain ⟨hstep, -⟩ := Attempt.own_of_unresolved (a := g.attempt item) hresolve
  have hresult : (g.attempt item).step.result =
      .error (Coordinator.unknownDevice item.1.device) := by rw [hstep]; rfl
  have hafter : (g.attempt item).after = g := Attempt.after_of_unresolved hresolve
  rw [runPlan_of_error hresult, hafter]

theorem receive_of_unplanned {f : Fault}
    (h : g.broker.plan g.coordinator topic payload = .error f) :
    g.perform (.receive topic payload) = (g, .error (.batch ⟨[], f⟩)) := by
  dsimp only [perform, act]
  rw [h]
  rfl

/-- A message that cannot be resolved is refused and changes nothing. -/
theorem receive_of_unresolvable (h : g.broker.Unresolvable g.coordinator topic payload) :
    ∃ f, g.perform (.receive topic payload) = (g, .error (.batch ⟨[], f⟩)) := by
  cases hplan : g.broker.plan g.coordinator topic payload with
  | error f => exact ⟨f, receive_of_unplanned hplan⟩
  | ok plan =>
    obtain ⟨device, r, hunknown, hrequested⟩ := h.unknown hplan
    cases plan with
    | nil => exact absurd rfl hrequested.nonempty
    | cons item rest =>
      have hdevice := hrequested.device item List.mem_cons_self
      have hrefused := runPlan_of_unknown (hdevice ▸ hunknown)
        (hrequested.ne_refresh List.mem_cons_self) rest
      refine ⟨Coordinator.unknownDevice item.1.device, ?_⟩
      dsimp only [perform, act]
      rw [hplan]
      dsimp only
      rw [hrefused]
      rfl

omit [Radio ρ] [KeyValueStore σ] in
/-- Whether a message can be resolved does not depend on the radio. -/
theorem unresolvable_watched (h : g.broker.Unresolvable g.coordinator topic payload) :
    (g.watched []).broker.Unresolvable (g.watched []).coordinator topic payload := by
  cases h with
  | topic htopic => exact .topic htopic
  | payload hpayload => exact .payload hpayload
  | device htopic hunknown => exact .device htopic hunknown
  | word hpayload hstate hword => exact .word hpayload hstate hword
  | empty hpayload hstate hbrightness hcolorTemp =>
    exact .empty hpayload hstate hbrightness hcolorTemp

/-- An action that changes nothing where the radio is watched asks nothing of it. -/
theorem exchanges_of_unchanged {action : Action} {outcome : Outcome}
    (h : (g.watched []).perform action = (g.watched [], outcome)) : g.exchanges action = [] := by
  rw [exchanges, h]
  rfl

/-! ### Requests in general -/

/-- The commands for a color: hue and saturation come first, then the level. -/
def painting (target : Target) (hue saturation value : UInt8) : List (Target × Intent) :=
  [(target, .paint hue saturation),
    (target, .write .brightness (.int (Int64.ofNat value.toNat)))]

theorem perform_paint (g : Gateway ρ σ) (target : Target) (hue saturation value : UInt8) :
    g.perform (.paint target hue saturation value) =
      ((runPlan publish [] (painting target hue saturation value) g).1,
        series (runPlan publish [] (painting target hue saturation value) g).2) := rfl

theorem perform_receive {plan : List (Target × Intent)}
    (h : g.broker.plan g.coordinator topic payload = .ok plan) :
    g.perform (.receive topic payload) =
      ((runPlan publish [] plan g).1, series (runPlan publish [] plan g).2) := by
  dsimp only [perform, act]
  rw [h]

theorem exchanges_paint (g : Gateway ρ σ) (target : Target) (hue saturation value : UInt8) :
    g.exchanges (.paint target hue saturation value) =
      (g.attempts (painting target hue saturation value)).flatMap fun a ↦ a.own ++ a.meanwhile :=
  exchanges_eq_of_asks ((asks_runPlan (painting target hue saturation value) [] g).map series)

theorem exchanges_receive {plan : List (Target × Intent)}
    (h : g.broker.plan g.coordinator topic payload = .ok plan) :
    g.exchanges (.receive topic payload) =
      (g.attempts plan).flatMap fun a ↦ a.own ++ a.meanwhile := by
  refine exchanges_eq_of_asks fun past ↦ ?_
  have hwatched : (g.watched past).broker.plan (g.watched past).coordinator topic payload =
    .ok plan := h
  dsimp only
  rw [perform_receive h, perform_receive hwatched]
  exact (asks_runPlan plan [] g).map series past

/-- A color for a device that is not known leaves no trace. -/
theorem paint_of_unknown {target : Target}
    (hunknown : g.coordinator.devices.find? target.device = none) (hue saturation value : UInt8) :
    g.perform (.paint target hue saturation value) =
      (g, .error (.batch ⟨[], Coordinator.unknownDevice target.device⟩)) := by
  have hrefused : runPlan publish [] (painting target hue saturation value) g =
      (g, .error ⟨[], Coordinator.unknownDevice target.device⟩) :=
    runPlan_of_unknown hunknown (by simp) _
  rw [perform_paint, hrefused]
  rfl

/-- How a gateway accounts for what it sends on a request. -/
structure Accountable (g : Gateway ρ σ) : Prop where
  painted : ∀ target hue saturation value, ∃ outcome sent,
    g.perform (.paint target hue saturation value) = (outcome.1, series outcome.2) ∧
      Accounted g (painting target hue saturation value)
        (g.exchanges (.paint target hue saturation value)) outcome sent
  /-- State comes first, then brightness, then color temperature. -/
  received : ∀ topic payload plan, g.broker.plan g.coordinator topic payload = .ok plan →
    (∃ device r, Topic.device g.broker.baseTopic topic = .ok device ∧
      SetRequest.ofBytes payload = .ok r ∧ Requested r device plan) ∧
    ∃ outcome sent, g.perform (.receive topic payload) = (outcome.1, series outcome.2) ∧
      Accounted g plan (g.exchanges (.receive topic payload)) outcome sent
  /-- All other messages are refused as a whole. No identifier is given, nothing is asked of the
  radio, and the gateway is as it was. -/
  unplanned : ∀ topic payload f, g.broker.plan g.coordinator topic payload = .error f →
    g.perform (.receive topic payload) = (g, .error (.batch ⟨[], f⟩)) ∧
      g.exchanges (.receive topic payload) = []
  /-- So are all that cannot be resolved. -/
  unresolvable : ∀ topic payload, g.broker.Unresolvable g.coordinator topic payload →
    (∃ f, g.perform (.receive topic payload) = (g, .error (.batch ⟨[], f⟩))) ∧
      g.exchanges (.receive topic payload) = []
  /-- And colors for a device that is not known. -/
  unknown : ∀ target hue saturation value, g.coordinator.devices.find? target.device = none →
    (∃ f, g.perform (.paint target hue saturation value) = (g, .error (.batch ⟨[], f⟩))) ∧
      g.exchanges (.paint target hue saturation value) = []

/-- Whatever the coordinator of a gateway went through, and whatever handlers there are, the gateway
accounts exactly for what it sends on a request. -/
theorem accountable_of_past {others : Registry → Registry → Prop} {config : AdapterConfig}
    {corrections : CorrectionTable} {h : History ρ σ}
    (hpast : Past others config corrections g.coordinator h) : Accountable g where
  painted target hue saturation value := by
    obtain ⟨sent, haccounted⟩ :=
      accounted_runPlan hpast.settled _ (g.exchanges_paint target hue saturation value)
    exact ⟨_, sent, g.perform_paint target hue saturation value, haccounted⟩
  received topic payload plan hplan := by
    obtain ⟨sent, haccounted⟩ := accounted_runPlan hpast.settled plan (exchanges_receive hplan)
    exact ⟨MqttBridge.requested_of_plan hplan, _, sent, perform_receive hplan, haccounted⟩
  unplanned topic payload f hplan := by
    have hwatched : (g.watched []).broker.plan (g.watched []).coordinator topic payload =
      .error f := hplan
    exact ⟨receive_of_unplanned hplan, exchanges_of_unchanged (receive_of_unplanned hwatched)⟩
  unresolvable topic payload hunresolvable := by
    obtain ⟨f, hwatched⟩ := receive_of_unresolvable (unresolvable_watched hunresolvable)
    exact ⟨receive_of_unresolvable hunresolvable, exchanges_of_unchanged hwatched⟩
  unknown target hue saturation value hunknown := by
    have hwatched : (g.watched []).coordinator.devices.find? target.device = none := hunknown
    exact ⟨⟨_, paint_of_unknown hunknown hue saturation value⟩,
      exchanges_of_unchanged (paint_of_unknown hwatched hue saturation value)⟩

/-- A gateway with one light, and room for one command under way. -/
def lightInReach : Gateway SimulatedRadio MemoryStore :=
  let parts : Parts SimulatedRadio MemoryStore :=
    ⟨{ (default : AdapterConfig) with maxPending := 1 }, default, default, .empty,
      SimulatedRadio.empty, none⟩
  { ofParts parts with
    coordinator := (ofParts parts).coordinator.run
      [(⟨0, 0⟩, .init), (⟨0, 0⟩, .formed 0 0x1A62 11), (⟨1, 0⟩, .announce ⟨7⟩ 0x1234)] }

/-- There is no slot for the second of two commands, so the identifier of the first is all that is
given. -/
theorem accountable_of_past_lightInReach :
    ∃ h : History SimulatedRadio MemoryStore,
      Past Eq { (default : AdapterConfig) with maxPending := 1 } .empty lightInReach.coordinator h ∧
        (runPlan publish [] (painting ⟨⟨7⟩, 1⟩ 10 20 30) lightInReach).2 =
          .error ⟨[⟨1⟩], .resourceExhausted "pending commands (1 slots)"⟩ ∧
        Accountable lightInReach := by
  obtain ⟨h, hpast, -⟩ := Coordinator.past_run Eq
    { (default : AdapterConfig) with maxPending := 1 } .empty SimulatedRadio.empty
    (none : Option MemoryStore) _
  exact ⟨h, hpast, by decide, accountable_of_past hpast⟩

end MeshBridge.Gateway
