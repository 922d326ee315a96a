import MeshBridge.Proofs.Correction.Clamping
import MeshBridge.Proofs.Gateway.Requests
import MeshBridge.Proofs.Gateway.Writing
/-!
Levels of lights that are not to be dimmed too far. An entry whose last word on brightness is a
clamp keeps every level that is sent to its devices in the range of the clamp, whichever way the
light is asked: by a value for any capability, by one of the verbs for lights (`commands_light`), by
a color, or by a message from the broker. All of these come to attempts that are resolved alike
(`Commands`), and levels are sent for corrected brightness only (`Coordinator.resolve_eq_level`).
-/

set_option autoImplicit false
set_option relaxedAutoImplicit false

namespace MeshBridge

/-- The level that an endpoint was told to move to, if the radio accepted the frame. -/
def Exchange.level? : Exchange → Option UInt8
  | send ⟨_, _, .level level _⟩ (.ok _) => some level
  | _ => none

theorem Exchange.level?_eq_some_iff {exchange : Exchange} {level : UInt8} :
    exchange.level? = some level ↔ ∃ address endpoint transition seq,
      exchange = .send ⟨address, endpoint, .level level transition⟩ (.ok seq) := by
  constructor
  · intro hlevel
    unfold level? at hlevel
    split at hlevel
    · cases hlevel
      exact ⟨_, _, _, _, rfl⟩
    · cases hlevel
  · rintro ⟨address, endpoint, transition, seq, rfl⟩
    rfl

/-- Whether no fraction is asked for. -/
def Intent.Whole : Intent → Prop
  | write _ value => ∀ x, value ≠ .float x
  | _ => True

/-- The last word of an entry on brightness is a clamp to a range of levels. -/
structure Correction.Entry.Guards (e : Correction.Entry) (low high : Int32) : Prop where
  confines : e.Confines .brightness low high
  low_nonneg : 0 ≤ low
  high_le : high ≤ 254

/-- A level is in a range. -/
def Within (low high : Int32) (level : UInt8) : Prop :=
  low.toInt ≤ level.toNat ∧ level.toNat ≤ high.toInt

namespace Coordinator

variable {ρ σ : Type} {c : Coordinator ρ σ} {target : Target} {intent : Intent} {level : UInt8}
  {transition : UInt16} {e : Correction.Entry} {low high : Int32}

/-- Levels are sent for values that are written to brightness. -/
theorem resolve_eq_level (h : c.resolve target intent = .ok (.level level transition)) :
    ∃ capability value r, intent = .write capability value ∧
      c.correct target.device capability value = .ok r ∧ r.target = .brightness ∧
        r.value.Saturates 254 level.toNat := by
  cases intent with
  | write capability value =>
    obtain ⟨r, hcorrect, hcarries⟩ := resolve_write_eq_ok_iff.1 h
    refine ⟨capability, value, r, rfl, hcorrect, ?_⟩
    generalize r.target = written at hcarries ⊢
    generalize r.value = corrected at hcarries ⊢
    cases hcarries with
    | brightness hsaturates => exact ⟨rfl, hsaturates⟩
  | toggle =>
    rw [resolve] at h
    cases hnode : c.node target.device <;> rw [hnode] at h <;> cases h
  | configure capability =>
    rw [resolve] at h
    cases hreporting : c.reportingFor target.device capability <;> rw [hreporting] at h <;> cases h
  | refresh capability => cases h
  | paint hue saturation =>
    rw [resolve] at h
    cases hhue : c.correct target.device .hue (.int (Int64.ofNat hue.toNat)) with
    | error f =>
      rw [hhue] at h
      cases h
    | ok correctedHue =>
      cases hsaturation :
          c.correct target.device .saturation (.int (Int64.ofNat saturation.toNat)) with
      | error f =>
        rw [hhue, hsaturation] at h
        cases h
      | ok correctedSaturation =>
        rw [hhue, hsaturation] at h
        obtain ⟨n, m, -, -, hcolor⟩ := colorRequest_eq_ok_iff.1 h
        cases hcolor

/-- Assumes: no fraction is asked for, and the entry for the device guards its levels. -/
theorem within_of_resolve (hentry : c.correction? target.device = some e)
    (hguards : e.Guards low high) (hwhole : intent.Whole)
    (h : c.resolve target intent = .ok (.level level transition)) : Within low high level := by
  obtain ⟨capability, value, r, rfl, hcorrect, htarget, hlevel⟩ := resolve_eq_level h
  obtain rfl := eq_correct_of_correct hentry hcorrect
  rw [e.target_correct] at htarget
  have hcapability : capability = .brightness := by
    by_contra hother
    exact hguards.confines.destination_ne hother htarget
  subst hcapability
  cases value with
  | bool b =>
    have hbool := e.value_correct_bool .outbound .brightness b
    rw [hbool] at hlevel
    exact hlevel.elim
  | float x => exact absurd rfl (hwhole x)
  | int n =>
    obtain ⟨k, hk, hlow, hhigh⟩ := hguards.confines.value rfl .outbound n
    rw [hk] at hlevel
    have hlevel : (level.toNat : ℤ) = max 0 (min k.toInt 254) := hlevel
    have hnonneg : (0 : ℤ) ≤ low.toInt := Int32.le_iff_toInt_le.1 hguards.low_nonneg
    have hle : high.toInt ≤ 254 := Int32.le_iff_toInt_le.1 hguards.high_le
    constructor <;> omega

end Coordinator

namespace Gateway

open Coordinator (Past History)

variable {ρ σ : Type} [Radio ρ]

/-- An attempt that keeps to the guard of its device: whatever level the radio accepts for it is in
the range. -/
def Attempt.Guarded (a : Attempt ρ σ) : Prop :=
  ∀ e low high, a.before.coordinator.correction? a.target.device = some e → e.Guards low high →
    ∀ exchange ∈ a.own, ∀ level, exchange.level? = some level →
      Within low high level ∧ (0 < low → level ≠ 0)

variable [KeyValueStore σ]

theorem Attempt.guarded (a : Attempt ρ σ) (h : a.before.coordinator.pending.Settled)
    (hwhole : a.intent.Whole) : a.Guarded := by
  intro e low high hentry hguards exchange hexchange level hlevel
  obtain ⟨address, endpoint, transition, seq, rfl⟩ := Exchange.level?_eq_some_iff.1 hlevel
  have hwithin : Within low high level := by
    rcases a.delivers_or_fails h with ⟨s, hs⟩ | ⟨f, -, hnone⟩
    · rw [hs.own, List.mem_singleton] at hexchange
      obtain ⟨id, frame, sequence⟩ := s
      cases hexchange
      exact Coordinator.within_of_resolve hentry hguards hwhole hs.request
    · cases hnone _ hexchange
  refine ⟨hwithin, ?_⟩
  rintro hpositive rfl
  have hlow : (0 : ℤ) < low.toInt := Int32.lt_iff_toInt_lt.1 hpositive
  have hzero : low.toInt ≤ 0 := hwithin.1
  omega

/-! ### Ways to ask for something -/

/-- The actions by which devices are told what to do, and the commands they come to: single
commands, colors, and messages from the broker. -/
inductive Commands (g : Gateway ρ σ) : Action → List (Target × Intent) → Prop
  | single (target : Target) {intent : Intent} (h : intent.Whole) :
    Commands g (.carryOut target intent) [(target, intent)]
  | color (target : Target) (hue saturation value : UInt8) :
    Commands g (.paint target hue saturation value) (painting target hue saturation value)
  | message {topic : String} {payload : List UInt8} {plan : List (Target × Intent)}
      (h : g.broker.plan g.coordinator topic payload = .ok plan) :
    Commands g (.receive topic payload) plan

variable {g : Gateway ρ σ} {action : Action} {plan : List (Target × Intent)}

omit [Radio ρ] [KeyValueStore σ] in
/-- Every verb for a light is one of them. -/
theorem commands_light (g : Gateway ρ σ) (target : Target) (command : LightCommand) :
    Commands g (.carryOut target command.intent) [(target, command.intent)] := by
  refine .single target ?_
  cases command with
  | toggle => trivial
  | _ => exact nofun

omit [Radio ρ] [KeyValueStore σ] in
theorem Commands.whole (h : Commands g action plan) {item : Target × Intent} (hitem : item ∈ plan) :
    item.2.Whole := by
  cases h with
  | single target hwhole =>
    rw [List.mem_singleton.1 hitem]
    exact hwhole
  | color target hue saturation value =>
    simp only [painting, List.mem_cons, List.not_mem_nil, or_false] at hitem
    rcases hitem with rfl | rfl
    · trivial
    · exact nofun
  | message hplan =>
    obtain ⟨device, r, -, -, hrequested⟩ := MqttBridge.requested_of_plan hplan
    rcases hrequested.intent_cases hitem with ⟨capability, value, hwrite, hvalue⟩ | htoggle
    · rw [hwrite]
      exact hvalue
    · rw [htoggle]
      trivial

/-- Nothing but these commands and the handlers that hear of them asks anything of the radio. -/
theorem Commands.exchanges_eq (h : Commands g action plan) :
    g.exchanges action = (g.attempts plan).flatMap fun a ↦ a.own ++ a.meanwhile := by
  cases h with
  | @single target intent hwhole =>
    have hattempts : g.attempts [(target, intent)] = [g.attempt (target, intent)] := by
      cases hresult : (g.attempt (target, intent)).step.result with
      | ok id => rw [attempts_of_ok hresult, attempts]
      | error cause => rw [attempts_of_error hresult]
    rw [hattempts, List.flatMap_singleton, exchanges_carryOut]
  | color target hue saturation value => exact g.exchanges_paint target hue saturation value
  | message hplan => exact exchanges_receive hplan

/-- By induction on the commands, each of which leaves a settled table of pending commands. -/
theorem guarded_of_mem_attempts (h : g.coordinator.pending.Settled)
    (hwhole : ∀ item ∈ plan, item.2.Whole) {a : Attempt ρ σ} (ha : a ∈ g.attempts plan) :
    a.Guarded := by
  induction plan generalizing g with
  | nil => cases ha
  | cons item rest ih =>
    obtain ⟨hitem, hrest⟩ := List.forall_mem_cons.1 hwhole
    have hfirst : (g.attempt item).Guarded := (g.attempt item).guarded h hitem
    cases hresult : (g.attempt item).step.result with
    | ok id =>
      rw [attempts_of_ok hresult] at ha
      rcases List.mem_cons.1 ha with rfl | hlater
      · exact hfirst
      · exact ih ((g.attempt item).settled_after h) hrest hlater
    | error cause =>
      rw [attempts_of_error hresult, List.mem_singleton] at ha
      rw [ha]
      exact hfirst

/-- How levels are kept in the range of a guard when devices are told what to do. -/
structure Guarding (g : Gateway ρ σ) (action : Action) (plan : List (Target × Intent)) : Prop where
  /-- Each command keeps to the guard that its device has when its turn comes. -/
  guarded : ∀ a ∈ g.attempts plan, a.Guarded
  /-- Nothing else is asked of the radio but by handlers, when they are told of a command. -/
  asked : g.exchanges action = (g.attempts plan).flatMap fun a ↦ a.own ++ a.meanwhile
  /-- So where handlers set no levels, every level that the radio accepts is in the range, and is
  not zero if the range begins above it. -/
  alone : ∀ e low high, e.Guards low high →
    (∀ a ∈ g.attempts plan, a.before.coordinator.correction? a.target.device = some e ∧
      ∀ exchange ∈ a.meanwhile, exchange.level? = none) →
    ∀ exchange ∈ g.exchanges action, ∀ level, exchange.level? = some level →
      Within low high level ∧ (0 < low → level ≠ 0)

/-- Assumes: a settled table of pending commands. -/
theorem Commands.guarding (hcommands : Commands g action plan)
    (hsettled : g.coordinator.pending.Settled) : Guarding g action plan := by
  have hguarded (a : Attempt ρ σ) (ha : a ∈ g.attempts plan) : a.Guarded :=
    guarded_of_mem_attempts hsettled (fun _ hitem ↦ hcommands.whole hitem) ha
  refine ⟨hguarded, hcommands.exchanges_eq, ?_⟩
  intro e low high hguards halone exchange hexchange level hlevel
  rw [hcommands.exchanges_eq] at hexchange
  obtain ⟨a, ha, hasked⟩ := List.mem_flatMap.1 hexchange
  obtain ⟨hentry, hmeanwhile⟩ := halone a ha
  rcases List.mem_append.1 hasked with hown | hother
  · exact hguarded a ha e low high hentry hguards exchange hown level hlevel
  · cases hlevel.symm.trans (hmeanwhile exchange hother)

/-- Whatever the coordinator of a gateway went through, and however devices are told what to do: in
any of these ways, and by every verb for lights. -/
theorem guarding_of_past {others : Registry → Registry → Prop} {config : AdapterConfig}
    {corrections : CorrectionTable} {h : History ρ σ}
    (hpast : Past others config corrections g.coordinator h) :
    (∀ action plan, Commands g action plan → Guarding g action plan) ∧
      ∀ target (command : LightCommand),
        Guarding g (.carryOut target command.intent) [(target, command.intent)] :=
  ⟨fun _ _ hcommands ↦ hcommands.guarding hpast.settled,
    fun target command ↦ (g.commands_light target command).guarding hpast.settled⟩

/-- A gateway in reach of a light that would go off at level zero. -/
def tradfri : Gateway SimulatedRadio MemoryStore :=
  introduced .builtin [73, 75, 69, 65, 32, 111, 102, 32, 83, 119, 101, 100, 101, 110]
    [84, 82, 65, 68, 70, 82, 73, 32, 98, 117, 108, 98, 32, 69, 50, 55]

theorem guards_tradfri :
    ∃ e, tradfri.coordinator.correction? ⟨7⟩ = some e ∧ e.Guards 1 254 := by
  have hentry : tradfri.coordinator.correction? ⟨7⟩ =
      some ⟨"IKEA of Sweden", "TRADFRI bulb", .leading, [.clampRange .brightness 1 254]⟩ := by
    decide
  refine ⟨_, hentry, ⟨by decide, ⟨[], [], rfl, by simp, by simp⟩, by simp⟩, by decide, by decide⟩

/-- Asked for a color without any brightness, or for no brightness, the light is dimmed as far as it
goes. -/
theorem guarding_of_past_tradfri :
    (∃ e, tradfri.coordinator.correction? ⟨7⟩ = some e ∧ e.Guards 1 254) ∧
      Guarding tradfri (.paint ⟨⟨7⟩, 1⟩ 10 20 0) (painting ⟨⟨7⟩, 1⟩ 10 20 0) ∧
      (tradfri.attempts (painting ⟨⟨7⟩, 1⟩ 10 20 0)).flatMap (·.own.filterMap Exchange.level?) =
        [1] ∧
      Guarding tradfri (.carryOut ⟨⟨7⟩, 1⟩ (LightCommand.brightness 0).intent)
        [(⟨⟨7⟩, 1⟩, (LightCommand.brightness 0).intent)] ∧
      (tradfri.exchanges (.carryOut ⟨⟨7⟩, 1⟩ (LightCommand.brightness 0).intent)).filterMap
        Exchange.level? = [1] := by
  obtain ⟨h, hpast⟩ := past_introduced .builtin
    [73, 75, 69, 65, 32, 111, 102, 32, 83, 119, 101, 100, 101, 110]
    [84, 82, 65, 68, 70, 82, 73, 32, 98, 117, 108, 98, 32, 69, 50, 55]
  obtain ⟨hguarding, hlight⟩ := guarding_of_past (g := tradfri) hpast
  exact ⟨guards_tradfri, hguarding _ _ (.color ⟨⟨7⟩, 1⟩ 10 20 0), by decide,
    hlight ⟨⟨7⟩, 1⟩ (.brightness 0), by decide⟩

end Gateway

end MeshBridge
