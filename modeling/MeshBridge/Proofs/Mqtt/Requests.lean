import MeshBridge.Mqtt.Bridge
import Mathlib.Tactic.SplitIfs
/-!
What messages from the broker come to. A message that can be resolved asks one device for a state, a
brightness and a color temperature, in this order, and for nothing that is not in it
(`requested_of_plan`). Messages that cannot be resolved are those of `Unresolvable`.
-/

set_option autoImplicit false
set_option relaxedAutoImplicit false

namespace MeshBridge

variable {ρ σ α : Type}

/-! ### Devices that are not known -/

namespace Coordinator

variable {c : Coordinator ρ σ}

theorem node_of_find?_eq_none {device : Eui64} (h : c.devices.find? device = none) :
    c.node device = .error (unknownDevice device) := by
  rw [node, h]

/-- Nothing can be asked of a device that is not known, but that it reports something once. -/
theorem resolve_of_unknown {target : Target} (h : c.devices.find? target.device = none)
    {intent : Intent} (hintent : ∀ capability, intent ≠ .refresh capability) :
    c.resolve target intent = .error (unknownDevice target.device) := by
  cases intent with
  | refresh capability => exact absurd rfl (hintent capability)
  | _ =>
    simp [resolve, correct, reportingFor, node_of_find?_eq_none h, Except.map, bind, Except.bind]

end Coordinator

namespace SetRequest

variable {c : Coordinator ρ σ} {device : Eui64} {r : SetRequest}

/-! ### Requests that can be resolved -/

/-- A plan asks a device for what a request says: its state, if there is a word for it, then its
brightness, then its color temperature. -/
structure Requested (r : SetRequest) (device : Eui64) (plan : List (Target × Intent)) : Prop where
  nonempty : plan ≠ []
  device : ∀ item ∈ plan, item.1.device = device
  intents : ∃ state : Option Intent, r.state.map stateIntent = state.map .ok ∧
    plan.map (·.2) = state.toList ++
      (r.brightness.map fun n ↦ .write .brightness (.int n)).toList ++
      (r.colorTemp.map fun n ↦ .write .colorTemp (.int n)).toList

theorem device_of_target {capability : Capability} {endpoint : Option UInt8} {target : Target}
    (h : SetRequest.target c device capability endpoint = .ok target) : target.device = device := by
  unfold SetRequest.target at h
  cases endpoint with
  | some endpoint =>
    cases h
    rfl
  | none =>
    cases hnode : c.node device with
    | error f =>
      rw [hnode] at h
      cases h
    | ok node =>
      rw [hnode] at h
      cases h
      rfl

/-- A part of a request comes to one intent for the device, if it is there. -/
theorem part_eq_ok {capability : Capability} {value : Option α} {intent : α → Except Fault Intent}
    {plan : List (Target × Intent)} (h : part c device r capability value intent = .ok plan) :
    (∀ item ∈ plan, item.1.device = device) ∧
      ∃ made : Option Intent, value.map intent = made.map .ok ∧ plan.map (·.2) = made.toList := by
  unfold part at h
  cases value with
  | none =>
    cases h
    exact ⟨by simp, none, rfl, rfl⟩
  | some a =>
    dsimp only at h
    cases htarget : SetRequest.target c device capability r.endpoint with
    | error f =>
      rw [htarget] at h
      cases h
    | ok target =>
      cases hintent : intent a with
      | error f =>
        rw [htarget, hintent] at h
        cases h
      | ok made =>
        rw [htarget, hintent] at h
        cases h
        refine ⟨?_, some made, ?_, rfl⟩
        · intro item hitem
          rw [List.mem_singleton.1 hitem]
          exact device_of_target htarget
        · exact congrArg some hintent

/-- An intent that can always be made is made of each value. -/
theorem made_eq {value : Option α} {made : Option Intent} {intent : α → Intent}
    (h : value.map (fun a ↦ (.ok (intent a) : Except Fault Intent)) = made.map .ok) :
    made = value.map intent := by
  cases value <;> cases made <;> simp_all

theorem requested_of_plan {plan : List (Target × Intent)}
    (h : SetRequest.plan c device r = .ok plan) : Requested r device plan := by
  unfold SetRequest.plan at h
  cases hstate : part c device r .onOff r.state stateIntent with
  | error f =>
    rw [hstate] at h
    cases h
  | ok state =>
    cases hbrightness : part c device r .brightness r.brightness fun n ↦
        .ok (.write .brightness (.int n)) with
    | error f =>
      rw [hstate, hbrightness] at h
      cases h
    | ok brightness =>
      cases hcolor : part c device r .colorTemp r.colorTemp fun n ↦
          .ok (.write .colorTemp (.int n)) with
      | error f =>
        rw [hstate, hbrightness, hcolor] at h
        cases h
      | ok color =>
        rw [hstate, hbrightness, hcolor] at h
        obtain ⟨hstateDevice, made, hmade, hstateIntents⟩ := part_eq_ok hstate
        obtain ⟨hbrightnessDevice, level, hlevel, hbrightnessIntents⟩ := part_eq_ok hbrightness
        obtain ⟨hcolorDevice, mireds, hmireds, hcolorIntents⟩ := part_eq_ok hcolor
        have hmap : (state ++ brightness ++ color).map (·.2) = made.toList ++
            (r.brightness.map fun n ↦ .write .brightness (.int n)).toList ++
              (r.colorTemp.map fun n ↦ .write .colorTemp (.int n)).toList := by
          rw [List.map_append, List.map_append, hstateIntents, hbrightnessIntents, hcolorIntents,
            made_eq hlevel, made_eq hmireds]
        have hdevice : ∀ item ∈ state ++ brightness ++ color, item.1.device = device := by
          simp only [List.mem_append]
          rintro item ((hitem | hitem) | hitem)
          · exact hstateDevice item hitem
          · exact hbrightnessDevice item hitem
          · exact hcolorDevice item hitem
        cases hall : state ++ brightness ++ color with
        | nil =>
          simp only [bind, Except.bind, hall] at h
          cases h
        | cons first rest =>
          simp only [bind, Except.bind, hall] at h
          cases h
          rw [hall] at hmap hdevice
          exact ⟨List.cons_ne_nil first rest, hdevice, made, hmade, hmap⟩

/-- A word for a state asks for on, for off, or for the other one. -/
theorem stateIntent_cases {word : String} {intent : Intent} (h : stateIntent word = .ok intent) :
    (∃ on, intent = .write .onOff (.bool on)) ∨ intent = .toggle := by
  unfold stateIntent at h
  dsimp only at h
  split_ifs at h <;> cases h
  · exact Or.inl ⟨true, rfl⟩
  · exact Or.inl ⟨false, rfl⟩
  · exact Or.inr rfl

/-- What requests ask for: values that are no fractions, or that a state is turned around. -/
theorem Requested.intent_cases {plan : List (Target × Intent)} (h : Requested r device plan)
    {item : Target × Intent} (hitem : item ∈ plan) :
    (∃ capability value, item.2 = .write capability value ∧ ∀ x, value ≠ .float x) ∨
      item.2 = .toggle := by
  obtain ⟨state, hstate, hintents⟩ := h.intents
  have hmem : item.2 ∈ plan.map (·.2) := List.mem_map_of_mem hitem
  rw [hintents] at hmem
  simp only [List.mem_append, Option.mem_toList, Option.map_eq_some_iff] at hmem
  rcases hmem with (rfl | ⟨n, -, hmade⟩) | ⟨n, -, hmade⟩
  · obtain ⟨word, -, hword⟩ := Option.map_eq_some_iff.1 hstate
    rcases stateIntent_cases hword with ⟨on, hon⟩ | htoggle
    · exact Or.inl ⟨_, _, hon, nofun⟩
    · exact Or.inr htoggle
  · exact Or.inl ⟨_, _, hmade.symm, nofun⟩
  · exact Or.inl ⟨_, _, hmade.symm, nofun⟩

/-- No request asks for a report. -/
theorem Requested.ne_refresh {plan : List (Target × Intent)} (h : Requested r device plan)
    {item : Target × Intent} (hitem : item ∈ plan) (capability : Capability) :
    item.2 ≠ .refresh capability := by
  rcases h.intent_cases hitem with ⟨written, value, hwrite, -⟩ | htoggle
  · rw [hwrite]
    nofun
  · rw [htoggle]
    nofun

/-- Words other than three are not taken for a state. -/
theorem stateIntent_error {word : String}
    (h : String.ofList (word.toList.map Char.toUpper) ∉ ["ON", "OFF", "TOGGLE"]) :
    ∃ f, stateIntent word = .error f := by
  simp only [List.mem_cons, List.not_mem_nil, or_false, not_or] at h
  exact ⟨_, by rw [stateIntent, if_neg h.1, if_neg h.2.1, if_neg h.2.2]⟩

end SetRequest

namespace MqttBridge

open SetRequest (Requested)

/-- Why a message cannot be resolved: its topic is no command topic, its payload is no request, its
device is not known, its word for a state is none, or it asks for nothing. -/
inductive Unresolvable (b : MqttBridge) (c : Coordinator ρ σ) (topic : String)
    (payload : List UInt8) : Prop
  | topic {f : Fault} (htopic : Topic.device b.baseTopic topic = .error f)
  | payload {f : Fault} (hpayload : SetRequest.ofBytes payload = .error f)
  | device {device : Eui64} (htopic : Topic.device b.baseTopic topic = .ok device)
      (hunknown : c.devices.find? device = none)
  | word {r : SetRequest} {word : String} (hpayload : SetRequest.ofBytes payload = .ok r)
      (hstate : r.state = some word)
      (hword : String.ofList (word.toList.map Char.toUpper) ∉ ["ON", "OFF", "TOGGLE"])
  | empty {r : SetRequest} (hpayload : SetRequest.ofBytes payload = .ok r)
      (hstate : r.state = none) (hbrightness : r.brightness = none)
      (hcolorTemp : r.colorTemp = none)

variable {b : MqttBridge} {c : Coordinator ρ σ} {topic : String} {payload : List UInt8}

/-- A plan is what the payload asks of the device of the topic. -/
theorem requested_of_plan {plan : List (Target × Intent)} (h : b.plan c topic payload = .ok plan) :
    ∃ device r, Topic.device b.baseTopic topic = .ok device ∧ SetRequest.ofBytes payload = .ok r ∧
      Requested r device plan := by
  unfold MqttBridge.plan at h
  cases htopic : Topic.device b.baseTopic topic with
  | error f =>
    rw [htopic] at h
    cases h
  | ok device =>
    cases hpayload : SetRequest.ofBytes payload with
    | error f =>
      rw [htopic, hpayload] at h
      cases h
    | ok r =>
      rw [htopic, hpayload] at h
      exact ⟨device, r, rfl, rfl, SetRequest.requested_of_plan h⟩

/-- If a message that cannot be resolved has a plan, its device is not known. -/
theorem Unresolvable.unknown (h : Unresolvable b c topic payload) {plan : List (Target × Intent)}
    (hplan : b.plan c topic payload = .ok plan) :
    ∃ device r, c.devices.find? device = none ∧ Requested r device plan := by
  obtain ⟨device, r, htopic, hpayload, hrequested⟩ := requested_of_plan hplan
  obtain ⟨state, hstate, hintents⟩ := hrequested.intents
  cases h with
  | topic hno => cases htopic.symm.trans hno
  | payload hno => cases hpayload.symm.trans hno
  | device hother hunknown =>
    cases htopic.symm.trans hother
    exact ⟨device, r, hunknown, hrequested⟩
  | word hsame hword hnone =>
    cases hpayload.symm.trans hsame
    obtain ⟨f, hf⟩ := SetRequest.stateIntent_error hnone
    rw [hword, Option.map_some, hf] at hstate
    cases state <;> cases hstate
  | empty hsame hnoState hnoBrightness hnoColor =>
    cases hpayload.symm.trans hsame
    rw [hnoState] at hstate
    cases state with
    | some intent => cases hstate
    | none =>
      rw [hnoBrightness, hnoColor] at hintents
      exact absurd (List.map_eq_nil_iff.1 hintents) hrequested.nonempty

end MqttBridge

end MeshBridge
