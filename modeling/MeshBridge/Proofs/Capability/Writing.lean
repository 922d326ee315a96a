import MeshBridge.Proofs.Capability.Kinds
import MeshBridge.Proofs.Capability.Saturation
/-!
Writing values. A value that was corrected for a device is carried by a request of the kind of the
capability it is written to, and its numbers are sent as `CapabilityValue.Saturates` says
(`Carries`). A capability that can be written takes truth values if it is one, and numbers if it is
not; of hue and saturation the one that is not written is known as a number at any time, so nothing
else stands in the way of a request (`requestFor_eq_ok_iff`, `requestFor_cases`).
-/

set_option autoImplicit false
set_option relaxedAutoImplicit false

namespace MeshBridge

/-- Whether a value can be written to a capability. -/
def Capability.Takes (capability : Capability) (v : CapabilityValue) : Prop :=
  capability.isWritable ∧ (v.kind = .bool ↔ capability.kind = .bool)

namespace CapabilityValue

variable {v : CapabilityValue} {high n : Nat}

theorem Saturates.le (h : v.Saturates high n) (hhigh : high < 2 ^ 63) : n ≤ high := by
  obtain ⟨k, -, rfl⟩ := Option.map_eq_some_iff.1 ((saturates_iff hhigh v).1 h)
  exact Nat.min_le_right ..

end CapabilityValue

namespace Coordinator

variable {ρ σ : Type} {c : Coordinator ρ σ} {target : Target} {capability : Capability}
  {v : CapabilityValue} {request : Request} {node : Node}

/-- How a request carries a value that is written to a capability. -/
inductive Carries (c : Coordinator ρ σ) (target : Target) :
    Capability → CapabilityValue → Request → Prop
  | onOff (on : Bool) : Carries c target .onOff (.bool on) (.onOff (if on then .on else .off))
  | brightness {v : CapabilityValue} {level : UInt8} (h : v.Saturates 254 level.toNat) :
    Carries c target .brightness v (.level level c.config.defaultTransition)
  | colorTemp {v : CapabilityValue} {mireds : UInt16} (h : v.Saturates 65535 mireds.toNat) :
    Carries c target .colorTemp v (.color (.temperature mireds c.config.defaultTransition))
  /-- The saturation is kept. -/
  | hue {v held : CapabilityValue} {hue saturation : UInt8} (h : v.Saturates 254 hue.toNat)
      (hheld : c.heldComponent target .saturation = .ok held)
      (hkept : held.Saturates 254 saturation.toNat) :
    Carries c target .hue v
      (.color (.hueSaturation hue saturation c.config.defaultTransition))
  /-- The hue is kept. -/
  | saturation {v held : CapabilityValue} {hue saturation : UInt8}
      (h : v.Saturates 254 saturation.toNat) (hheld : c.heldComponent target .hue = .ok held)
      (hkept : held.Saturates 254 hue.toNat) :
    Carries c target .saturation v
      (.color (.hueSaturation hue saturation c.config.defaultTransition))

/-! ### Numbers -/

theorem number_eq_ok_iff (capability : Capability) {high n : Nat} (hhigh : high < 2 ^ 63) :
    number capability high v = .ok n ↔ v.Saturates high n := by
  rw [CapabilityValue.saturates_iff hhigh]
  unfold number
  cases v.int? <;> simp

theorem map_number_eq_ok_iff {high : Nat} (hhigh : high < 2 ^ 63) (made : Nat → Request) :
    (number capability high v).map made = .ok request ↔
      ∃ n, v.Saturates high n ∧ made n = request := by
  simp only [← number_eq_ok_iff capability hhigh]
  cases number capability high v <;> simp [Except.map]

theorem colorComponent_eq_ok_iff {n : UInt8} :
    colorComponent v = .ok n ↔ v.Saturates 254 n.toNat := by
  rw [CapabilityValue.saturates_iff (by decide)]
  unfold colorComponent
  cases v.int? with
  | none => simp
  | some k =>
    have hle : CapabilityValue.saturate 254 k ≤ 254 := Nat.min_le_right ..
    have hvalue : (CapabilityValue.saturate 254 k).toUInt8.toNat = CapabilityValue.saturate 254 k :=
      Nat.mod_eq_of_lt (by omega)
    rw [Option.map_some, Option.some_inj, Except.ok.injEq, ← UInt8.toNat_inj, hvalue]

theorem colorRequest_eq_ok_iff {hue saturation : CapabilityValue} :
    c.colorRequest hue saturation = .ok request ↔ ∃ h s : UInt8, hue.Saturates 254 h.toNat ∧
      saturation.Saturates 254 s.toNat ∧
        request = .color (.hueSaturation h s c.config.defaultTransition) := by
  simp only [← colorComponent_eq_ok_iff]
  unfold colorRequest
  cases colorComponent hue <;> cases colorComponent saturation <;>
    simp [bind, Except.bind, eq_comm]

/-- There is a request for two numbers, and none as soon as one of them is a truth value. -/
theorem colorRequest_cases (c : Coordinator ρ σ) (hue saturation : CapabilityValue) :
    (hue.kind ≠ .bool ∧ saturation.kind ≠ .bool ∧
        ∃ request, c.colorRequest hue saturation = .ok request) ∨
      (hue.kind = .bool ∨ saturation.kind = .bool) ∧
        ∃ detail, c.colorRequest hue saturation = .error (.invalidArgument detail) := by
  cases hue with
  | bool b => exact Or.inr ⟨Or.inl rfl, _, rfl⟩
  | int | float =>
    cases saturation with
    | bool b => exact Or.inr ⟨Or.inr rfl, _, rfl⟩
    | int | float => exact Or.inl ⟨nofun, nofun, _, rfl⟩

/-- A component that is kept is known as a number, whether or not the device ever told of it. -/
theorem exists_heldComponent (hnode : c.devices.find? target.device = some node)
    (capability : Capability) (hkind : capability.kind = .integer) :
    ∃ held, c.heldComponent target capability = .ok held ∧ held.kind = .integer := by
  refine ⟨_, by rw [heldComponent, Coordinator.node, hnode]; rfl, ?_⟩
  rw [← hkind]
  refine c.corrections.kind_correct .outbound node.manufacturer node.model ?_
  cases hstored : stored node target.endpoint capability with
  | none => exact hkind.symm
  | some v =>
    obtain ⟨a, -, hread⟩ := Option.bind_eq_some_iff.1 hstored
    exact Capability.kind_ofAttribute hread

/-! ### Requests -/

/-- Exactly the requests that carry a value are made of it. -/
theorem requestFor_eq_ok_iff :
    c.requestFor target capability v = .ok request ↔ c.Carries target capability v request := by
  constructor
  · intro hrequest
    cases capability with
    | onOff =>
      cases v with
      | bool on =>
        cases hrequest
        exact .onOff on
      | _ => cases hrequest
    | brightness =>
      obtain ⟨n, hn, rfl⟩ := (map_number_eq_ok_iff (by decide) _).1 hrequest
      have hle := hn.le (by decide)
      have hvalue : n.toUInt8.toNat = n := Nat.mod_eq_of_lt (by omega)
      exact .brightness (by rwa [hvalue])
    | colorTemp =>
      obtain ⟨n, hn, rfl⟩ := (map_number_eq_ok_iff (by decide) _).1 hrequest
      have hle := hn.le (by decide)
      have hvalue : n.toUInt16.toNat = n := Nat.mod_eq_of_lt (by omega)
      exact .colorTemp (by rwa [hvalue])
    | hue =>
      cases hheld : c.heldComponent target .saturation with
      | error f =>
        simp only [requestFor, hheld, bind, Except.bind] at hrequest
        cases hrequest
      | ok held =>
        simp only [requestFor, hheld, bind, Except.bind] at hrequest
        obtain ⟨h, s, hhue, hsaturation, rfl⟩ := colorRequest_eq_ok_iff.1 hrequest
        exact .hue hhue hheld hsaturation
    | saturation =>
      cases hheld : c.heldComponent target .hue with
      | error f =>
        simp only [requestFor, hheld, bind, Except.bind] at hrequest
        cases hrequest
      | ok held =>
        simp only [requestFor, hheld, bind, Except.bind] at hrequest
        obtain ⟨h, s, hhue, hsaturation, rfl⟩ := colorRequest_eq_ok_iff.1 hrequest
        exact .saturation hsaturation hheld hhue
    | _ => cases hrequest
  · intro hcarries
    cases hcarries with
    | onOff on => rfl
    | @brightness _ level h =>
      exact (map_number_eq_ok_iff (by decide) _).2 ⟨level.toNat, h, by simp⟩
    | @colorTemp _ mireds h =>
      exact (map_number_eq_ok_iff (by decide) _).2 ⟨mireds.toNat, h, by simp⟩
    | hue h hheld hkept =>
      simp only [requestFor, hheld, bind, Except.bind]
      exact colorRequest_eq_ok_iff.2 ⟨_, _, h, hkept, rfl⟩
    | saturation h hheld hkept =>
      simp only [requestFor, hheld, bind, Except.bind]
      exact colorRequest_eq_ok_iff.2 ⟨_, _, hkept, h, rfl⟩

/-- Assumes: the device is known. There is a request for a value just if the capability takes it,
and that it does not is the only reason for which there is none. -/
theorem requestFor_cases (hnode : c.devices.find? target.device = some node)
    (capability : Capability) (v : CapabilityValue) :
    capability.Takes v ∧ (∃ request, c.requestFor target capability v = .ok request) ∨
      ¬ capability.Takes v ∧
        ∃ detail, c.requestFor target capability v = .error (.invalidArgument detail) := by
  cases capability with
  | onOff =>
    cases v with
    | bool b => exact Or.inl ⟨⟨rfl, Iff.rfl⟩, _, rfl⟩
    | int | float => exact Or.inr ⟨fun htakes ↦ (nomatch htakes.2.2 rfl), _, rfl⟩
  | brightness | colorTemp =>
    cases v with
    | bool b => exact Or.inr ⟨fun htakes ↦ (nomatch htakes.2.1 rfl), _, rfl⟩
    | int | float => exact Or.inl ⟨⟨rfl, nofun, nofun⟩, _, rfl⟩
  | hue =>
    obtain ⟨held, hheld, hkind⟩ := exists_heldComponent hnode .saturation rfl
    simp only [requestFor, hheld, bind, Except.bind]
    rcases c.colorRequest_cases v held with ⟨hnumber, -, hrequest⟩ | ⟨htruth | hkept, hrefused⟩
    · exact Or.inl ⟨⟨rfl, fun htruth ↦ absurd htruth hnumber, nofun⟩, hrequest⟩
    · exact Or.inr ⟨fun htakes ↦ (nomatch htakes.2.1 htruth), hrefused⟩
    · cases hkind.symm.trans hkept
  | saturation =>
    obtain ⟨held, hheld, hkind⟩ := exists_heldComponent hnode .hue rfl
    simp only [requestFor, hheld, bind, Except.bind]
    rcases c.colorRequest_cases held v with ⟨-, hnumber, hrequest⟩ | ⟨hkept | htruth, hrefused⟩
    · exact Or.inl ⟨⟨rfl, fun htruth ↦ absurd htruth hnumber, nofun⟩, hrequest⟩
    · cases hkind.symm.trans hkept
    · exact Or.inr ⟨fun htakes ↦ (nomatch htakes.2.1 htruth), hrefused⟩
  | _ => exact Or.inr ⟨fun htakes ↦ (nomatch htakes.1), _, rfl⟩

end Coordinator

end MeshBridge
