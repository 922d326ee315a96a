import MeshBridge.Capability.Verbs
import MeshBridge.Proofs.Correction.Evaluation
/-!
Readings are of the kind of their capability. A reported value is read as one of that kind, whatever
the type of the attribute, and every action keeps the kind of the values of its capability: clamping
and inverting keep the kind of any value, and scaling makes a number the kind of number that the
capability has. So values keep their kind under all corrections (`CorrectionTable.kind_correct`),
whichever way they go, and nothing that can be read gets lost on the way to who asked for it
(`Coordinator.wellKinded`).
-/

set_option autoImplicit false
set_option relaxedAutoImplicit false

namespace MeshBridge

open Correction

variable {c : Capability} {v : CapabilityValue}

def CapabilityValue.kind : CapabilityValue → Capability.Kind
  | bool _ => .bool
  | int _ => .integer
  | float _ => .float

def Measured.kind : Measured → Capability.Kind
  | flag _ => .bool
  | number _ => .integer
  | quantity _ => .float

theorem Capability.kind_ofAttribute {a : AttributeValue} (h : c.ofAttribute a = some v) :
    v.kind = c.kind := by
  cases c with
  | onOff | occupancy =>
    obtain ⟨b, -, rfl⟩ := Option.map_eq_some_iff.1 h
    rfl
  | temperature | humidity | battery =>
    simp only [ofAttribute] at h
    split at h
    · cases h
    · obtain ⟨n, -, rfl⟩ := Option.map_eq_some_iff.1 h
      rfl
  | brightness | colorTemp | hue | saturation =>
    obtain ⟨n, -, rfl⟩ := Option.map_eq_some_iff.1 h
    rfl

/-! ### Corrections -/

namespace Correction

theorem kind_getD_clamp (low high : Int32) (v : CapabilityValue) :
    ((clamp low high v).getD v).kind = v.kind := by
  cases v <;> rfl

/-- A truth value has no number to be scaled, and numbers become what the capability has. -/
theorem kind_getD_scale {kind : Capability.Kind} (h : v.kind = kind) (multiplier offset : Float) :
    ((scale kind multiplier offset v).getD v).kind = kind := by
  subst h
  cases v <;> rfl

theorem Action.kind_revise (h : v.kind = c.kind) (a : Action) : (a.revise c v).kind = c.kind := by
  cases a with
  | clampRange target low high => exact (kind_getD_clamp low high v).trans h
  | invertBoolean target enabled => cases v <;> exact h
  | scaleNumeric target multiplier offset => exact kind_getD_scale h multiplier offset
  | _ => exact h

theorem kind_foldl_revise (h : v.kind = c.kind) (actions : List Action) :
    (actions.foldl (Action.revise c) v).kind = c.kind := by
  induction actions generalizing v with
  | nil => exact h
  | cons a rest ih => exact ih (a.kind_revise h)

end Correction

/-- Whatever entry there is for a device, values of a capability keep their kind. -/
theorem CorrectionTable.kind_correct (t : CorrectionTable) (direction : Direction)
    (manufacturer model : String) (h : v.kind = c.kind) :
    (t.correct direction manufacturer model c v).value.kind = c.kind := by
  rw [t.value_eq_elim]
  cases t.find? manufacturer model with
  | none => exact h
  | some e => exact kind_foldl_revise h (e.actionsOn c)

/-! ### Readings -/

/-- A value of the kind of a capability is an answer of that kind. -/
theorem Reading.exists_ofValue {r : Reading} (h : v.kind = r.capability.kind) :
    ∃ m, r.ofValue v = some m ∧ m.kind = r.capability.kind := by
  cases r <;> cases v <;> cases h <;> exact ⟨_, rfl, rfl⟩

namespace Coordinator

variable {ρ σ : Type} {target : Target}

theorem read_eq_ok_iff {c : Coordinator ρ σ} {capability : Capability}
    {value : Option CapabilityValue} :
    c.read target capability = .ok value ↔ ∃ node, c.devices.find? target.device = some node ∧
      value = (stored node target.endpoint capability).map fun v ↦
        (c.corrections.correctReport node.manufacturer node.model capability v).value := by
  unfold Coordinator.read Coordinator.node
  cases c.devices.find? target.device with
  | none => simp [Except.map]
  | some node => simp [Except.map, eq_comm]

theorem kind_read {c : Coordinator ρ σ} {capability : Capability}
    (h : c.read target capability = .ok (some v)) : v.kind = capability.kind := by
  obtain ⟨node, -, hvalue⟩ := read_eq_ok_iff.1 h
  obtain ⟨w, hstored, rfl⟩ := Option.map_eq_some_iff.1 hvalue.symm
  obtain ⟨a, -, hread⟩ := Option.bind_eq_some_iff.1 hstored
  exact c.corrections.kind_correct .inbound node.manufacturer node.model
    (Capability.kind_ofAttribute hread)

/-- What is read, and what those are told who ask for it. -/
structure WellKinded (c : Coordinator ρ σ) : Prop where
  read : ∀ target capability v, c.read target capability = .ok (some v) → v.kind = capability.kind
  /-- Where there is a reading, there is an answer. -/
  measured : ∀ target (r : Reading) v, c.read target r.capability = .ok (some v) →
    ∃ m, c.measure target r = .ok (some m) ∧ r.ofValue v = some m ∧ m.kind = r.capability.kind
  /-- There is no answer only where there is no reading. -/
  unmeasured : ∀ target (r : Reading),
    c.measure target r = .ok none ↔ c.read target r.capability = .ok none

/-- Whatever a coordinator knows of its devices and whatever its corrections, readings are of the
kind of their capability. -/
theorem wellKinded (c : Coordinator ρ σ) : WellKinded c := by
  have hmeasured (target : Target) (r : Reading) (v : CapabilityValue)
      (hread : c.read target r.capability = .ok (some v)) :
      ∃ m, c.measure target r = .ok (some m) ∧ r.ofValue v = some m ∧
        m.kind = r.capability.kind := by
    obtain ⟨m, hm, hkind⟩ := Reading.exists_ofValue (kind_read hread)
    refine ⟨m, ?_, hm, hkind⟩
    rw [measure, hread]
    exact congrArg Except.ok hm
  refine ⟨fun target capability v hread ↦ kind_read hread, hmeasured, ?_⟩
  intro target r
  constructor
  · intro hnone
    cases hread : c.read target r.capability with
    | error f =>
      rw [measure, hread] at hnone
      cases hnone
    | ok value =>
      cases value with
      | none => rfl
      | some v =>
        obtain ⟨m, hm, -⟩ := hmeasured target r v hread
        cases hnone.symm.trans hm
  · intro hnone
    rw [measure, hnone]
    rfl

end Coordinator

end MeshBridge
