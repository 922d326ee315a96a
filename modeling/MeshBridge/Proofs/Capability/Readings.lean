import MeshBridge.Capability.Basic
import Mathlib.Tactic.SplitIfs
/-!
What attribute values say of capabilities. An attribute backs at most one capability
(`ofAttributeId?_eq_some_iff`), and a value of that attribute says something of the capability just
if it has a number in it, or a truth value where the capability is one, and is not the number by
which the capability is reported as not measured (`isSome_ofAttribute_iff`).
-/

set_option autoImplicit false
set_option relaxedAutoImplicit false

namespace MeshBridge.Capability

/-- An attribute backs the one capability that is bound to it. -/
theorem ofAttributeId?_eq_some_iff {cluster attr : UInt16} {c : Capability} :
    ofAttributeId? cluster attr = some c ↔ cluster = c.cluster ∧ attr = c.attr := by
  constructor
  · intro hfind
    have hbound := List.find?_some hfind
    rw [decide_eq_true_eq] at hbound
    exact ⟨hbound.1.symm, hbound.2.symm⟩
  · rintro ⟨rfl, rfl⟩
    cases c <;> decide

/-- Capabilities are told apart by their attributes. -/
theorem eq_of_attr {c other : Capability} (hcluster : c.cluster = other.cluster)
    (hattr : c.attr = other.attr) : c = other := by
  have hself := ofAttributeId?_eq_some_iff.2 ⟨Eq.refl c.cluster, Eq.refl c.attr⟩
  have hother := ofAttributeId?_eq_some_iff.2 ⟨hcluster, hattr⟩
  exact Option.some_inj.1 (hself.symm.trans hother)

/-- The value that stands for "no measurement". -/
def invalid? : Capability → Option AttributeValue
  | temperature => some (.i16 Int16.minValue)
  | humidity => some (.u16 0xFFFF)
  | battery => some (.u8 0xFF)
  | _ => none

/-- Whether a value says something of a capability: it has the kind for it, and is no value that
stands for "no measurement". -/
def Readable (c : Capability) (v : AttributeValue) : Prop :=
  c.invalid? ≠ some v ∧ (v.int?.isSome ∨ c.kind = .bool ∧ v.bool?.isSome)

instance (c : Capability) (v : AttributeValue) : Decidable (c.Readable v) :=
  inferInstanceAs (Decidable (_ ∧ _))

/-- Exactly the readable values are read. -/
theorem isSome_ofAttribute_iff (c : Capability) (v : AttributeValue) :
    (c.ofAttribute v).isSome ↔ c.Readable v := by
  have hmeasured {invalid : AttributeValue} {f : Int → CapabilityValue} :
      (if v = invalid then none else v.int?.map f).isSome ↔
        some invalid ≠ some v ∧ v.int?.isSome := by
    split_ifs with hinvalid
    · simp [hinvalid]
    · simp [Ne.symm hinvalid]
  have htruth {f : Int → Bool} :
      ((v.bool?.or (v.int?.map f)).map CapabilityValue.bool).isSome ↔
        v.int?.isSome ∨ v.bool?.isSome := by
    simp [or_comm]
  cases c with
  | onOff | occupancy =>
    rw [ofAttribute, htruth]
    simp [Readable, invalid?, kind]
  | temperature | humidity | battery =>
    rw [ofAttribute, hmeasured]
    simp [Readable, invalid?, kind]
  | _ => simp [ofAttribute, Readable, invalid?, kind]

theorem ofAttribute_eq_none_iff (c : Capability) (v : AttributeValue) :
    c.ofAttribute v = none ↔ ¬ c.Readable v := by
  rw [← isSome_ofAttribute_iff, Option.not_isSome_iff_eq_none]

end MeshBridge.Capability
