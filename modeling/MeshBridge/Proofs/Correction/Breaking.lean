import MeshBridge.Proofs.Correction.Evaluation
import MeshBridge.Proofs.Decimal.Whole
/-!
Evaluation that may break off. Clamping a number asks for bounds that are in order; with others
there is no number to give, and the evaluation ends there without a result. This happens just if the
value is a number and one of the actions clamps it to an empty range, whatever the others do before
(`Entry.correct?_eq`): no action makes a truth value of a number or a number of a truth value, and
bounds that are in order as integers are in order as floating-point numbers too (`bounded_iff`).
-/

set_option autoImplicit false
set_option relaxedAutoImplicit false

namespace MeshBridge

namespace Correction

variable {direction : Direction} {c : Capability} {low high : Int32} {value : CapabilityValue}

/-- What a clamp asks for: bounds that are in order, as numbers of the sort that it clamps. -/
def Bounded (low high : Int32) : CapabilityValue → Prop
  | .bool _ => True
  | .int _ => low.toInt64 ≤ high.toInt64
  | .float _ => Float.ofInt low.toInt ≤ Float.ofInt high.toInt

instance : (value : CapabilityValue) → Decidable (Bounded low high value)
  | .bool _ => inferInstanceAs (Decidable True)
  | .int _ => inferInstanceAs (Decidable (low.toInt64 ≤ high.toInt64))
  | .float _ => inferInstanceAs (Decidable (Float.ofInt low.toInt ≤ Float.ofInt high.toInt))

theorem isWhole_ofInt_toInt (n : Int32) : IsWhole (Float.ofInt n.toInt) n.toInt := by
  have hlow := n.le_toInt
  have hhigh := n.toInt_lt
  exact IsWhole.ofInt (by omega)

/-- Numbers of either sort are clamped to any range that is not empty. -/
theorem bounded_iff : Bounded low high value ↔ (value.float?.isSome → low ≤ high) := by
  cases value with
  | bool b => simp [Bounded, CapabilityValue.float?]
  | int n => simp [Bounded, CapabilityValue.float?, Int64.le_iff_toInt_le, Int32.le_iff_toInt_le]
  | float x =>
    rw [Bounded, (isWhole_ofInt_toInt low).le_iff (isWhole_ofInt_toInt high),
      Int32.le_iff_toInt_le]
    simp [CapabilityValue.float?]

namespace Action

/-- Whether an action clamps to an empty range. -/
def isEmptyClamp : Action → Bool
  | clampRange _ low high => high < low
  | _ => false

/-- A step, unless its clamp breaks off. -/
def step? (direction : Direction) (c : Capability) (r : Corrected) (a : Action) :
    Option Corrected :=
  match a with
  | clampRange _ low high =>
    if Bounded low high r.value then some (a.step direction c r) else none
  | _ => some (a.step direction c r)

theorem step?_eq (r : Corrected) (a : Action) : a.step? direction c r =
    if r.value.float?.isSome && a.isEmptyClamp then none else some (a.step direction c r) := by
  cases a with
  | clampRange target low high =>
    have hempty : Bounded low high r.value ↔
        ¬ ((r.value.float?.isSome && (clampRange target low high).isEmptyClamp) = true) := by
      rw [bounded_iff, isEmptyClamp, Bool.and_eq_true, decide_eq_true_iff, not_and, Int32.not_lt]
    rw [step?]
    simp only [hempty, ite_not]
  | _ => simp [step?, isEmptyClamp]

/-- Numbers stay numbers, and truth values truth values. -/
theorem isSome_float?_revise (c : Capability) (value : CapabilityValue) (a : Action) :
    (a.revise c value).float?.isSome = value.float?.isSome := by
  have hinteger (n : Int64) : (CapabilityValue.int n).float?.isSome = true := rfl
  have hfraction (x : Float) : (CapabilityValue.float x).float?.isSome = true := rfl
  have hscaled (multiplier offset x : Float) (hx : value.float? = some x) :
      ((scale c.kind multiplier offset value).getD value).float?.isSome = true := by
    rw [scale, hx]
    cases c.kind with
    | integer => exact hinteger _
    | bool | float => exact hfraction _
  cases a with
  | clampRange target low high =>
    cases value with
    | bool b => rfl
    | int n => exact (hinteger _).trans (hinteger n).symm
    | float x => exact (hfraction _).trans (hfraction x).symm
  | scaleNumeric target multiplier offset =>
    cases value with
    | bool b => rfl
    | int n => exact (hscaled _ _ _ rfl).trans (hinteger n).symm
    | float x => exact (hscaled _ _ _ rfl).trans (hfraction x).symm
  | invertBoolean => cases value <;> rfl
  | _ => rfl

end Action

/-- By induction on the actions, of which the first that breaks off decides. -/
theorem foldlM_step?_eq (actions : List Action) (r : Corrected) :
    actions.foldlM (Action.step? direction c) r =
      if r.value.float?.isSome && actions.any Action.isEmptyClamp then none
      else some (actions.foldl (Action.step direction c) r) := by
  induction actions generalizing r with
  | nil => simp
  | cons a rest ih =>
    have hnumber : (a.step direction c r).value.float?.isSome = r.value.float?.isSome := by
      rw [Action.step_eq]
      exact a.isSome_float?_revise c r.value
    rw [List.foldlM_cons, Action.step?_eq, List.any_cons, List.foldl_cons]
    cases hvalue : r.value.float?.isSome <;> cases hempty : a.isEmptyClamp <;>
      simp [ih, hnumber, hvalue]

namespace Entry

/-- A correction, unless one of its clamps breaks off. -/
def correct? (e : Entry) (direction : Direction) (c : Capability) (value : CapabilityValue) :
    Option Corrected :=
  (e.actionsOn c).foldlM (Action.step? direction c)
    { Corrected.unchanged c value with matched := true }

theorem correct?_eq (e : Entry) (direction : Direction) (c : Capability)
    (value : CapabilityValue) : e.correct? direction c value =
      if value.float?.isSome && (e.actionsOn c).any Action.isEmptyClamp then none
      else some (e.correct direction c value) :=
  foldlM_step?_eq (e.actionsOn c) _

/-- A correction breaks off just if a number is to be clamped to an empty range. -/
theorem correct?_eq_none_iff (e : Entry) (direction : Direction) (c : Capability)
    (value : CapabilityValue) : e.correct? direction c value = none ↔
      value.float?.isSome ∧ ∃ low high, .clampRange c low high ∈ e.actions ∧ high < low := by
  have hempty : (e.actionsOn c).any Action.isEmptyClamp = true ↔
      ∃ low high, .clampRange c low high ∈ e.actions ∧ high < low := by
    rw [List.any_eq_true]
    constructor
    · rintro ⟨a, ha, hclamp⟩
      obtain ⟨hactions, htarget⟩ := mem_actionsOn.1 ha
      cases a with
      | clampRange target low high =>
        cases htarget
        exact ⟨low, high, hactions, of_decide_eq_true hclamp⟩
      | _ => cases hclamp
    · rintro ⟨low, high, hactions, hless⟩
      exact ⟨_, mem_actionsOn.2 ⟨hactions, rfl⟩, decide_eq_true hless⟩
  rw [correct?_eq, ← hempty, ← Bool.and_eq_true]
  split_ifs with hbreaks <;> simp [hbreaks]

/-- Where no range is empty, a correction gives what it gives. -/
theorem correct?_eq_some {e : Entry}
    (h : ∀ low high, .clampRange c low high ∈ e.actions → low ≤ high) (direction : Direction)
    (value : CapabilityValue) :
    e.correct? direction c value = some (e.correct direction c value) := by
  have hwhole : e.correct? direction c value ≠ none := by
    intro hbreaks
    obtain ⟨-, low, high, hclamp, hempty⟩ := (e.correct?_eq_none_iff direction c value).1 hbreaks
    exact absurd (h low high hclamp) (Int32.not_le.2 hempty)
  rw [correct?_eq] at hwhole ⊢
  split_ifs at hwhole ⊢
  · exact absurd rfl hwhole
  · rfl

end Entry

end Correction

namespace CorrectionTable

open Correction

/-- A correction by the entry for a device, unless one of its clamps breaks off. -/
def correct? (t : CorrectionTable) (direction : Direction) (manufacturer model : String)
    (c : Capability) (value : CapabilityValue) : Option Corrected :=
  match t.find? manufacturer model with
  | some e => e.correct? direction c value
  | none => some (.unchanged c value)

end CorrectionTable

end MeshBridge
