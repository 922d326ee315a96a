import MeshBridge.Proofs.Correction.Evaluation
import Mathlib.Data.Nat.Bits
import Mathlib.Tactic.SplitIfs
/-!
What corrections make of truth values. Clamping and scaling leave them alone, and so does all that
is said of reporting; only an inversion that is enabled turns them around. So an entry turns a truth
value around just if the number of its enabled inversions is odd, in whatever order its actions
stand and whichever way the value goes (`CorrectionTable.value_correct_bool`), and what is corrected
on its way out and on its way in again is what it was.
-/

set_option autoImplicit false
set_option relaxedAutoImplicit false

namespace MeshBridge

namespace Correction

/-- Whether an action turns truth values around. -/
def Action.inverts : Action → Bool
  | invertBoolean _ enabled => enabled
  | _ => false

/-- Turns a truth value around just if the action does. -/
theorem Action.revise_bool (a : Action) (c : Capability) (b : Bool) :
    a.revise c (.bool b) = .bool (b ^^ a.inverts) := by
  cases a <;> simp [revise, inverts, clamp, scale, CapabilityValue.float?]

/-- A truth value is turned around once for every action that does so. -/
theorem foldl_revise_bool (actions : List Action) (c : Capability) (b : Bool) :
    actions.foldl (Action.revise c) (.bool b) =
      .bool (b ^^ (actions.countP Action.inverts).bodd) := by
  induction actions generalizing b with
  | nil => simp
  | cons a rest ih =>
    rw [List.foldl_cons, Action.revise_bool, ih, Bool.xor_assoc, List.countP_cons, Nat.bodd_add,
      Bool.xor_comm a.inverts]
    cases a.inverts <;> rfl

namespace Entry

/-- Whether an entry turns the truth values of a capability around: an odd number of its actions on
it does. -/
def inverts (e : Entry) (c : Capability) : Bool :=
  ((e.actionsOn c).countP Action.inverts).bodd

/-- Whichever way a truth value goes, it is turned around or not by the same rule. -/
theorem value_correct_bool (e : Entry) (direction : Direction) (c : Capability) (b : Bool) :
    (e.correct direction c (.bool b)).value = .bool (b ^^ e.inverts c) := by
  rw [value_correct, foldl_revise_bool, inverts]

end Entry

end Correction

namespace CorrectionTable

open Correction

/-- Whether the entry for a device turns the truth values of a capability around. -/
def inverts (t : CorrectionTable) (manufacturer model : String) (c : Capability) : Bool :=
  (t.find? manufacturer model).any (·.inverts c)

theorem value_correct_bool (t : CorrectionTable) (direction : Direction)
    (manufacturer model : String) (c : Capability) (b : Bool) :
    (t.correct direction manufacturer model c (.bool b)).value =
      .bool (b ^^ t.inverts manufacturer model c) := by
  rw [t.value_eq_elim, inverts]
  cases t.find? manufacturer model with
  | none => simp
  | some e => exact foldl_revise_bool (e.actionsOn c) c b

/-- Assumes: the entry for the device writes values of the capability to no other one. -/
theorem target_correct {t : CorrectionTable} {manufacturer model : String} {c : Capability}
    (h : ∀ e, t.find? manufacturer model = some e →
      ∀ other, .remapAttribute c other ∈ e.actions → other = c)
    (direction : Direction) (value : CapabilityValue) :
    (t.correct direction manufacturer model c value).target = c := by
  rw [t.target_eq_elim]
  cases hfind : t.find? manufacturer model with
  | none => rfl
  | some e =>
    rcases e.destination_cases c with hsame | hremap
    · exact hsame
    · exact h e hfind _ hremap

end CorrectionTable

end MeshBridge
