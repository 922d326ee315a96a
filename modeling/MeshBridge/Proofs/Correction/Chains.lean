import MeshBridge.Proofs.Capability.Saturation
import MeshBridge.Proofs.Correction.Clamping
import Mathlib.Data.List.Induction
/-!
Clamps in a row. Where none of the actions on a capability scales its values, integers go through
nothing but clamps, to ranges that may lie apart from each other or be empty, in any order. However
many there are, together they are one clamp (`exists_cuts`), and the field that the number is sent
in is one more. So a number that went through all of them is not changed by going through all of
them again (`saturates_again`).
-/

set_option autoImplicit false
set_option relaxedAutoImplicit false

namespace MeshBridge.Correction

variable {c : Capability} {actions : List Action} {low high : ℤ}

/-- Whether an action scales numbers. -/
def Action.scales : Action → Bool
  | scaleNumeric .. => true
  | _ => false

/-- Actions take each integer to the one in a range that is nearest to it. -/
def Cuts (c : Capability) (actions : List Action) (low high : ℤ) : Prop :=
  ∀ n : Int64, ∃ k : Int64, actions.foldl (Action.revise c) (.int n) = .int k ∧
    k.toInt = max low (min n.toInt high)

/-- One more action makes another range, even if it clamps to an empty one. -/
theorem Cuts.concat (hcuts : Cuts c actions low high) (hrange : low ≤ high) {a : Action}
    (ha : a.scales = false) : ∃ low high, low ≤ high ∧ Cuts c (actions ++ [a]) low high := by
  have hfold (n : Int64) : (actions ++ [a]).foldl (Action.revise c) (.int n) =
      a.revise c (actions.foldl (Action.revise c) (.int n)) := List.foldl_append
  cases a with
  | clampRange target least greatest =>
    refine ⟨max least.toInt (min low greatest.toInt), max least.toInt (min high greatest.toInt),
      by omega, ?_⟩
    intro n
    obtain ⟨k, hk, hvalue⟩ := hcuts n
    have hleast := least.toInt_toInt64
    have hgreatest := greatest.toInt_toInt64
    refine ⟨max least.toInt64 (min k greatest.toInt64), by rw [hfold, hk]; rfl, ?_⟩
    rw [toInt_max, toInt_min, hleast, hgreatest, hvalue]
    omega
  | scaleNumeric => cases ha
  | _ =>
    refine ⟨low, high, hrange, ?_⟩
    intro n
    obtain ⟨k, hk, hvalue⟩ := hcuts n
    exact ⟨k, by rw [hfold, hk]; rfl, hvalue⟩

/-- By induction on the actions from the first to the last, each of which makes another range. -/
theorem exists_cuts (h : ∀ a ∈ actions, a.scales = false) (c : Capability) :
    ∃ low high, low ≤ high ∧ Cuts c actions low high := by
  induction actions using List.reverseRecOn with
  | nil =>
    refine ⟨-2 ^ 63, 2 ^ 63, by decide, ?_⟩
    intro n
    have hleast := n.le_toInt
    have hgreatest := n.toInt_lt
    exact ⟨n, rfl, by omega⟩
  | append_singleton rest a ih =>
    obtain ⟨low, high, hrange, hcuts⟩ := ih fun b hb ↦ h b (List.mem_append_left _ hb)
    exact hcuts.concat hrange (h a (by simp))

/-- A number that was sent for an integer is sent for itself as well. -/
theorem saturates_again (h : ∀ a ∈ actions, a.scales = false) {greatest m m' : Nat}
    (hgreatest : greatest < 2 ^ 63) {n : Int64}
    (hfirst : (actions.foldl (Action.revise c) (.int n)).Saturates greatest m)
    (hsecond : (actions.foldl (Action.revise c) (.int (Int64.ofInt m))).Saturates greatest m') :
    m' = m := by
  obtain ⟨low, high, hrange, hcuts⟩ := exists_cuts h c
  obtain ⟨k, hk, hvalue⟩ := hcuts n
  obtain ⟨k', hk', hvalue'⟩ := hcuts (Int64.ofInt m)
  rw [hk] at hfirst
  rw [hk'] at hsecond
  have hsent : (m : ℤ) = max 0 (min k.toInt greatest) := hfirst
  have hagain : (m' : ℤ) = max 0 (min k'.toInt greatest) := hsecond
  have hsame : (Int64.ofInt m).toInt = m := Int64.toInt_ofInt_of_le (by omega) (by omega)
  omega

end MeshBridge.Correction
