import MeshBridge.Proofs.Capability.Kinds
/-!
Clamps that hold. An entry may scale and clamp the values of a capability in any order, but once a
clamp is the last of these, integers end up in its range: before it they stay integers, whatever is
done to them, and nothing after it changes them (`Entry.Confines.value`). Values of other
capabilities do not pass that clamp, so the entry must not have them written there
(`Entry.Confines.destination_ne`).
-/

set_option autoImplicit false
set_option relaxedAutoImplicit false

namespace MeshBridge.Correction

variable {c : Capability} {low high : Int32}

theorem toInt_max (a b : Int64) : (max a b).toInt = max a.toInt b.toInt := by
  show (if a ≤ b then b else a).toInt = _
  simp only [Int64.le_iff_toInt_le]
  split <;> omega

theorem toInt_min (a b : Int64) : (min a b).toInt = min a.toInt b.toInt := by
  show (if a ≤ b then a else b).toInt = _
  simp only [Int64.le_iff_toInt_le]
  split <;> omega

/-- An integer is clamped into the range. -/
theorem clamp_int (hrange : low ≤ high) (n : Int64) :
    ∃ k : Int64, clamp low high (.int n) = some (.int k) ∧
      low.toInt ≤ k.toInt ∧ k.toInt ≤ high.toInt := by
  refine ⟨_, rfl, ?_⟩
  have hends := Int32.le_iff_toInt_le.1 hrange
  have hlow := low.toInt_toInt64
  have hhigh := high.toInt_toInt64
  rw [toInt_max, toInt_min]
  omega

/-- Whether an action may change integers. -/
def Action.moves : Action → Bool
  | clampRange .. | scaleNumeric .. => true
  | _ => false

theorem Action.revise_int_of_still {a : Action} (h : a.moves = false) (c : Capability) (n : Int64) :
    a.revise c (.int n) = .int n := by
  cases a with
  | clampRange | scaleNumeric => cases h
  | _ => rfl

theorem foldl_revise_int_of_still {actions : List Action} (h : ∀ a ∈ actions, a.moves = false)
    (c : Capability) (n : Int64) : actions.foldl (Action.revise c) (.int n) = .int n := by
  induction actions with
  | nil => rfl
  | cons a rest ih =>
    obtain ⟨hfirst, hrest⟩ := List.forall_mem_cons.1 h
    rw [List.foldl_cons, Action.revise_int_of_still hfirst, ih hrest]

/-- An entry confines the values of a capability to a range: a clamp is the last action that moves
them, and no other values are written there. -/
structure Entry.Confines (e : Entry) (c : Capability) (low high : Int32) : Prop where
  nonempty : low ≤ high
  last : ∃ before after, e.actions = before ++ .clampRange c low high :: after ∧
    (∀ multiplier offset, .scaleNumeric c multiplier offset ∉ after) ∧
      ∀ low high, .clampRange c low high ∉ after
  alone : ∀ other, .remapAttribute other c ∈ e.actions → other = c

namespace Entry.Confines

variable {e : Entry}

/-- What is left of an entry once the clamp is reached. -/
theorem actionsOn_eq (h : e.Confines c low high) :
    ∃ before after, e.actionsOn c = before ++ .clampRange c low high :: after ∧
      ∀ a ∈ after, a.moves = false := by
  obtain ⟨before, after, hactions, hscale, hclamp⟩ := h.last
  refine ⟨before.filter (·.target = c), after.filter (·.target = c), ?_, ?_⟩
  · rw [actionsOn, hactions, List.filter_append, List.filter_cons_of_pos (by simp [Action.target])]
  · intro a ha
    obtain ⟨hafter, htarget⟩ := List.mem_filter.1 ha
    cases a with
    | clampRange target low high =>
      rw [decide_eq_true_eq] at htarget
      cases htarget
      exact absurd hafter (hclamp low high)
    | scaleNumeric target multiplier offset =>
      rw [decide_eq_true_eq] at htarget
      cases htarget
      exact absurd hafter (hscale multiplier offset)
    | _ => rfl

/-- Integers end up in the range. -/
theorem value (h : e.Confines c low high) (hkind : c.kind = .integer) (direction : Direction)
    (n : Int64) :
    ∃ k : Int64, (e.correct direction c (.int n)).value = .int k ∧
      low.toInt ≤ k.toInt ∧ k.toInt ≤ high.toInt := by
  obtain ⟨before, after, hactions, hstill⟩ := h.actionsOn_eq
  have hreached : (before.foldl (Action.revise c) (.int n)).kind = c.kind :=
    kind_foldl_revise (v := .int n) hkind.symm before
  cases hvalue : before.foldl (Action.revise c) (.int n) with
  | int m =>
    obtain ⟨k, hk, hrange⟩ := clamp_int h.nonempty m
    refine ⟨k, ?_, hrange⟩
    rw [e.value_correct, hactions, List.foldl_append, hvalue, List.foldl_cons, Action.revise, hk,
      Option.getD_some, foldl_revise_int_of_still hstill]
  | bool | float =>
    rw [hvalue, hkind] at hreached
    cases hreached

/-- Nothing else is written there. -/
theorem destination_ne (h : e.Confines c low high) {other : Capability} (hother : other ≠ c) :
    e.destination other ≠ c := by
  intro hdestination
  rcases e.destination_cases other with hsame | hremap
  · exact hother (hsame.symm.trans hdestination)
  · rw [hdestination] at hremap
    exact hother (h.alone other hremap)

end Entry.Confines

end MeshBridge.Correction
