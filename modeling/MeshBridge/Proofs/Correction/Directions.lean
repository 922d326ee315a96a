import MeshBridge.Proofs.Correction.Evaluation
/-!
Reports and commands are corrected alike. The two evaluations fold the same actions and differ in
one step only: an action that drops reports has no effect on a command. So their results differ in
the mark and in the count of effects, each by just these actions (`Entry.correct_inbound`). How a
device is to report is found apart from both, by a search from the last action backwards; it finds
what the folds keep, as in a fold the last word counts as well (`Entry.reporting_correct`).
-/

set_option autoImplicit false
set_option relaxedAutoImplicit false

namespace MeshBridge

namespace Correction

variable {direction : Direction} {c : Capability}

/-! ### Reports beside commands -/

/-- A result that may be marked as dropped, with more effects counted. -/
def Corrected.marked (r : Corrected) (ignored : Bool) (more : Nat) : Corrected :=
  { r with ignored, applied := r.applied + more }

theorem Action.affects_inbound (value : CapabilityValue) (a : Action) :
    (a.affects .inbound value).toNat = (a.affects .outbound value).toNat + a.drops.toNat := by
  cases a <;> simp [affects, drops]

theorem Action.ignored_step_outbound (c : Capability) (r : Corrected) (a : Action) :
    (a.step .outbound c r).ignored = r.ignored := by
  rw [step_eq]
  cases a <;> simp [drops, affects]

/-- What drops reports is the only action that tells reports from commands. -/
theorem Action.step_marked (c : Capability) (r : Corrected) (ignored : Bool) (more : Nat)
    (a : Action) : a.step .inbound c (r.marked ignored more) =
      (a.step .outbound c r).marked (ignored || a.drops) (more + a.drops.toNat) := by
  have hignored := a.ignored_step c (r.marked ignored more)
  have hcount := a.affects_inbound r.value
  rw [step_eq] at hignored ⊢
  rw [step_eq]
  simp only [Corrected.marked, Corrected.mk.injEq, true_and] at hignored ⊢
  exact ⟨by omega, hignored⟩

theorem foldl_step_marked (actions : List Action) (r : Corrected) (ignored : Bool) (more : Nat) :
    actions.foldl (Action.step .inbound c) (r.marked ignored more) =
      (actions.foldl (Action.step .outbound c) r).marked (ignored || actions.any Action.drops)
        (more + actions.countP Action.drops) := by
  induction actions generalizing r ignored more with
  | nil => simp
  | cons a rest ih =>
    have hcount : more + a.drops.toNat + rest.countP Action.drops =
        more + (a :: rest).countP Action.drops := by
      rw [List.countP_cons]
      cases a.drops <;> simp
      omega
    rw [List.foldl_cons, Action.step_marked, ih, List.foldl_cons, List.any_cons, Bool.or_assoc,
      hcount]

theorem ignored_foldl_step_outbound (actions : List Action) (r : Corrected) :
    (actions.foldl (Action.step .outbound c) r).ignored = r.ignored := by
  induction actions generalizing r with
  | nil => rfl
  | cons a rest ih => rw [List.foldl_cons, ih, Action.ignored_step_outbound]

/-! ### The reporting -/

/-- The last action that overrides the reporting decides, in whatever order the others stand. -/
theorem reporting_foldl_step (actions : List Action) (r : Corrected) :
    (actions.foldl (Action.step direction c) r).reporting =
      (actions.reverse.findSome? Action.reporting?).or r.reporting := by
  induction actions generalizing r with
  | nil => rfl
  | cons a rest ih =>
    rw [List.foldl_cons, ih, Action.step_eq, List.reverse_cons, List.findSome?_append,
      Option.or_assoc]
    cases h : a.reporting? <;> simp [h]

namespace Entry

/-- How many actions of an entry drop what is reported of a capability. -/
def drops (e : Entry) (c : Capability) : Nat := e.actions.count (.ignoreSpurious c)

theorem countP_drops_actionsOn (e : Entry) (c : Capability) :
    (e.actionsOn c).countP Action.drops = e.drops c := by
  rw [actionsOn, List.countP_filter, drops, List.count]
  refine List.countP_congr fun a _ ↦ ?_
  cases a with
  | ignoreSpurious target =>
    rw [Action.drops, Bool.true_and, decide_eq_true_eq, beq_iff_eq, Action.ignoreSpurious.injEq]
    rfl
  | _ => simp [Action.drops]

theorem any_drops_actionsOn (e : Entry) (c : Capability) :
    (e.actionsOn c).any Action.drops = decide (0 < e.drops c) := by
  rw [← countP_drops_actionsOn, Bool.eq_iff_iff, List.any_eq_true, decide_eq_true_eq,
    List.countP_pos_iff]

/-- A report is corrected as a command is, but for the mark and the count of what drops it. -/
theorem correct_inbound (e : Entry) (c : Capability) (value : CapabilityValue) :
    e.correct .inbound c value =
      (e.correct .outbound c value).marked (decide (0 < e.drops c)) (e.drops c) := by
  have hfold := foldl_step_marked (c := c) (e.actionsOn c)
    { Corrected.unchanged c value with matched := true } false 0
  rwa [any_drops_actionsOn, countP_drops_actionsOn, Bool.false_or, Nat.zero_add] at hfold

theorem ignored_correct_outbound (e : Entry) (c : Capability) (value : CapabilityValue) :
    (e.correct .outbound c value).ignored = false :=
  ignored_foldl_step_outbound (e.actionsOn c) _

/-- The search passes by the actions on other capabilities, which the folds never see. -/
theorem reporting?_eq (e : Entry) (c : Capability) :
    e.reporting? c = (e.actionsOn c).reverse.findSome? Action.reporting? := by
  rw [actionsOn, ← List.filter_reverse, reporting?, ← List.head?_filterMap, ← List.head?_filterMap,
    List.filterMap_filter]
  congr 2
  funext a
  cases a with
  | overrideReporting target reporting =>
    by_cases htarget : target = c <;> simp [Action.target, Action.reporting?, htarget]
  | _ => simp [Action.reporting?]

theorem reporting_correct (e : Entry) (direction : Direction) (c : Capability)
    (value : CapabilityValue) : (e.correct direction c value).reporting = e.reporting? c := by
  rw [correct, reporting_foldl_step, reporting?_eq]
  exact Option.or_none

end Entry

end Correction

namespace CorrectionTable

open Correction

/-- How often the entry for a device drops what is reported of a capability. -/
def drops (t : CorrectionTable) (manufacturer model : String) (c : Capability) : Nat :=
  (t.find? manufacturer model).elim 0 (·.drops c)

/-- What the evaluations of a table for a device have in common, and all that sets them apart. -/
structure Agrees (t : CorrectionTable) (manufacturer model : String) (c : Capability)
    (value : CapabilityValue) : Prop where
  /-- A report becomes what a command becomes, is meant for the same capability and has the same
  reporting. It may be dropped, and what drops it is counted. -/
  report : t.correctReport manufacturer model c value =
    { t.correctCommand manufacturer model c value with
      ignored := (t.correctReport manufacturer model c value).ignored
      applied := (t.correctCommand manufacturer model c value).applied +
        t.drops manufacturer model c }
  /-- Reports are dropped just if the entry for the device says so. -/
  ignored_iff : (t.correctReport manufacturer model c value).ignored = true ↔
    ∃ e, t.find? manufacturer model = some e ∧ .ignoreSpurious c ∈ e.actions
  /-- Commands never are. -/
  kept : (t.correctCommand manufacturer model c value).ignored = false
  /-- The reporting that is found apart is the one that either evaluation finds. -/
  reporting : ∀ direction,
    (t.correct direction manufacturer model c value).reporting = t.reporting? manufacturer model c

/-- Whatever the table, the device, the capability and the value: the evaluations agree. -/
theorem agrees (t : CorrectionTable) (manufacturer model : String) (c : Capability)
    (value : CapabilityValue) : t.Agrees manufacturer model c value := by
  have hignored := t.correctReport_ignored_iff manufacturer model c value
  cases hfind : t.find? manufacturer model with
  | none =>
    have hplain (direction : Direction) :
        t.correct direction manufacturer model c value = .unchanged c value := by
      rw [correct, hfind]
    refine ⟨?_, hignored, ?_, ?_⟩
    · rw [correctReport, correctCommand, hplain, hplain, drops, hfind]
      rfl
    · rw [correctCommand, hplain]
      rfl
    · intro direction
      rw [hplain, reporting?, hfind]
      rfl
  | some e =>
    have hentry (direction : Direction) :
        t.correct direction manufacturer model c value = e.correct direction c value := by
      rw [correct, hfind]
    refine ⟨?_, hignored, ?_, ?_⟩
    · rw [correctReport, correctCommand, hentry, hentry, drops, hfind, Option.elim_some,
        e.correct_inbound]
      rfl
    · rw [correctCommand, hentry]
      exact e.ignored_correct_outbound c value
    · intro direction
      rw [hentry, e.reporting_correct, reporting?, hfind, Option.bind_some]

end CorrectionTable

end MeshBridge
