import MeshBridge.Correction.Table
/-!
What the evaluation of corrections makes of a value. The actions of an entry are folded over a
result; all that a step does is said once (`Action.step_eq`), and what the whole entry does follows
by induction on its actions. A reported value is dropped just if the first entry for its
device has an action that drops what is reported of its capability, whatever else the entry does
and in whatever order (`correctReport_ignored_iff`). Whichever way a value goes, what it becomes is
a fold over values alone (`Entry.value_correct`), and it is written to what the last action that
remaps its capability names (`Entry.target_correct`).
-/

set_option autoImplicit false
set_option relaxedAutoImplicit false

namespace MeshBridge

namespace Correction

/-- What an action makes of a value, whichever way it goes. -/
def Action.revise (c : Capability) (value : CapabilityValue) : Action → CapabilityValue
  | clampRange _ low high => (clamp low high value).getD value
  | invertBoolean _ enabled =>
    match value with
    | .bool b => .bool (b ^^ enabled)
    | number => number
  | scaleNumeric _ multiplier offset => (scale c.kind multiplier offset value).getD value
  | _ => value

/-- The capability that an action has values written to. -/
def Action.other? : Action → Option Capability
  | remapAttribute _ other => some other
  | _ => none

/-- The reporting that an action has a device use. -/
def Action.reporting? : Action → Option Reporting
  | overrideReporting _ reporting => some reporting
  | _ => none

/-- Whether an action drops what is reported. -/
def Action.drops : Action → Bool
  | ignoreSpurious _ => true
  | _ => false

/-- Whether an action has an effect: clamping and scaling have one on numbers, an inversion on truth
values, and what drops reports has none on commands. -/
def Action.affects (direction : Direction) (value : CapabilityValue) : Action → Bool
  | clampRange .. | scaleNumeric .. => value.float?.isSome
  | invertBoolean _ enabled => enabled && value.bool?.isSome
  | remapAttribute .. | overrideReporting .. => true
  | ignoreSpurious _ => direction = .inbound

variable {direction : Direction} {c : Capability}

/-- All that a step does. -/
theorem Action.step_eq (direction : Direction) (c : Capability) (r : Corrected) (a : Action) :
    a.step direction c r =
      { matched := r.matched
        applied := r.applied + (a.affects direction r.value).toNat
        value := a.revise c r.value
        target := a.other?.getD r.target
        reporting := a.reporting?.or r.reporting
        ignored := r.ignored || (a.drops && a.affects direction r.value) } := by
  obtain ⟨matched, applied, value, target, reporting, ignored⟩ := r
  cases a with
  | clampRange | scaleNumeric => cases value <;> simp [step, apply, revise, other?, reporting?,
      drops, affects, clamp, scale, CapabilityValue.float?]
  | invertBoolean target enabled => cases value <;> cases enabled <;> simp [step, apply, revise,
      other?, reporting?, drops, affects, CapabilityValue.bool?]
  | remapAttribute | overrideReporting => simp [step, apply, revise, other?, reporting?, drops,
      affects]
  | ignoreSpurious => cases direction <;> simp [step, apply, revise, other?, reporting?, drops,
      affects]

theorem Action.drops_iff {a : Action} : a.drops = true ↔ a = .ignoreSpurious a.target := by
  cases a <;> simp [drops, target]

/-- A reported value is marked as dropped by the actions that are there for that. -/
theorem Action.ignored_step (c : Capability) (r : Corrected) (a : Action) :
    (a.step .inbound c r).ignored = (r.ignored || a.drops) := by
  rw [step_eq]
  cases a <;> simp [drops, affects]

/-- Once a value is marked it stays so, and one action of the kind is enough. -/
theorem foldl_step_ignored (c : Capability) (actions : List Action) (r : Corrected) :
    (actions.foldl (Action.step .inbound c) r).ignored = true ↔
      r.ignored = true ∨ ∃ a ∈ actions, a = .ignoreSpurious a.target := by
  induction actions generalizing r with
  | nil => simp
  | cons a rest ih =>
    rw [List.foldl_cons, ih, Action.ignored_step, Bool.or_eq_true, Action.drops_iff, or_assoc]
    simp only [List.mem_cons, exists_eq_or_imp]

/-! ### Values and where they are written to -/

/-- Values are revised by one action after the other. -/
theorem value_foldl_step (actions : List Action) (r : Corrected) :
    (actions.foldl (Action.step direction c) r).value =
      actions.foldl (Action.revise c) r.value := by
  induction actions generalizing r with
  | nil => rfl
  | cons a rest ih => rw [List.foldl_cons, ih, Action.step_eq, List.foldl_cons]

/-- The last action that names a capability decides. -/
theorem target_foldl_step (actions : List Action) (r : Corrected) :
    (actions.foldl (Action.step direction c) r).target =
      (actions.reverse.findSome? Action.other?).getD r.target := by
  induction actions generalizing r with
  | nil => rfl
  | cons a rest ih =>
    rw [List.foldl_cons, ih, Action.step_eq, List.reverse_cons, List.findSome?_append]
    cases rest.reverse.findSome? Action.other? with
    | some other => rfl
    | none => cases h : a.other? <;> simp [h]

namespace Entry

/-- The capability that values of another one are written to: the one that the last action which
remaps it names, and itself if there is none. -/
def destination (e : Entry) (c : Capability) : Capability :=
  ((e.actionsOn c).reverse.findSome? Action.other?).getD c

theorem value_correct (e : Entry) (direction : Direction) (c : Capability)
    (value : CapabilityValue) :
    (e.correct direction c value).value = (e.actionsOn c).foldl (Action.revise c) value :=
  value_foldl_step (e.actionsOn c) _

theorem target_correct (e : Entry) (direction : Direction) (c : Capability)
    (value : CapabilityValue) : (e.correct direction c value).target = e.destination c :=
  target_foldl_step (e.actionsOn c) _

theorem mem_actionsOn {e : Entry} {c : Capability} {a : Action} :
    a ∈ e.actionsOn c ↔ a ∈ e.actions ∧ a.target = c := by
  rw [actionsOn, List.mem_filter, decide_eq_true_eq]

/-- Values are written to themselves or to what one of the actions names. -/
theorem destination_cases (e : Entry) (c : Capability) :
    e.destination c = c ∨ .remapAttribute c (e.destination c) ∈ e.actions := by
  unfold destination
  cases hlast : (e.actionsOn c).reverse.findSome? Action.other? with
  | none => exact Or.inl rfl
  | some other =>
    obtain ⟨a, ha, hother⟩ := List.exists_of_findSome?_eq_some hlast
    obtain ⟨hactions, htarget⟩ := mem_actionsOn.1 (List.mem_reverse.1 ha)
    cases a with
    | remapAttribute target named =>
      cases hother
      cases htarget
      exact Or.inr hactions
    | _ => cases hother

/-- An entry drops what is reported of a capability just if one of its actions says so. -/
theorem correct_ignored_iff (e : Entry) (c : Capability) (value : CapabilityValue) :
    (e.correct .inbound c value).ignored = true ↔ .ignoreSpurious c ∈ e.actions := by
  rw [correct, foldl_step_ignored]
  constructor
  · rintro (hmarked | ⟨a, ha, hdrops⟩)
    · cases hmarked
    · obtain ⟨hactions, htarget⟩ := mem_actionsOn.1 ha
      rw [hdrops, htarget] at hactions
      exact hactions
  · intro hdrops
    exact Or.inr ⟨_, mem_actionsOn.2 ⟨hdrops, rfl⟩, rfl⟩

end Entry

end Correction

namespace CorrectionTable

open Correction

variable (t : CorrectionTable) (direction : Direction) (manufacturer model : String)
  (c : Capability) (value : CapabilityValue)

/-- Values are written to where the entry for the device has them written to. -/
theorem target_eq_elim : (t.correct direction manufacturer model c value).target =
    (t.find? manufacturer model).elim c (·.destination c) := by
  unfold correct
  split
  · next e hfind => rw [hfind, e.target_correct, Option.elim_some]
  · next hfind =>
    rw [hfind]
    rfl

/-- Values become what the actions of the entry for the device make of them, one after the other. -/
theorem value_eq_elim : (t.correct direction manufacturer model c value).value =
    (t.find? manufacturer model).elim value
      fun e ↦ (e.actionsOn c).foldl (Action.revise c) value := by
  unfold correct
  split
  · next e hfind => rw [hfind, e.value_correct, Option.elim_some]
  · next hfind =>
    rw [hfind]
    rfl

end CorrectionTable

/-- What is reported of a capability is dropped just if the first entry for the device says so. -/
theorem CorrectionTable.correctReport_ignored_iff (t : CorrectionTable)
    (manufacturer model : String) (c : Capability) (value : CapabilityValue) :
    (t.correctReport manufacturer model c value).ignored = true ↔
      ∃ e, t.find? manufacturer model = some e ∧ .ignoreSpurious c ∈ e.actions := by
  unfold correctReport correct
  cases t.find? manufacturer model with
  | none => simp [Correction.Corrected.unchanged]
  | some e => simp [Correction.Entry.correct_ignored_iff]

end MeshBridge
