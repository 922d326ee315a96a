import MeshBridge.Proofs.Correction.Admission
import MeshBridge.Proofs.Correction.Directions
/-!
How a device is to report when its entry overrides the default. The last override of a capability
counts (`Entry.reporting?_eq_some_iff`). Registration checks the bounds of clamps but not those of
intervals. So an interval that is answered has its bounds in order if all that were registered have
(`orderly_of_madeBy`), and nothing else sees to it.
-/

set_option autoImplicit false
set_option relaxedAutoImplicit false

namespace MeshBridge

/-- The bounds of the interval are in order, so that a device can keep to both. -/
def Reporting.Ordered (r : Reporting) : Prop := r.minInterval ≤ r.maxInterval

instance : DecidablePred Reporting.Ordered := fun r ↦
  inferInstanceAs (Decidable (r.minInterval ≤ r.maxInterval))

theorem Capability.ordered_defaultReporting (c : Capability) : c.defaultReporting.Ordered := by
  cases c <;> decide

namespace Correction

variable {e : Entry} {c : Capability} {r : Reporting}

/-! ### The override that counts -/

namespace Entry

/-- The last override of a capability counts. -/
theorem reporting?_eq_some_iff : e.reporting? c = some r ↔ ∃ before later,
    e.actions = before ++ .overrideReporting c r :: later ∧
      ∀ other, .overrideReporting c other ∉ later := by
  rw [reporting?, List.findSome?_eq_some_iff]
  constructor
  · rintro ⟨later, a, before, hactions, hsets, hlast⟩
    refine ⟨before.reverse, later.reverse, ?_, ?_⟩
    · have hsplit := congrArg List.reverse hactions
      cases a with
      | overrideReporting target reporting =>
        obtain ⟨rfl, hreporting⟩ := Option.ite_none_right_eq_some.1 hsets
        cases hreporting
        simpa using hsplit
      | _ => cases hsets
    · intro other hother
      simpa using hlast _ (List.mem_reverse.1 hother)
  · rintro ⟨before, later, hactions, hlast⟩
    refine ⟨later.reverse, .overrideReporting c r, before.reverse, ?_, by simp, ?_⟩
    · rw [hactions]
      simp
    · intro a ha
      cases a with
      | overrideReporting target other =>
        apply if_neg
        rintro rfl
        exact hlast other (List.mem_reverse.1 ha)
      | _ => rfl

theorem reporting?_eq_none_iff :
    e.reporting? c = none ↔ ∀ r, .overrideReporting c r ∉ e.actions := by
  rw [reporting?, List.findSome?_eq_none_iff]
  constructor
  · intro hnone r hmem
    simpa using hnone _ (List.mem_reverse.2 hmem)
  · intro hnone a ha
    cases a with
    | overrideReporting target r =>
      apply if_neg
      rintro rfl
      exact hnone r (List.mem_reverse.1 ha)
    | _ => rfl

/-- Whether all intervals that an entry sets have their bounds in order. -/
def Orderly (e : Entry) : Prop := ∀ a ∈ e.actions, ∀ r ∈ a.reporting?, r.Ordered

instance : DecidablePred Orderly := fun e ↦
  inferInstanceAs (Decidable (∀ a ∈ e.actions, ∀ r ∈ a.reporting?, r.Ordered))

theorem Orderly.ordered (h : e.Orderly) (hreporting : e.reporting? c = some r) : r.Ordered := by
  obtain ⟨before, later, hactions, -⟩ := reporting?_eq_some_iff.1 hreporting
  refine h (.overrideReporting c r) ?_ r rfl
  rw [hactions]
  exact List.mem_append_right _ List.mem_cons_self

end Entry

end Correction

namespace CorrectionTable

open Correction

variable {t : CorrectionTable} {r : Reporting}

/-! ### Tables with all intervals in order -/

/-- All intervals that a table sets have their bounds in order. -/
def Orderly (t : CorrectionTable) : Prop := ∀ e ∈ t.entries, e.Orderly

theorem orderly_empty : empty.Orderly := nofun

theorem orderly_builtin : builtin.Orderly := by
  unfold Orderly
  decide

theorem Orderly.ordered (h : t.Orderly) {manufacturer model : String} {c : Capability}
    (hreporting : t.reporting? manufacturer model c = some r) : r.Ordered := by
  obtain ⟨e, hfind, hreporting⟩ := Option.bind_eq_some_iff.1 hreporting
  exact (h e (List.mem_of_find?_eq_some hfind)).ordered hreporting

theorem Orderly.after (h : t.Orderly) {registration : Registration}
    (hoffers : ∀ e, .ok e ∈ registration.offers → e.Orderly) : (t.after registration).Orderly := by
  intro e he
  rw [after_eq] at he
  rcases List.mem_append.1 he with hearlier | hadmitted
  · exact h e hearlier
  · exact hoffers e (of_mem_admitted hadmitted).1

/-- By induction on the registrations. -/
theorem Orderly.afterAll (h : t.Orderly) (registrations : List Registration)
    (hoffers : ∀ r ∈ registrations, ∀ e, .ok e ∈ r.offers → e.Orderly) :
    (registrations.foldl CorrectionTable.after t).Orderly := by
  induction registrations generalizing t with
  | nil => exact h
  | cons r rest ih =>
    have hfirst := h.after (hoffers r List.mem_cons_self)
    exact ih hfirst fun later hlater ↦ hoffers later (List.mem_cons_of_mem _ hlater)

/-- A table comes of registrations, whether it began empty or with the known devices. -/
def MadeBy (t : CorrectionTable) (registrations : List Registration) : Prop :=
  t = registrations.foldl CorrectionTable.after empty ∨
    t = registrations.foldl CorrectionTable.after builtin

/-- As long as nothing is registered that has bounds out of order, a table sets no such interval. -/
theorem orderly_of_madeBy {registrations : List Registration} (h : t.MadeBy registrations)
    (hoffers : ∀ r ∈ registrations, ∀ e, .ok e ∈ r.offers → e.Orderly) : t.Orderly := by
  rcases h with rfl | rfl
  · exact orderly_empty.afterAll registrations hoffers
  · exact orderly_builtin.afterAll registrations hoffers

end CorrectionTable

end MeshBridge
