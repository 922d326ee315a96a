import Mathlib.Data.List.Induction
/-!
What a history says of the last time that something happened. `Since p q` holds of a history in
which there was an event with `p` and only events with `q` came after it; `q` says that an event
leaves standing what the first one did. Histories grow at their end, so `since_concat_iff` is all
that an induction over a run needs.
-/

set_option autoImplicit false
set_option relaxedAutoImplicit false

namespace MeshBridge

variable {α : Type} {p q : α → Prop} {history : List α} {a : α}

/-- An event with `p` took place, and only events with `q` since then. -/
def Since (p q : α → Prop) (history : List α) : Prop :=
  ∃ earlier event later, history = earlier ++ event :: later ∧ p event ∧ ∀ u ∈ later, q u

theorem not_since_nil : ¬Since p q [] := by
  rintro ⟨earlier, event, later, hhistory, -⟩
  exact List.append_ne_nil_of_right_ne_nil _ (List.cons_ne_nil _ _) hhistory.symm

/-- Either the last event is the one looked for, or it leaves the one before it standing. -/
theorem since_concat_iff : Since p q (history ++ [a]) ↔ p a ∨ q a ∧ Since p q history := by
  constructor
  · rintro ⟨earlier, event, later, hhistory, hp, hq⟩
    rcases later.eq_nil_or_concat with rfl | ⟨between, last, rfl⟩
    · obtain ⟨-, hsame⟩ := List.append_inj' hhistory rfl
      rw [List.singleton_inj.1 hsame]
      exact Or.inl hp
    · right
      rw [List.concat_eq_append] at hhistory hq
      rw [← List.cons_append, ← List.append_assoc] at hhistory
      obtain ⟨rfl, hsame⟩ := List.append_inj' hhistory rfl
      rw [List.singleton_inj.1 hsame]
      refine ⟨hq last (List.mem_append_right _ (List.mem_singleton_self _)), ?_⟩
      exact ⟨earlier, event, between, rfl, hp, fun u hu ↦ hq u (List.mem_append_left _ hu)⟩
  · rintro (hp | ⟨hlast, earlier, event, later, rfl, hp, hq⟩)
    · exact ⟨history, a, [], rfl, hp, fun u hu ↦ absurd hu List.not_mem_nil⟩
    · refine ⟨earlier, event, later ++ [a], by simp, hp, fun u hu ↦ ?_⟩
      rcases List.mem_append.1 hu with hu | hu
      · exact hq u hu
      · rw [List.mem_singleton.1 hu]
        exact hlast

/-- An event that is not looked for and leaves everything standing changes nothing. -/
theorem since_concat_of_kept (hp : ¬p a) (hq : q a) :
    Since p q (history ++ [a]) ↔ Since p q history := by
  rw [since_concat_iff]
  exact ⟨fun h ↦ (h.resolve_left hp).2, fun h ↦ Or.inr ⟨hq, h⟩⟩

end MeshBridge
