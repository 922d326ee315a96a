import MeshBridge.Proofs.Coordinator.Replay
/-!
Courses of a coordinator: calls made in turn, between which the radio and the store change as they
like and nothing else changes. A course is a past in which every event was told before the next call
(`Course.past`), and so its events tell which devices are online (`Course.online_iff`).
-/

set_option autoImplicit false
set_option relaxedAutoImplicit false

namespace MeshBridge.Coordinator

variable {ρ σ : Type} [Radio ρ] [KeyValueStore σ]

/-- These calls led from one coordinator to another. -/
inductive Course (start : Coordinator ρ σ) : List (Turn ρ σ) → Coordinator ρ σ → Prop
  | stays (radio : ρ) (store : Option σ) : Course start [] { start with radio, store }
  | calls {turns : List (Turn ρ σ)} {before : Coordinator ρ σ} (h : Course start turns before)
      (now : Moment) (call : Call) (radio : ρ) (store : Option σ) :
      Course start (turns ++ [⟨before, now, call⟩])
        { (before.perform now call).after with radio, store }

namespace Course

variable {start between after : Coordinator ρ σ} {turns more : List (Turn ρ σ)}

theorem refl (c : Coordinator ρ σ) : Course c [] c := .stays c.radio c.store

theorem single (c : Coordinator ρ σ) (now : Moment) (call : Call) :
    Course c [⟨c, now, call⟩] (c.perform now call).after :=
  (refl c).calls now call _ _

/-- The radio and the store may change after the last call too. -/
theorem aside (h : Course start turns after) (radio : ρ) (store : Option σ) :
    Course start turns { after with radio, store } := by
  cases h with
  | stays => exact .stays radio store
  | calls hbefore now call => exact hbefore.calls now call radio store

theorem trans (hfirst : Course start turns between) (hrest : Course between more after) :
    Course start (turns ++ more) after := by
  induction hrest with
  | stays radio store =>
    rw [List.append_nil]
    exact hfirst.aside radio store
  | calls _ now call radio store ih =>
    rw [← List.append_assoc]
    exact ih.calls now call radio store

end Course

/-! ### From the beginning -/

section Course

variable {config : AdapterConfig} {corrections : CorrectionTable} {radio : ρ} {store : Option σ}
  {turns : List (Turn ρ σ)} {c : Coordinator ρ σ}

/-- Where every event is told before the next call, none is left waiting. -/
theorem Course.past (h : Course (new config corrections radio store) turns c) :
    ∃ history : History ρ σ, Past Eq config corrections c history ∧ history.turns = turns ∧
      history.told = turns.flatMap (·.events) ∧ history.waiting = [] := by
  induction h with
  | stays radio store => exact ⟨.empty, .made radio store, rfl, rfl, rfl⟩
  | @calls turns before _ now call radio store ih =>
    obtain ⟨history, hpast, hturns, htold, hwaiting⟩ := ih
    have hcalled := (hpast.called now call).settle.changed rfl radio store
    refine ⟨_, hcalled, ?_, ?_, rfl⟩
    · rw [History.turns_settle, History.turns_call, hturns]
    · rw [History.told_settle_call hwaiting, htold, List.flatMap_append, List.flatMap_singleton]

/-- The corrections never change. -/
theorem Course.corrections_eq (h : Course (new config corrections radio store) turns c)
    {t : Turn ρ σ} (ht : t ∈ turns) : t.after.corrections = corrections := by
  obtain ⟨history, hpast, hturns, -⟩ := h.past
  rw [← hturns] at ht
  obtain ⟨_, hbefore, -⟩ := hpast.before ht
  exact (t.before.framed_perform t.now t.call).corrections.trans hbefore.config_eq.2

/-- The events told so far give the contents of the cache. -/
theorem Course.replay_eq (h : Course (new config corrections radio store) turns c) (d : Eui64) :
    (replay (turns.flatMap (·.events))).get? d = c.cache.at? d := by
  induction h generalizing d with
  | stays => rfl
  | calls hbefore now call _ _ ih =>
    obtain ⟨_, hpast, -⟩ := hbefore.past
    have hcoherent := hpast.coherent
    rw [List.flatMap_append, List.flatMap_singleton, replay_append]
    exact (shift_perform hcoherent now call).follow_eq hcoherent ih d

/-- The devices that are told to be somewhere are those that are online. -/
theorem Course.online_iff (h : Course (new config corrections radio store) turns c) (d : Eui64) :
    ((replay (turns.flatMap (·.events))).get? d).isSome ↔
      ∃ node, c.devices.find? d = some node ∧ node.online = true := by
  obtain ⟨_, hpast, -⟩ := h.past
  rw [h.replay_eq, hpast.coherent.reached, Option.isSome_iff_exists]
  simp only [Registry.reached?_eq_some_iff]
  constructor
  · rintro ⟨_, node, hnode, honline, -⟩
    exact ⟨node, hnode, honline⟩
  · rintro ⟨node, hnode, honline⟩
    exact ⟨node.address, node, hnode, honline, rfl⟩

end Course

end MeshBridge.Coordinator
