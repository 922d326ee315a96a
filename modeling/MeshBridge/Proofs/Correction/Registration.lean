import MeshBridge.Correction.Json
import MeshBridge.Proofs.Correction.Breaking
/-!
Tables that can be evaluated. Whatever is registered, one by one or from documents, and whether or
not it is refused: only entries that pass the check get into a table, and only as long as there is
room (`register_eq_ok_iff`). So a table stays as `Sound` says, and as no entry in it clamps to an
empty range, no evaluation ever breaks off (`unbroken_of_registrations`).
-/

set_option autoImplicit false
set_option relaxedAutoImplicit false

namespace MeshBridge

open Correction

/-- An entry that a table may hold. -/
structure Correction.Entry.Sound (e : Entry) : Prop where
  manufacturer : e.manufacturer ≠ ""
  model : e.model ≠ ""
  actions : e.actions.length ≤ 4
  clamps : ∀ target low high, .clampRange target low high ∈ e.actions → low ≤ high

/-- What is asked to be registered: one entry, or the tables of a document. -/
inductive Registration where
  | entry (e : Entry)
  | documents (tables : List Toml)

namespace CorrectionTable

variable {t t' : CorrectionTable} {e : Entry}

/-- The table after a registration. One that is refused leaves what was registered before. -/
def after (t : CorrectionTable) : Registration → CorrectionTable
  | .entry e => (t.register e).toOption.getD t
  | .documents tables => (t.registerDocuments tables).1

/-- A table that holds only entries that it may hold, and not too many. -/
structure Sound (t : CorrectionTable) : Prop where
  entries : t.entries.length ≤ 32
  each : ∀ e ∈ t.entries, e.Sound

theorem emptyClamp?_eq_none_iff : emptyClamp? e = none ↔
    ∀ target low high, .clampRange target low high ∈ e.actions → low ≤ high := by
  rw [emptyClamp?, List.findSome?_eq_none_iff]
  constructor
  · intro hnone target low high hmem
    have hclamp := hnone _ hmem
    simpa using hclamp
  · intro hordered a ha
    cases a with
    | clampRange target low high => simpa using hordered target low high ha
    | _ => rfl

/-- Exactly the entries that a table may hold pass the check. -/
theorem check_eq_ok_iff : check e = .ok () ↔ e.Sound := by
  unfold check
  split_ifs with hnames hactions
  · refine iff_of_false nofun fun hsound ↦ ?_
    rcases hnames with hmanufacturer | hmodel
    · exact hsound.manufacturer (String.isEmpty_iff.1 hmanufacturer)
    · exact hsound.model (String.isEmpty_iff.1 hmodel)
  · refine iff_of_false nofun fun hsound ↦ ?_
    exact absurd hsound.actions (Nat.not_le.2 hactions)
  · rw [not_or, String.isEmpty_iff, String.isEmpty_iff] at hnames
    cases hclamp : emptyClamp? e with
    | none =>
      refine iff_of_true rfl ⟨hnames.1, hnames.2, Nat.not_lt.1 hactions, ?_⟩
      exact emptyClamp?_eq_none_iff.1 hclamp
    | some range =>
      refine iff_of_false nofun fun hsound ↦ ?_
      cases (emptyClamp?_eq_none_iff.2 hsound.clamps).symm.trans hclamp

theorem register_eq_ok_iff :
    t.register e = .ok t' ↔ e.Sound ∧ t.entries.length < 32 ∧ t' = ⟨t.entries ++ [e]⟩ := by
  rw [← check_eq_ok_iff, register]
  cases check e with
  | error f => simp [bind, Except.bind]
  | ok _ =>
    show (if 32 ≤ t.entries.length then _ else Except.ok _) = Except.ok t' ↔ _
    split_ifs with hfull
    · simp [hfull]
    · simp [Nat.not_le.1 hfull, eq_comm]

theorem sound_empty : empty.Sound := ⟨by decide, nofun⟩

theorem Sound.register (h : t.Sound) (hregister : t.register e = .ok t') : t'.Sound := by
  obtain ⟨hsound, hroom, rfl⟩ := register_eq_ok_iff.1 hregister
  constructor
  · rw [List.length_append, List.length_singleton]
    omega
  · intro other hother
    rcases List.mem_append.1 hother with hearlier | hnew
    · exact h.each other hearlier
    · rw [List.mem_singleton.1 hnew]
      exact hsound

/-- By induction on what is registered. What comes after a refusal is not looked at. -/
theorem Sound.registerAll (h : t.Sound) (entries : List (Except Fault Entry)) :
    (t.registerAll entries).1.Sound := by
  induction entries generalizing t with
  | nil => exact h
  | cons e rest ih =>
    rw [CorrectionTable.registerAll]
    split
    · next t' hregister =>
      cases e with
      | error f => cases hregister
      | ok e => exact ih (h.register hregister)
    · exact h

theorem sound_builtin : builtin.Sound := sound_empty.registerAll _

theorem Sound.after (h : t.Sound) (r : Registration) : (t.after r).Sound := by
  cases r with
  | entry e =>
    rw [CorrectionTable.after]
    cases hregister : t.register e with
    | ok t' => exact h.register hregister
    | error f => exact h
  | documents tables => exact h.registerAll _

/-- By induction on the registrations. -/
theorem Sound.afterAll (h : t.Sound) (registrations : List Registration) :
    (registrations.foldl CorrectionTable.after t).Sound := by
  induction registrations generalizing t with
  | nil => exact h
  | cons r rest ih => exact ih (h.after r)

/-- A table that may be evaluated for any device, any capability and any value. -/
structure Unbroken (t : CorrectionTable) : Prop extends t.Sound where
  /-- No evaluation breaks off, whichever way the value goes. -/
  evaluated : ∀ direction manufacturer model c value,
    t.correct? direction manufacturer model c value =
      some (t.correct direction manufacturer model c value)

theorem Sound.unbroken (h : t.Sound) : t.Unbroken := by
  refine ⟨h, ?_⟩
  intro direction manufacturer model c value
  unfold correct? correct
  cases hfind : t.find? manufacturer model with
  | none => rfl
  | some e =>
    have hsound := h.each e (List.mem_of_find?_eq_some hfind)
    exact Entry.correct?_eq_some (hsound.clamps c) direction value

/-- Whether a table was made empty or with the known devices, and whatever was registered since,
with success or without. -/
theorem unbroken_of_registrations (registrations : List Registration) :
    (registrations.foldl after empty).Unbroken ∧ (registrations.foldl after builtin).Unbroken :=
  ⟨(sound_empty.afterAll registrations).unbroken, (sound_builtin.afterAll registrations).unbroken⟩

end CorrectionTable

end MeshBridge
