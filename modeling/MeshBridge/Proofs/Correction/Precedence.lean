import MeshBridge.Proofs.Correction.Admission
/-!
Which entry counts for a device. It is the first one that is for it (`find?_eq_some_iff`), be it
exact or for a leading part of the model, and all that a table answers about the device it answers
by that entry (`answersBy_of_find?`). Whatever is registered gets in behind what a table holds
already. So an entry that counts for a device goes on to do so, and for a device that no entry is
for, the first one for it that gets in counts from then on (`precedence`).
-/

set_option autoImplicit false
set_option relaxedAutoImplicit false

namespace MeshBridge

namespace Correction

variable {manufacturer model : String}

/-- The entry is for the device: it names its manufacturer, and its model or a leading part of
that. -/
def Entry.IsFor (e : Entry) (manufacturer model : String) : Prop :=
  e.manufacturer = manufacturer ∧
    match e.matching with
    | .exact => e.model = model
    | .leading => e.model.toList <+: model.toList

theorem Entry.covers_iff {e : Entry} :
    e.covers manufacturer model = true ↔ e.IsFor manufacturer model := by
  rw [covers, IsFor, Bool.and_eq_true, beq_iff_eq]
  cases e.matching with
  | exact => rw [beq_iff_eq]
  | leading => rw [List.isPrefixOf_iff_prefix]

instance (e : Entry) (manufacturer model : String) : Decidable (e.IsFor manufacturer model) :=
  decidable_of_iff _ Entry.covers_iff

/-- Of some entries this is the first one for the device. -/
def FirstFor (entries : List Entry) (manufacturer model : String) (e : Entry) : Prop :=
  e.IsFor manufacturer model ∧ ∃ earlier later, entries = earlier ++ e :: later ∧
    ∀ other ∈ earlier, ¬ other.IsFor manufacturer model

theorem find?_covers_eq_some_iff {entries : List Entry} {e : Entry} :
    entries.find? (·.covers manufacturer model) = some e ↔
      FirstFor entries manufacturer model e := by
  simp only [List.find?_eq_some_iff_append, FirstFor, Bool.not_eq_eq_eq_not, Bool.not_true,
    ← Bool.not_eq_true, Entry.covers_iff]

theorem find?_covers_eq_none_iff {entries : List Entry} :
    entries.find? (·.covers manufacturer model) = none ↔
      ∀ e ∈ entries, ¬ e.IsFor manufacturer model := by
  simp only [List.find?_eq_none, Entry.covers_iff]

end Correction

namespace CorrectionTable

open Correction

variable {t : CorrectionTable} {manufacturer model : String}

/-- The first entry for a device counts. -/
theorem find?_eq_some_iff {e : Entry} :
    t.find? manufacturer model = some e ↔ FirstFor t.entries manufacturer model e :=
  find?_covers_eq_some_iff

theorem find?_eq_none_iff :
    t.find? manufacturer model = none ↔ ∀ e ∈ t.entries, ¬ e.IsFor manufacturer model :=
  find?_covers_eq_none_iff

/-- The entries that registrations put into a table, oldest first. -/
def entered (t : CorrectionTable) : List Registration → List Entry
  | [] => []
  | r :: rest => t.admitted r.offers ++ (t.after r).entered rest

/-- Registrations put entries at the end of a table and do nothing else to it. -/
theorem foldl_after_eq (t : CorrectionTable) (registrations : List Registration) :
    registrations.foldl after t = ⟨t.entries ++ t.entered registrations⟩ := by
  induction registrations generalizing t with
  | nil => rw [List.foldl_nil, entered, List.append_nil]
  | cons r rest ih => rw [List.foldl_cons, ih, entered, after_eq, List.append_assoc]

theorem entered_append (t : CorrectionTable) (registrations later : List Registration) :
    t.entered (registrations ++ later) =
      t.entered registrations ++ (registrations.foldl after t).entered later := by
  induction registrations generalizing t with
  | nil => rfl
  | cons r rest ih =>
    rw [List.cons_append, entered, entered, ih, List.append_assoc, List.foldl_cons]

/-- An entry that gets in later counts only for devices that no entry was for. -/
theorem find?_foldl_after (t : CorrectionTable) (registrations : List Registration)
    (manufacturer model : String) :
    (registrations.foldl after t).find? manufacturer model =
      (t.find? manufacturer model).or
        ((t.entered registrations).find? (·.covers manufacturer model)) := by
  rw [foldl_after_eq, find?, List.find?_append]
  rfl

/-- All that a table answers about a device comes from one entry, or it has none for the device and
corrects it in nothing. -/
structure AnswersBy (t : CorrectionTable) (e? : Option Entry) (manufacturer model : String) :
    Prop where
  find : t.find? manufacturer model = e?
  report : ∀ c value, t.correctReport manufacturer model c value =
    e?.elim (.unchanged c value) (·.correct .inbound c value)
  command : ∀ c value, t.correctCommand manufacturer model c value =
    e?.elim (.unchanged c value) (·.correct .outbound c value)
  reporting : ∀ c, t.reporting? manufacturer model c = e?.bind (·.reporting? c)

theorem answersBy_of_find? {e? : Option Entry} (h : t.find? manufacturer model = e?) :
    t.AnswersBy e? manufacturer model := by
  have hcorrect (direction : Direction) (c : Capability) (value : CapabilityValue) :
      t.correct direction manufacturer model c value =
        e?.elim (.unchanged c value) (·.correct direction c value) := by
    rw [correct, h]
    cases e? <;> rfl
  refine ⟨h, hcorrect .inbound, hcorrect .outbound, ?_⟩
  intro c
  rw [reporting?, h]

/-- What registrations, and others after them, do to what a table answers about a device. -/
structure Precedence (t : CorrectionTable) (registrations later : List Registration)
    (manufacturer model : String) : Prop where
  /-- They put in the entries that are fit, behind those that are there. -/
  entries : (registrations.foldl after t).entries = t.entries ++ t.entered registrations
  /-- If some entry is for the device, the first such one decides all answers, before and after. -/
  kept : (∃ e ∈ t.entries, e.IsFor manufacturer model) →
    ∃ first, FirstFor t.entries manufacturer model first ∧
      t.AnswersBy (some first) manufacturer model ∧
      (registrations.foldl after t).AnswersBy (some first) manufacturer model
  /-- If none is, the first one for it that gets in decides all answers from then on. -/
  decided : (∀ e ∈ t.entries, ¬ e.IsFor manufacturer model) → ∀ first,
    FirstFor (t.entered registrations) manufacturer model first →
    t.AnswersBy none manufacturer model ∧
      ((registrations ++ later).foldl after t).AnswersBy (some first) manufacturer model
  /-- As long as none gets in, the device is corrected in nothing. -/
  untouched : (∀ e ∈ t.entries, ¬ e.IsFor manufacturer model) →
    (∀ e ∈ t.entered registrations, ¬ e.IsFor manufacturer model) →
    (registrations.foldl after t).AnswersBy none manufacturer model

/-- Whatever the table, the device and the registrations, with success or without. -/
theorem precedence (t : CorrectionTable) (registrations later : List Registration)
    (manufacturer model : String) : t.Precedence registrations later manufacturer model := by
  refine ⟨?_, ?_, ?_, ?_⟩
  · rw [foldl_after_eq]
  · rintro ⟨e, he, hfor⟩
    cases hfind : t.find? manufacturer model with
    | none => exact absurd hfor (find?_eq_none_iff.1 hfind e he)
    | some first =>
      refine ⟨first, find?_eq_some_iff.1 hfind, answersBy_of_find? hfind, ?_⟩
      apply answersBy_of_find?
      rw [find?_foldl_after, hfind, Option.some_or]
  · intro hothers first hfirst
    have hnone := find?_eq_none_iff.2 hothers
    refine ⟨answersBy_of_find? hnone, ?_⟩
    apply answersBy_of_find?
    rw [find?_foldl_after, hnone, Option.none_or, entered_append, List.find?_append,
      find?_covers_eq_some_iff.2 hfirst, Option.some_or]
  · intro hothers hlater
    apply answersBy_of_find?
    rw [find?_foldl_after, find?_eq_none_iff.2 hothers, find?_covers_eq_none_iff.2 hlater,
      Option.none_or]

/-- Of two registrations the first is refused at its second table, and the other offers an entry for
all models that begin with a letter. The device that was corrected already stays so, though that
entry is for it too; the next one is corrected as the first table says, and others as the entry. -/
theorem precedence_overlapping :
    let held : Entry := ⟨"Acme", "X1", .exact, [.clampRange .brightness 1 254]⟩
    let table : Toml := .table
      [("manufacturer", .text "Acme"), ("model", .text "X2"), ("actions", .array [])]
    let nameless : Toml := .table [("manufacturer", .text "Acme"), ("actions", .array [])]
    let wide : Entry := ⟨"Acme", "X", .leading, [.invertBoolean .onOff true]⟩
    let registrations : List Registration := [.documents [table, nameless], .entry wide]
    let after := registrations.foldl after ⟨[held]⟩
    after.entries = [held, ⟨"Acme", "X2", .exact, []⟩, wide] ∧
      wide.IsFor "Acme" "X1" ∧ after.AnswersBy (some held) "Acme" "X1" ∧
      wide.IsFor "Acme" "X2" ∧ after.AnswersBy (some ⟨"Acme", "X2", .exact, []⟩) "Acme" "X2" ∧
      after.AnswersBy (some wide) "Acme" "X3" ∧ after.AnswersBy none "Acme" "Y" := by
  intro held table nameless wide registrations after
  have hentered : entered ⟨[held]⟩ registrations = [⟨"Acme", "X2", .exact, []⟩, wide] := by
    decide
  have hplain : FirstFor (entered ⟨[held]⟩ registrations) "Acme" "X2"
      ⟨"Acme", "X2", .exact, []⟩ :=
    find?_covers_eq_some_iff.1 (by rw [hentered]; decide)
  have hwide : FirstFor (entered ⟨[held]⟩ registrations) "Acme" "X3" wide :=
    find?_covers_eq_some_iff.1 (by rw [hentered]; decide)
  have hkept := precedence ⟨[held]⟩ registrations [] "Acme" "X1"
  obtain ⟨first, hfirst, -, hanswers⟩ := hkept.kept ⟨held, List.mem_singleton_self held, by decide⟩
  cases (find?_eq_some_iff.2 hfirst).symm.trans (by decide : _ = some held)
  refine ⟨?_, by decide, hanswers, by decide, ?_, ?_, ?_⟩
  · rw [hkept.entries, hentered]
    rfl
  · exact ((precedence ⟨[held]⟩ registrations [] "Acme" "X2").decided (by decide) _ hplain).2
  · exact ((precedence ⟨[held]⟩ registrations [] "Acme" "X3").decided (by decide) _ hwide).2
  · refine (precedence ⟨[held]⟩ registrations [] "Acme" "Y").untouched (by decide) ?_
    rw [hentered]
    decide

end CorrectionTable

end MeshBridge
