import MeshBridge.Proofs.Correction.Registration
/-!
What a table takes of the entries that are offered to it in turn: those before the first that could
not be read or may not be held, as far as there is room (`admitted`). Registration stops at the
first refusal and takes nothing back, so the entries before it stay in the table
(`registerAll_cases`). For the tables of a document this means that an error leaves the table of
corrections as it was only if it struck at the first of them, while a success has appended the entry
of each (`takes_documents`).
-/

set_option autoImplicit false
set_option relaxedAutoImplicit false

namespace MeshBridge

open Correction

/-- The entries that a registration offers, in turn. -/
def Registration.offers : Registration → List (Except Fault Entry)
  | .entry e => [.ok e]
  | .documents tables => tables.map Entry.ofDocument

namespace CorrectionTable

variable {t t' : CorrectionTable} {e : Entry} {offer : Except Fault Entry}

/-- Whether an entry could be read and may be held. -/
def isFit (offer : Except Fault Entry) : Bool := (offer.bind check).isOk

/-- The entries that get into a table when some are offered in turn: those before the first that is
not fit, as far as there is room. -/
def admitted (t : CorrectionTable) (offered : List (Except Fault Entry)) : List Entry :=
  ((offered.takeWhile isFit).filterMap Except.toOption).take (32 - t.entries.length)

theorem isFit_ok_iff : isFit (.ok e) = true ↔ e.Sound := by
  rw [← check_eq_ok_iff]
  show (check e).isOk = true ↔ check e = .ok ()
  cases check e with
  | error f => exact iff_of_false nofun nofun
  | ok _ => exact iff_of_true rfl rfl

@[simp] theorem admitted_nil (t : CorrectionTable) : t.admitted [] = [] := by
  rw [admitted, List.takeWhile_nil, List.filterMap_nil, List.take_nil]

/-- An entry that is registered is the first to get in, and the others are offered to the table that
has it. -/
theorem admitted_of_ok (h : offer.bind t.register = .ok t') (rest : List (Except Fault Entry)) :
    ∃ e, offer = .ok e ∧ t' = ⟨t.entries ++ [e]⟩ ∧
      t.admitted (offer :: rest) = e :: t'.admitted rest := by
  cases offer with
  | error f => cases h
  | ok e =>
    obtain ⟨hsound, hroom, rfl⟩ := register_eq_ok_iff.1 h
    refine ⟨e, rfl, rfl, ?_⟩
    have hleft : 32 - t.entries.length = 32 - (t.entries ++ [e]).length + 1 := by
      rw [List.length_append, List.length_singleton]
      omega
    rw [admitted, List.takeWhile_cons_of_pos (isFit_ok_iff.2 hsound), hleft]
    rfl

/-- Nothing gets in from an offer that is refused on. -/
theorem admitted_of_error {f : Fault} (h : offer.bind t.register = .error f)
    (rest : List (Except Fault Entry)) : t.admitted (offer :: rest) = [] := by
  by_cases hfit : isFit offer = true
  · cases offer with
    | error f => cases hfit
    | ok e =>
      have hfull : 32 - t.entries.length = 0 := by
        by_contra hroom
        have hregister : t.register e = .ok ⟨t.entries ++ [e]⟩ :=
          register_eq_ok_iff.2 ⟨isFit_ok_iff.1 hfit, by omega, rfl⟩
        cases hregister.symm.trans h
      rw [admitted, hfull, List.take_zero]
  · rw [admitted, List.takeWhile_cons_of_neg hfit, List.filterMap_nil, List.take_nil]

/-- By induction on the offers. Those that get in are appended, and what stops the registration, if
anything does, is the refusal of the next one by the table that has them. -/
theorem registerAll_cases (t : CorrectionTable) (offered : List (Except Fault Entry)) :
    (t.registerAll offered).1 = ⟨t.entries ++ t.admitted offered⟩ ∧
      (offered = (t.admitted offered).map .ok ∧ (t.registerAll offered).2 = .ok () ∨
        ∃ refused later f, offered = (t.admitted offered).map .ok ++ refused :: later ∧
          refused.bind (t.registerAll offered).1.register = .error f ∧
          (t.registerAll offered).2 = .error f) := by
  induction offered generalizing t with
  | nil =>
    rw [admitted_nil, List.append_nil]
    exact ⟨rfl, Or.inl ⟨rfl, rfl⟩⟩
  | cons offer rest ih =>
    cases hregister : offer.bind t.register with
    | error f =>
      have hstops : t.registerAll (offer :: rest) = (t, .error f) := by
        rw [registerAll, hregister]
      rw [hstops, admitted_of_error hregister, List.append_nil]
      exact ⟨rfl, Or.inr ⟨offer, rest, f, rfl, hregister, rfl⟩⟩
    | ok t' =>
      have hgoes : t.registerAll (offer :: rest) = t'.registerAll rest := by
        rw [registerAll, hregister]
      obtain ⟨e, rfl, rfl, hadmitted⟩ := admitted_of_ok hregister rest
      obtain ⟨hafter, hresult⟩ := ih ⟨t.entries ++ [e]⟩
      rw [hgoes, hadmitted]
      refine ⟨?_, ?_⟩
      · rw [hafter, List.append_assoc, List.singleton_append]
      · rcases hresult with ⟨hall, hok⟩ | ⟨refused, later, f, hsplit, hrefused, herror⟩
        · exact Or.inl ⟨by rw [List.map_cons, ← hall], hok⟩
        · refine Or.inr ⟨refused, later, f, ?_, hrefused, herror⟩
          rw [List.map_cons, List.cons_append, ← hsplit]

/-- What is registered gets in at the end of the table. -/
theorem after_eq (t : CorrectionTable) (r : Registration) :
    t.after r = ⟨t.entries ++ t.admitted r.offers⟩ := by
  have hafter : t.after r = (t.registerAll r.offers).1 := by
    cases r with
    | entry e =>
      have hoffer : (Except.ok e : Except Fault Entry).bind t.register = t.register e := rfl
      cases hregister : t.register e with
      | error f =>
        rw [CorrectionTable.after, Registration.offers, registerAll, hoffer, hregister]
        rfl
      | ok t' =>
        rw [CorrectionTable.after, Registration.offers, registerAll, hoffer, hregister]
        rfl
    | documents tables => rfl
  rw [hafter, (t.registerAll_cases r.offers).1]

/-! ### Success -/

/-- What gets in was offered and is fit. -/
theorem of_mem_admitted {offered : List (Except Fault Entry)} (h : e ∈ t.admitted offered) :
    .ok e ∈ offered ∧ e.Sound := by
  obtain ⟨offer, hoffer, hentry⟩ := List.mem_filterMap.1 (List.mem_of_mem_take h)
  have hmem := List.takeWhile_subset _ hoffer
  have hfit := List.mem_takeWhile_imp hoffer
  cases offer with
  | error f => cases hfit
  | ok other =>
    cases hentry
    exact ⟨hmem, isFit_ok_iff.1 hfit⟩

theorem length_admitted_le (t : CorrectionTable) (offered : List (Except Fault Entry)) :
    (t.admitted offered).length ≤ 32 - t.entries.length :=
  List.length_take_le ..

/-- All that is offered gets in just if it is fit and there is room for it. -/
theorem registerAll_isOk_iff (t : CorrectionTable) (offered : List (Except Fault Entry)) :
    (t.registerAll offered).2.isOk = true ↔
      (∀ offer ∈ offered, ∃ e, offer = .ok e ∧ e.Sound) ∧
        (offered = [] ∨ t.entries.length + offered.length ≤ 32) := by
  obtain ⟨hafter, ⟨hall, hok⟩ | ⟨refused, later, f, hsplit, hrefused, herror⟩⟩ :=
    t.registerAll_cases offered
  · rw [hok]
    refine iff_of_true rfl ⟨?_, ?_⟩
    · intro offer hoffer
      rw [hall] at hoffer
      obtain ⟨e, he, rfl⟩ := List.mem_map.1 hoffer
      exact ⟨e, rfl, (of_mem_admitted he).2⟩
    · have hlength := t.length_admitted_le offered
      have hsame := congrArg List.length hall
      rw [List.length_map] at hsame
      by_cases hempty : offered = []
      · exact Or.inl hempty
      · have hpositive := List.length_pos_iff.2 hempty
        exact Or.inr (by omega)
  · rw [herror]
    refine iff_of_false nofun ?_
    rintro ⟨hfit, hroom⟩
    have hmem : refused ∈ offered := by
      rw [hsplit]
      exact List.mem_append_right _ List.mem_cons_self
    obtain ⟨e, rfl, hsound⟩ := hfit refused hmem
    have hlength := congrArg List.length hsplit
    rw [List.length_append, List.length_map, List.length_cons] at hlength
    have hplace : (t.registerAll offered).1.entries.length < 32 := by
      rw [hafter, List.length_append]
      rcases hroom with rfl | hroom
      · cases hmem
      · omega
    cases (register_eq_ok_iff.2 ⟨hsound, hplace, rfl⟩).symm.trans hrefused

/-! ### Documents -/

/-- A document offers an entry for each of its tables. It is refused at one of them, or they are
counted. -/
theorem registerDocuments_cases (t : CorrectionTable) (tables : List Toml) :
    let entries := t.admitted (tables.map Entry.ofDocument)
    (t.registerDocuments tables).1 = ⟨t.entries ++ entries⟩ ∧
      (tables.map Entry.ofDocument = entries.map .ok ∧
          (t.registerDocuments tables).2 = .ok tables.length ∨
        ∃ earlier refused later f, tables = earlier ++ refused :: later ∧
          earlier.map Entry.ofDocument = entries.map .ok ∧
          (Entry.ofDocument refused).bind (register ⟨t.entries ++ entries⟩) = .error f ∧
          (t.registerDocuments tables).2 = .error f) := by
  intro entries
  have hsnd : (t.registerDocuments tables).2 =
    (t.registerAll (tables.map Entry.ofDocument)).2.map fun _ ↦ tables.length := rfl
  obtain ⟨hafter, ⟨hall, hok⟩ | ⟨offer, rest, f, hsplit, hrefused, herror⟩⟩ :=
    t.registerAll_cases (tables.map Entry.ofDocument)
  · exact ⟨hafter, Or.inl ⟨hall, by rw [hsnd, hok]; rfl⟩⟩
  · obtain ⟨earlier, others, rfl, hearlier, hothers⟩ := List.map_eq_append_iff.1 hsplit
    obtain ⟨refused, later, rfl, rfl, -⟩ := List.map_eq_cons_iff.1 hothers
    rw [hafter] at hrefused
    exact ⟨hafter, Or.inr ⟨earlier, refused, later, f, rfl, hearlier, hrefused,
      by rw [hsnd, herror]; rfl⟩⟩

theorem registerDocuments_isOk_iff (t : CorrectionTable) (tables : List Toml) :
    (t.registerDocuments tables).2.isOk = true ↔
      (∀ table ∈ tables, ∃ e, Entry.ofDocument table = .ok e ∧ e.Sound) ∧
        (tables = [] ∨ t.entries.length + tables.length ≤ 32) := by
  have hsame : (t.registerDocuments tables).2.isOk =
      (t.registerAll (tables.map Entry.ofDocument)).2.isOk := by
    show ((t.registerAll (tables.map Entry.ofDocument)).2.map _).isOk = _
    cases (t.registerAll (tables.map Entry.ofDocument)).2 <;> rfl
  rw [hsame, registerAll_isOk_iff, List.forall_mem_map, List.map_eq_nil_iff, List.length_map]

/-- A table stays as it was if nothing gets in. -/
theorem append_eq_self_iff (t : CorrectionTable) (entries : List Entry) :
    (⟨t.entries ++ entries⟩ : CorrectionTable) = t ↔ entries = [] := by
  constructor
  · intro hsame
    exact List.append_right_eq_self.1 (congrArg CorrectionTable.entries hsame)
  · rintro rfl
    rw [List.append_nil]

/-- What a table of corrections takes of the tables of a document. -/
structure Takes (t : CorrectionTable) (tables : List Toml) : Prop where
  /-- After a success the entry of each of them is at the end, in their order, and they are
  counted. -/
  whole : ∀ n, (t.registerDocuments tables).2 = .ok n → n = tables.length ∧
    ∃ entries, tables.map Entry.ofDocument = entries.map .ok ∧
      (t.registerDocuments tables).1 = ⟨t.entries ++ entries⟩
  /-- After an error those before the one that was refused are there, and none after it. -/
  part : ∀ f, (t.registerDocuments tables).2 = .error f → ∃ earlier refused later entries,
    tables = earlier ++ refused :: later ∧ earlier.map Entry.ofDocument = entries.map .ok ∧
      (t.registerDocuments tables).1 = ⟨t.entries ++ entries⟩ ∧
      (Entry.ofDocument refused).bind (register ⟨t.entries ++ entries⟩) = .error f
  /-- So an error changes nothing just if it struck at the first of them. -/
  unchanged_iff : ∀ f, (t.registerDocuments tables).2 = .error f →
    ((t.registerDocuments tables).1 = t ↔
      ∃ first later, tables = first :: later ∧ (Entry.ofDocument first).bind t.register = .error f)
  /-- A success asks of each of them that it describes an entry that may be held, and that there is
  room for all. -/
  isOk_iff : (t.registerDocuments tables).2.isOk = true ↔
    (∀ table ∈ tables, ∃ e, Entry.ofDocument table = .ok e ∧ e.Sound) ∧
      (tables = [] ∨ t.entries.length + tables.length ≤ 32)

/-- Whatever a table holds, and whatever the tables of the document are. -/
theorem takes_documents (t : CorrectionTable) (tables : List Toml) : t.Takes tables := by
  have hcases := t.registerDocuments_cases tables
  set entries := t.admitted (tables.map Entry.ofDocument) with hentries
  obtain ⟨hafter, hresult⟩ := hcases
  refine ⟨?_, ?_, ?_, t.registerDocuments_isOk_iff tables⟩
  · intro n hn
    rcases hresult with ⟨hall, hok⟩ | ⟨-, -, -, f, -, -, -, herror⟩
    · cases hok.symm.trans hn
      exact ⟨rfl, entries, hall, hafter⟩
    · cases herror.symm.trans hn
  · intro f hf
    rcases hresult with
      ⟨-, hok⟩ | ⟨earlier, refused, later, fault, htables, hearlier, hrefused, herror⟩
    · cases hok.symm.trans hf
    · cases herror.symm.trans hf
      exact ⟨earlier, refused, later, entries, htables, hearlier, hafter, hrefused⟩
  · intro f hf
    rw [hafter, append_eq_self_iff]
    constructor
    · intro hnone
      rcases hresult with
        ⟨-, hok⟩ | ⟨earlier, refused, later, fault, htables, hearlier, hrefused, herror⟩
      · cases hok.symm.trans hf
      · cases herror.symm.trans hf
        rw [hnone, List.map_nil, List.map_eq_nil_iff] at hearlier
        rw [hnone, List.append_nil] at hrefused
        rw [hearlier, List.nil_append] at htables
        exact ⟨refused, later, htables, hrefused⟩
    · rintro ⟨first, later, rfl, hrefuses⟩
      rw [hentries, List.map_cons, admitted_of_error hrefuses]

/-- Of two tables of a document the second names no model. The entry of the first gets in. -/
theorem takes_documents_halved :
    let complete : Toml := .table
      [("manufacturer", .text "Acme"), ("model", .text "X1"), ("actions", .array [])]
    let nameless : Toml := .table [("manufacturer", .text "Acme"), ("actions", .array [])]
    empty.registerDocuments [complete, nameless] =
        (⟨[⟨"Acme", "X1", .exact, []⟩]⟩, .error (.config "invalid quirk")) ∧
      empty.Takes [complete, nameless] :=
  ⟨by decide, takes_documents ..⟩

end CorrectionTable

end MeshBridge
