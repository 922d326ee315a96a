import MeshBridge.Proofs.Table
import MeshBridge.Proofs.Toml.Document
import MeshBridge.Toml.Normal
/-!
Reading a value as one whose keys have no fixed meaning undoes the order of a document: what is read
back has the normal form that was written (`normal?_arranged`), provided this was in normal form
(`IsNormal`).
-/

set_option autoImplicit false
set_option relaxedAutoImplicit false

namespace MeshBridge

namespace Toml

mutual

/-- Whether the keys of every table are in strictly ascending order and none is that of dates. -/
def IsNormal : Toml → Prop
  | .array items => ItemsNormal items
  | .table entries =>
    Ascending entries ∧ datetimeKey ∉ entries.map (·.1) ∧ EntriesNormal entries
  | _ => True

def ItemsNormal : List Toml → Prop
  | [] => True
  | item :: rest => IsNormal item ∧ ItemsNormal rest

def EntriesNormal : List (String × Toml) → Prop
  | [] => True
  | (_, v) :: rest => IsNormal v ∧ EntriesNormal rest

end

theorem standsForDate_eq_false {entries : List (String × Toml)}
    (h : datetimeKey ∉ entries.map (·.1)) : standsForDate entries = false := by
  cases entries with
  | nil => rfl
  | cons e rest =>
    rw [List.map_cons, List.mem_cons, not_or] at h
    exact decide_eq_false (Ne.symm h.1)

theorem normalItems?_eq (items : List Toml) : normalItems? items = items.mapM normal? := by
  induction items with
  | nil => rfl
  | cons item rest ih => rw [normalItems?, List.mapM_cons, ih]; rfl

/-- Entries, and the same entries with the normal forms of their values. -/
def Normals (entries normals : List (String × Toml)) : Prop :=
  List.Forall₂ (fun e n ↦ e.1 = n.1 ∧ e.2.normal? = some n.2) entries normals

namespace Normals

theorem refl {entries : List (String × Toml)} (h : ∀ e ∈ entries, e.2.normal? = some e.2) :
    Normals entries entries :=
  List.forall₂_same.2 fun e he ↦ ⟨rfl, h e he⟩

variable {entries normals : List (String × Toml)}

theorem keys_eq (h : Normals entries normals) : entries.map (·.1) = normals.map (·.1) := by
  induction h with
  | nil => rfl
  | cons hfirst _ ih => rw [List.map_cons, List.map_cons, hfirst.1, ih]

/-- The normal form of entries has the normal forms of their values, put in order. -/
theorem normalEntries?_eq (h : Normals entries normals) :
    normalEntries? entries = some (normals.foldr (fun n ↦ Assoc.insert n.1 n.2) []) := by
  induction h with
  | nil => rfl
  | @cons e n entries normals hfirst _ ih =>
    obtain ⟨key, v⟩ := e
    obtain ⟨rfl, hnormal⟩ := hfirst
    rw [normalEntries?, hnormal, ih]
    rfl

/-- A table has a normal form whatever the order of its entries, if none is a date. -/
theorem normal?_table (h : Normals entries normals) {ordered : List (String × Toml)}
    (hascending : Ascending ordered) (hdate : datetimeKey ∉ ordered.map (·.1))
    (hperm : normals.Perm ordered) : (table entries).normal? = some (table ordered) := by
  have hkeys : datetimeKey ∉ entries.map (·.1) := by
    rwa [h.keys_eq, (hperm.map _).mem_iff]
  rw [normal?, standsForDate_eq_false hkeys, if_neg Bool.false_ne_true, h.normalEntries?_eq,
    Assoc.foldr_insert_eq hascending hperm]
  rfl

end Normals

mutual

/-- A value in normal form is its own normal form. -/
theorem normal?_of_isNormal (v : Toml) (h : IsNormal v) : v.normal? = some v := by
  cases v with
  | array items => rw [normal?, normalItems?_of_isNormal items h]; rfl
  | table entries =>
    obtain ⟨hascending, hdate, hentries⟩ := h
    have hnormals := Normals.refl (normal?_of_entriesNormal entries hentries)
    exact hnormals.normal?_table hascending hdate (List.Perm.refl _)
  | _ => rfl

theorem normalItems?_of_isNormal (items : List Toml) (h : ItemsNormal items) :
    normalItems? items = some items := by
  cases items with
  | nil => rfl
  | cons item rest =>
    rw [normalItems?, normal?_of_isNormal item h.1, normalItems?_of_isNormal rest h.2]
    rfl

theorem normal?_of_entriesNormal (entries : List (String × Toml)) (h : EntriesNormal entries) :
    ∀ e ∈ entries, e.2.normal? = some e.2 := by
  cases entries with
  | nil => exact nofun
  | cons d rest =>
    obtain ⟨key, v⟩ := d
    intro e he
    rcases List.mem_cons.1 he with rfl | he
    · exact normal?_of_isNormal v h.1
    · exact normal?_of_entriesNormal rest h.2 e he

end

theorem perm_plainEntries (entries : List (String × Toml)) :
    (plainEntries entries ++ entries.filter fun e ↦ hasHeader e.2).Perm entries :=
  List.perm_append_comm.trans (List.filter_append_perm (fun e ↦ hasHeader e.2) entries)

mutual

/-- What is read back from a document has the normal form that was written. -/
theorem normal?_arranged (v : Toml) (h : IsNormal v) : (arranged v).normal? = some v := by
  cases v with
  | array items =>
    rw [arranged]
    split
    · next hheader =>
      have hitems : items.all isTable = true := by
        cases items with
        | nil => cases hheader
        | cons v rest => exact hheader
      rw [normal?, normalItems?_arrangedItems items h hitems]
      rfl
    · exact normal?_of_isNormal (.array items) h
  | table entries =>
    obtain ⟨hascending, hdate, hentries⟩ := h
    have hplain : Normals (plainEntries entries) (plainEntries entries) :=
      .refl fun e he ↦ normal?_of_entriesNormal entries hentries e (List.mem_of_mem_filter he)
    have hnormals : Normals (plainEntries entries ++ arrangedTables entries) _ :=
      List.rel_append hplain (normals_arrangedTables entries hentries)
    exact hnormals.normal?_table hascending hdate (perm_plainEntries entries)
  | _ => rfl

theorem normalItems?_arrangedItems (items : List Toml) (h : ItemsNormal items)
    (hitems : items.all isTable = true) : normalItems? (arrangedItems items) = some items := by
  cases items with
  | nil => rfl
  | cons v rest =>
    cases v with
    | table entries =>
      have hrest := normalItems?_arrangedItems rest h.2 (Bool.and_eq_true_iff.1 hitems).2
      have htable := normal?_arranged (.table entries) h.1
      rw [arranged] at htable
      rw [arrangedItems, normalItems?, htable, hrest]
      rfl
    | _ => cases hitems

theorem normals_arrangedTables (entries : List (String × Toml)) (h : EntriesNormal entries) :
    Normals (arrangedTables entries) (entries.filter fun e ↦ hasHeader e.2) := by
  cases entries with
  | nil => exact .nil
  | cons e rest =>
    obtain ⟨key, v⟩ := e
    have hrest := normals_arrangedTables rest h.2
    rw [arrangedTables, List.filter_cons]
    split
    · exact .cons ⟨rfl, normal?_arranged v h.1⟩ hrest
    · exact hrest

end

end Toml

end MeshBridge
