import MeshBridge.Toml.Reader
import Mathlib.Tactic.SplitIfs
import Mathlib.Data.List.Basic
import Mathlib.Data.List.Nodup
/-!
How the tree grows. What a header opens below a path is what it opens in the table at that path
(`addTable_append`, `addItem_append`), so changes below one path combine (`changeUnder_bind`), and a
change below a new key makes the table it stands in (`changeUnder_of_not_mem`). Headers and pairs
under keys of their own add to a table at its end (`addTable_single`, `addItem_single`,
`addItem_next`, `addPairs_single`).
-/

set_option autoImplicit false
set_option relaxedAutoImplicit false

namespace MeshBridge.Toml.Node

/-! ### Nodes under keys -/

section Put

variable {key : String} {node old : Node} {entries : Entries}

theorem lookup_eq_none_of_not_mem (h : key ∉ entries.map (·.1)) : entries.lookup key = none := by
  rw [List.lookup_eq_none_iff]
  intro e he
  simpa using fun hkey : key = e.1 ↦ h (hkey ▸ List.mem_map_of_mem he)

theorem put_of_not_mem (h : key ∉ entries.map (·.1)) :
    put key node entries = entries ++ [(key, node)] := by
  induction entries with
  | nil => rfl
  | cons e entries ih =>
    obtain ⟨k, n⟩ := e
    rw [List.map_cons, List.mem_cons, not_or] at h
    rw [put, if_neg (Ne.symm h.1), ih h.2, List.cons_append]

theorem lookup_put : (put key node entries).lookup key = some node := by
  induction entries with
  | nil => simp [put]
  | cons e entries ih =>
    obtain ⟨k, n⟩ := e
    rw [put]
    split_ifs with hk
    · simp [hk]
    · rw [List.lookup_cons, beq_false_of_ne (Ne.symm hk), ih]

theorem put_put : put key node (put key old entries) = put key node entries := by
  induction entries with
  | nil => simp [put]
  | cons e entries ih =>
    obtain ⟨k, n⟩ := e
    rw [put]
    split_ifs with hk
    · simp [put, hk]
    · simp [put, hk, ih]

end Put

/-! ### Changes along a path of headers -/

/-- Changes the table at a path of headers. -/
def changeUnder (change : Entries → Option Entries) (path : List String) (entries : Entries) :
    Option Entries :=
  changeAt false (fun _ ↦ change) path false entries

section ChangeUnder

variable (change next : Entries → Option Entries)

/-- By headers it does not matter how the first table was made. -/
theorem changeAt_eq_changeUnder (path : List String) (dotted : Bool) (entries : Entries) :
    changeAt false (fun _ ↦ change) path dotted entries = changeUnder change path entries := by
  cases path with
  | nil => rfl
  | cons key path => rw [changeUnder, changeAt, changeAt]

theorem changeUnder_cons (key : String) (path : List String) (entries : Entries) :
    changeUnder change (key :: path) entries =
      match entries.lookup key with
      | none => (changeUnder change path []).map fun made ↦ put key (.table true false made) entries
      | some (.leaf _) => none
      | some (.tables items) => items.getLast?.bind fun last ↦
          (changeUnder change path last).map fun last ↦
            put key (.tables (items.dropLast ++ [last])) entries
      | some (.table implicit dotted inner) => (changeUnder change path inner).map fun inner ↦
          put key (.table implicit dotted inner) entries := by
  rw [changeUnder, changeAt]
  simp only [changeAt_eq_changeUnder, Bool.false_and, Bool.false_eq_true, if_false,
    Option.map_eq_bind]
  cases entries.lookup key with
  | none => rfl
  | some node => cases node <;> rfl

theorem changeUnder_append (path rest : List String) (entries : Entries) :
    changeUnder change (path ++ rest) entries =
      changeUnder (changeUnder change rest) path entries := by
  induction path generalizing entries with
  | nil => rfl
  | cons key path ih => simp only [List.cons_append, changeUnder_cons, ih]

/-- A change that always fails fails at every place. -/
theorem changeUnder_none (path : List String) (entries : Entries) :
    changeUnder (fun _ ↦ none) path entries = none := by
  induction path generalizing entries with
  | nil => rfl
  | cons key path ih =>
    rw [changeUnder_cons]
    split <;> simp [ih]

/-- A change below a table that was just put under its key. -/
theorem changeUnder_put_table (key : String) (path : List String) (implicit dotted : Bool)
    (inner entries : Entries) :
    changeUnder change (key :: path) (put key (.table implicit dotted inner) entries) =
      (changeUnder change path inner).map fun inner ↦
        put key (.table implicit dotted inner) entries := by
  rw [changeUnder_cons, lookup_put]
  simp only [put_put]

/-- A change below the last of some tables that were just put under their key. -/
theorem changeUnder_put_tables (key : String) (path : List String) (items : List Entries)
    (last entries : Entries) :
    changeUnder change (key :: path) (put key (.tables (items ++ [last])) entries) =
      (changeUnder change path last).map fun last ↦
        put key (.tables (items ++ [last])) entries := by
  rw [changeUnder_cons, lookup_put]
  simp only [List.getLast?_concat, List.dropLast_concat, Option.bind_some, put_put]

/-- Two changes at one place are one change. -/
theorem changeUnder_bind (path : List String) (entries : Entries) :
    (changeUnder change path entries).bind (changeUnder next path) =
      changeUnder (fun inner ↦ (change inner).bind next) path entries := by
  induction path generalizing entries with
  | nil => rfl
  | cons key path ih =>
    rw [changeUnder_cons, changeUnder_cons]
    cases entries.lookup key with
    | none =>
      dsimp only
      rw [← ih]
      cases changeUnder change path [] with
      | none => rfl
      | some made => exact changeUnder_put_table next key path true false made entries
    | some node =>
      cases node with
      | leaf v => rfl
      | tables items =>
        dsimp only
        cases items.getLast? with
        | none => rfl
        | some last =>
          rw [Option.bind_some, Option.bind_some, ← ih]
          cases changeUnder change path last with
          | none => rfl
          | some changed =>
            exact changeUnder_put_tables next key path items.dropLast changed entries
      | table implicit dotted inner =>
        dsimp only
        rw [← ih]
        cases changeUnder change path inner with
        | none => rfl
        | some changed => exact changeUnder_put_table next key path implicit dotted changed entries

variable {key : String} {entries : Entries}

theorem changeUnder_of_not_mem (hkey : key ∉ entries.map (·.1)) :
    changeUnder change [key] entries =
      (change []).map fun made ↦ entries ++ [(key, .table true false made)] := by
  rw [changeUnder_cons, lookup_eq_none_of_not_mem hkey]
  simp only [put_of_not_mem hkey]
  rfl

theorem changeUnder_table (hkey : key ∉ entries.map (·.1)) (implicit dotted : Bool)
    (inner : Entries) :
    changeUnder change [key] (entries ++ [(key, .table implicit dotted inner)]) =
      (change inner).map fun inner ↦ entries ++ [(key, .table implicit dotted inner)] := by
  simp only [← put_of_not_mem hkey, changeUnder_cons, lookup_put, put_put]
  rfl

theorem changeUnder_tables (hkey : key ∉ entries.map (·.1)) (items : List Entries)
    (last : Entries) :
    changeUnder change [key] (entries ++ [(key, .tables (items ++ [last]))]) =
      (change last).map fun last ↦ entries ++ [(key, .tables (items ++ [last]))] := by
  simp only [← put_of_not_mem hkey, changeUnder_cons, lookup_put, put_put, List.getLast?_concat,
    List.dropLast_concat]
  rfl

end ChangeUnder

/-! ### Plain values -/

/-- Plain values as entries of a table. -/
def leaves (entries : List (String × Toml)) : Entries := entries.map fun e ↦ (e.1, .leaf e.2)

theorem keys_leaves (entries : List (String × Toml)) :
    (leaves entries).map (·.1) = entries.map (·.1) := by
  simp [leaves]

theorem entriesToToml_append (entries others : Entries) :
    entriesToToml (entries ++ others) = entriesToToml entries ++ entriesToToml others := by
  induction entries with
  | nil => rfl
  | cons e entries ih => exact congrArg (_ :: ·) ih

theorem entriesToToml_leaves (entries : List (String × Toml)) :
    entriesToToml (leaves entries) = entries := by
  induction entries with
  | nil => rfl
  | cons e entries ih => exact congrArg (e :: ·) ih

theorem addPair_single {key : String} {entries : Entries} (h : key ∉ entries.map (·.1)) (v : Toml) :
    addPair entries ([key], v) = some (entries ++ [(key, .leaf v)]) := by
  simp [addPair, changeAt, lookup_eq_none_of_not_mem h]

/-- Pairs under keys of their own are added in order. -/
theorem addPairs_single {entries : Entries} {pairs : List (String × Toml)}
    (h : (entries.map (·.1) ++ pairs.map (·.1)).Nodup) :
    addPairs entries (pairs.map fun e ↦ ([e.1], e.2)) = some (entries ++ leaves pairs) := by
  induction pairs generalizing entries with
  | nil => simp [addPairs, leaves]
  | cons e pairs ih =>
    have hkey : e.1 ∉ entries.map (·.1) := by
      simp only [List.map_cons, List.nodup_append] at h
      exact fun hmem ↦ h.2.2 e.1 hmem e.1 List.mem_cons_self rfl
    have hnodup : ((entries ++ [(e.1, Node.leaf e.2)]).map (·.1) ++ pairs.map (·.1)).Nodup := by
      simpa using h
    have hrest := ih hnodup
    rw [addPairs] at hrest ⊢
    rw [List.map_cons, List.foldlM_cons, addPair_single hkey]
    simpa [leaves] using hrest

theorem addPairs_new {pairs : List (String × Toml)} (h : (pairs.map (·.1)).Nodup) :
    addPairs [] (pairs.map fun e ↦ ([e.1], e.2)) = some (leaves pairs) :=
  addPairs_single (by simpa using h)

/-! ### Tables under headers -/

theorem addTable_append (path front : List String) (key : String)
    (pairs : List (List String × Toml)) (root : Entries) :
    addTable (path ++ (front ++ [key])) pairs root =
      changeUnder (addTable (front ++ [key]) pairs) path root := by
  unfold addTable
  simp only [← List.append_assoc, List.getLast?_concat, List.dropLast_concat, Option.bind_eq_bind,
    Option.bind_some, changeAt_eq_changeUnder, changeUnder_append]

theorem addItem_append (path front : List String) (key : String)
    (pairs : List (List String × Toml)) (root : Entries) :
    addItem (path ++ (front ++ [key])) pairs root =
      changeUnder (addItem (front ++ [key]) pairs) path root := by
  unfold addItem
  simp only [← List.append_assoc, List.getLast?_concat, List.dropLast_concat, Option.bind_eq_bind,
    Option.bind_some, changeAt_eq_changeUnder, changeUnder_append]
  cases addPairs [] pairs with
  | none => exact (changeUnder_none path root).symm
  | some item => rfl

section Fresh

variable {key : String} {entries : Entries} {pairs : List (String × Toml)}

theorem addTable_single (hkey : key ∉ entries.map (·.1)) (hpairs : (pairs.map (·.1)).Nodup) :
    addTable [key] (pairs.map fun e ↦ ([e.1], e.2)) entries =
      some (entries ++ [(key, .table false false (leaves pairs))]) := by
  have hfill := addPairs_new hpairs
  have hother (k : String) (node : Node) (h : (k, node) ∈ entries) : k ≠ key := by
    rintro rfl
    exact hkey (List.mem_map_of_mem h)
  simpa [addTable, changeAt, lookup_eq_none_of_not_mem hkey, hfill] using hother

theorem addItem_single (hkey : key ∉ entries.map (·.1)) (hpairs : (pairs.map (·.1)).Nodup) :
    addItem [key] (pairs.map fun e ↦ ([e.1], e.2)) entries =
      some (entries ++ [(key, .tables [leaves pairs])]) := by
  have hfill := addPairs_new hpairs
  simp [addItem, changeAt, lookup_eq_none_of_not_mem hkey, hfill, put_of_not_mem hkey]

theorem addItem_next (items : List Entries) (hkey : key ∉ entries.map (·.1))
    (hpairs : (pairs.map (·.1)).Nodup) :
    addItem [key] (pairs.map fun e ↦ ([e.1], e.2)) (entries ++ [(key, .tables items)]) =
      some (entries ++ [(key, .tables (items ++ [leaves pairs]))]) := by
  have hfill := addPairs_new hpairs
  rw [← put_of_not_mem hkey, ← put_of_not_mem hkey]
  simp [addItem, changeAt, hfill, lookup_put, put_put]

end Fresh

end MeshBridge.Toml.Node
