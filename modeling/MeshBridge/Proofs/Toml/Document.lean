import MeshBridge.Proofs.Toml.Layout
/-!
A document is read back from its text (`parse_document`). What is read is not quite what was
written: in a table under a header the plain values come first, then the tables, either in their
order (`arranged`). The sections below a path change the table at that path only (`foldlM_under`),
so the tree is followed table by table, each one growing from its own section and from those of its
tables.
-/

set_option autoImplicit false
set_option relaxedAutoImplicit false

namespace MeshBridge.Toml

/-! ### Sections below a path -/

/-- The section whose header has a path in front. -/
def Section.under (path : List String) (s : Section) : Section :=
  { s with header := s.header.map fun header ↦ (path ++ header.1, header.2) }

theorem ownSections_append (path rest : List String) (isItem : Bool)
    (entries : List (String × Toml)) :
    ownSections (path ++ rest) isItem entries =
      (ownSections rest isItem entries).map (Section.under path) := by
  rw [ownSections, ownSections]
  split <;> rfl

mutual

theorem tableSections_append (path rest : List String) (entries : List (String × Toml)) :
    tableSections (path ++ rest) entries =
      (tableSections rest entries).map (Section.under path) := by
  cases entries with
  | nil => rfl
  | cons e entries =>
    have hvalue := valueSections_append path (rest ++ [e.1]) e.2
    rw [← List.append_assoc] at hvalue
    rw [tableSections, tableSections, hvalue, tableSections_append path rest entries,
      List.map_append]

theorem valueSections_append (path rest : List String) (v : Toml) :
    valueSections (path ++ rest) v = (valueSections rest v).map (Section.under path) := by
  cases v with
  | table entries =>
    rw [valueSections, valueSections, ownSections_append, tableSections_append path rest entries,
      List.map_append]
  | array items =>
    rw [valueSections, valueSections]
    split
    · exact itemSections_append path rest items
    · rfl
  | _ => rfl

theorem itemSections_append (path rest : List String) (items : List Toml) :
    itemSections (path ++ rest) items = (itemSections rest items).map (Section.under path) := by
  cases items with
  | nil => rfl
  | cons v items =>
    have hitems := itemSections_append path rest items
    cases v with
    | table entries =>
      rw [itemSections, itemSections, ownSections_append, tableSections_append path rest entries,
        hitems, List.map_append, List.map_append]
    | _ => exact hitems

end

open Toml.Node (changeUnder)

theorem addSection_under {s : Section} (hs : s.IsHeaded) (path : List String)
    (root : Node.Entries) :
    addSection root (s.under path) = changeUnder (addSection · s) path root := by
  obtain ⟨header, pairs⟩ := s
  obtain ⟨⟨hheader, -⟩, hnone⟩ := hs
  cases header with
  | none => exact absurd rfl hnone
  | some header =>
    obtain ⟨names, double⟩ := header
    obtain ⟨front, key, rfl⟩ := (List.eq_nil_or_concat names).resolve_left (hheader _ rfl).1
    rw [List.concat_eq_append]
    cases double with
    | false => exact Node.addTable_append path front key pairs root
    | true => exact Node.addItem_append path front key pairs root

/-- Sections below a path change the table at that path and nothing else. -/
theorem foldlM_under {secs : List Section} (hne : secs ≠ []) (hsecs : ∀ s ∈ secs, s.IsHeaded)
    (path : List String) (root : Node.Entries) :
    (secs.map (Section.under path)).foldlM addSection root =
      changeUnder (secs.foldlM addSection ·) path root := by
  induction secs generalizing root with
  | nil => exact absurd rfl hne
  | cons s secs ih =>
    have hs := hsecs s List.mem_cons_self
    rw [List.map_cons, List.foldlM_cons, addSection_under hs]
    cases secs with
    | nil => simp only [List.map_nil, List.foldlM_cons, List.foldlM_nil, bind_pure]
    | cons next secs =>
      have hrest := ih (List.cons_ne_nil _ _) fun t ht ↦ hsecs t (List.mem_cons_of_mem s ht)
      simp only [hrest, Option.bind_eq_bind]
      exact Node.changeUnder_bind (addSection · s) ((next :: secs).foldlM addSection ·) path root

section Below

variable {secs : List Section} (hsecs : ∀ s ∈ secs, s.IsHeaded) {key : String} {root : Node.Entries}
  (hkey : key ∉ root.map (·.1))

include hsecs hkey

theorem foldlM_under_new (hne : secs ≠ []) :
    (secs.map (Section.under [key])).foldlM addSection root =
      (secs.foldlM addSection []).map fun made ↦ root ++ [(key, .table true false made)] := by
  rw [foldlM_under hne hsecs, Node.changeUnder_of_not_mem _ hkey]

theorem foldlM_under_table (implicit dotted : Bool) (inner : Node.Entries) :
    (secs.map (Section.under [key])).foldlM addSection
        (root ++ [(key, .table implicit dotted inner)]) =
      (secs.foldlM addSection inner).map fun inner ↦
        root ++ [(key, .table implicit dotted inner)] := by
  by_cases hne : secs = []
  · subst hne
    rfl
  · rw [foldlM_under hne hsecs, Node.changeUnder_table _ hkey]

theorem foldlM_under_tables (done : List Node.Entries) (last : Node.Entries) :
    (secs.map (Section.under [key])).foldlM addSection (root ++ [(key, .tables (done ++ [last]))]) =
      (secs.foldlM addSection last).map fun last ↦ root ++ [(key, .tables (done ++ [last]))] := by
  by_cases hne : secs = []
  · subst hne
    rfl
  · rw [foldlM_under hne hsecs, Node.changeUnder_tables _ hkey]

end Below

theorem valueSections_of_plain (path : List String) {v : Toml} (hplain : hasHeader v = false) :
    valueSections path v = [] := by
  cases v with
  | table entries => cases hplain
  | array items => rw [valueSections, if_neg (by simp [hplain])]
  | _ => rfl

mutual

/-- A value under headers has at least one section. -/
theorem valueSections_ne_nil (path : List String) (v : Toml) (hheader : hasHeader v = true) :
    valueSections path v ≠ [] := by
  cases v with
  | table entries =>
    rw [valueSections, ownSections, Bool.false_or]
    split
    · exact List.cons_ne_nil _ _
    · next hneeds => exact tableSections_ne_nil path entries (by simpa using hneeds)
  | array items =>
    rw [valueSections, if_pos hheader]
    cases items with
    | nil => cases hheader
    | cons v rest =>
      cases v with
      | table entries =>
        rw [itemSections, ownSections, Bool.true_or, if_pos rfl]
        exact List.cons_ne_nil _ _
      | _ => cases hheader
  | _ => cases hheader

theorem tableSections_ne_nil (path : List String) (entries : List (String × Toml))
    (hneeds : needsHeader entries = false) : tableSections path entries ≠ [] := by
  cases entries with
  | nil => cases hneeds
  | cons e rest =>
    obtain ⟨key, v⟩ := e
    have hheader : hasHeader v = true := by
      by_contra hplain
      simp [needsHeader, plainEntries, hplain] at hneeds
    rw [tableSections]
    exact List.append_ne_nil_of_left_ne_nil (valueSections_ne_nil (path ++ [key]) v hheader) _

end

/-! ### The tree that a document grows -/

mutual

/-- The node of a value under headers, made by its sections. -/
def nodeOf : Toml → Node
  | .table entries =>
    .table (!needsHeader entries) false (Node.leaves (plainEntries entries) ++ headedNodes entries)
  | .array items => .tables (itemNodes items)
  | v => .leaf v

def headedNodes : List (String × Toml) → Node.Entries
  | [] => []
  | (key, v) :: rest =>
    if hasHeader v then (key, nodeOf v) :: headedNodes rest else headedNodes rest

def itemNodes : List Toml → List Node.Entries
  | [] => []
  | .table entries :: rest =>
    (Node.leaves (plainEntries entries) ++ headedNodes entries) :: itemNodes rest
  | _ :: rest => itemNodes rest

end

/-- No table has the key of a plain value beside it. -/
theorem not_mem_leaves {entries : List (String × Toml)} (hkeys : (entries.map (·.1)).Nodup)
    {e : String × Toml} (he : e ∈ entries) (hheader : hasHeader e.2 = true) :
    e.1 ∉ (Node.leaves (plainEntries entries)).map (·.1) := by
  rw [Node.keys_leaves]
  intro hmem
  obtain ⟨d, hd, hsame⟩ := List.mem_map.1 hmem
  obtain ⟨hd, hplain⟩ := List.mem_filter.1 hd
  obtain rfl : d = e := List.inj_on_of_nodup_map hkeys hd he hsame
  simp [hheader] at hplain

theorem nodup_plainEntries {entries : List (String × Toml)} (hkeys : (entries.map (·.1)).Nodup) :
    ((plainEntries entries).map (·.1)).Nodup :=
  hkeys.sublist ((List.filter_sublist (l := entries)).map _)

/-- The sections below the header of one table. -/
theorem tableSections_below (key : String) (entries : List (String × Toml)) :
    tableSections [key] entries = (tableSections [] entries).map (Section.under [key]) :=
  tableSections_append [key] [] entries

theorem addSection_item {key : String} {root start : Node.Entries} {done : List Node.Entries}
    {entries : List (String × Toml)} (hkey : key ∉ root.map (·.1))
    (hstart : start = root ∧ done = [] ∨ start = root ++ [(key, .tables done)])
    (hkeys : (entries.map (·.1)).Nodup) :
    addSection start ⟨some ([key], true), plainPairs entries⟩ =
      some (root ++ [(key, .tables (done ++ [Node.leaves (plainEntries entries)]))]) := by
  obtain ⟨rfl, rfl⟩ | rfl := hstart
  · exact Node.addItem_single hkey (nodup_plainEntries hkeys)
  · exact Node.addItem_next done hkey (nodup_plainEntries hkeys)

mutual

/-- The sections of the tables among entries grow the nodes of these tables, in order. -/
theorem foldlM_tableSections {room : Nat} (entries : List (String × Toml))
    (h : EntriesLegible room entries) (hroom : room ≤ maxPath) (hkeys : (entries.map (·.1)).Nodup)
    {root : Node.Entries} (hroot : ∀ e ∈ entries, hasHeader e.2 = true → e.1 ∉ root.map (·.1)) :
    (tableSections [] entries).foldlM addSection root = some (root ++ headedNodes entries) := by
  cases entries with
  | nil => simp [tableSections, headedNodes]
  | cons e rest =>
    obtain ⟨key, v⟩ := e
    obtain ⟨hv, hrest⟩ := h
    rw [List.map_cons, List.nodup_cons] at hkeys
    have hbefore := fun e he ↦ hroot e (List.mem_cons_of_mem _ he)
    rw [tableSections, List.foldlM_append, headedNodes]
    split
    · next hheader =>
      have hkey := hroot (key, v) List.mem_cons_self hheader
      have hvalue := foldlM_valueSections key v hv hroom hheader hkey
      have hafter : ∀ e ∈ rest, hasHeader e.2 = true →
          e.1 ∉ (root ++ [(key, nodeOf v)]).map (·.1) := by
        intro e he hheader hmem
        rw [List.map_append, List.mem_append, List.map_singleton, List.mem_singleton] at hmem
        rcases hmem with hmem | rfl
        · exact hbefore e he hheader hmem
        · exact hkeys.1 (List.mem_map_of_mem (f := (·.1)) he)
      have htables := foldlM_tableSections rest hrest hroom hkeys.2 hafter
      rw [List.nil_append, hvalue]
      simpa using htables
    · next hheader =>
      rw [valueSections_of_plain _ (by simpa using hheader)]
      exact foldlM_tableSections rest hrest hroom hkeys.2 hbefore

theorem foldlM_valueSections {room : Nat} (key : String) (v : Toml) (h : Legible room v)
    (hroom : room ≤ maxPath) (hheader : hasHeader v = true) {root : Node.Entries}
    (hkey : key ∉ root.map (·.1)) :
    (valueSections [key] v).foldlM addSection root = some (root ++ [(key, nodeOf v)]) := by
  cases v with
  | table entries =>
    obtain ⟨-, hkeys, hentries⟩ := h
    have hless : room - 1 ≤ maxPath := (Nat.sub_le room 1).trans hroom
    have hsecs := isHeaded_of_root hless hentries
    rw [valueSections, List.foldlM_append, ownSections, Bool.false_or, nodeOf, tableSections_below]
    cases hneeds : needsHeader entries with
    | true =>
      have hown : addSection root ⟨some ([key], false), plainPairs entries⟩ = _ :=
        Node.addTable_single hkey (nodup_plainEntries hkeys)
      have hinner := foldlM_tableSections entries hentries hless hkeys fun e he hheader ↦
        not_mem_leaves hkeys he hheader
      rw [if_pos rfl, List.foldlM_cons, hown]
      simp [foldlM_under_table hsecs hkey, hinner]
    | false =>
      have hplain : plainEntries entries = [] := by simp_all [needsHeader]
      have hne := tableSections_ne_nil [] entries hneeds
      have hinner : (tableSections [] entries).foldlM addSection [] = _ :=
        foldlM_tableSections entries hentries hless hkeys fun _ _ _ ↦ List.not_mem_nil
      rw [if_neg Bool.false_ne_true]
      simp [foldlM_under_new hsecs hkey hne, hinner, hplain, Node.leaves]
  | array items =>
    rw [Legible, if_pos hheader] at h
    have hless : room - 1 < maxPath := by omega
    have hitems : items ≠ [] ∧ items.all isTable = true := by
      cases items with
      | nil => cases hheader
      | cons v rest => exact ⟨List.cons_ne_nil v rest, hheader⟩
    have hgrown := foldlM_itemSections key items h.2 hless hitems.2 hkey (.inl ⟨rfl, rfl, hitems.1⟩)
    rw [valueSections, if_pos hheader, nodeOf, hgrown, List.nil_append]
  | _ => cases hheader

theorem foldlM_itemSections {room : Nat} (key : String) (items : List Toml)
    (h : ItemsLegible room items) (hroom : room < maxPath) (hitems : items.all isTable = true)
    {root start : Node.Entries} (hkey : key ∉ root.map (·.1)) {done : List Node.Entries}
    (hstart : start = root ∧ done = [] ∧ items ≠ [] ∨ start = root ++ [(key, .tables done)]) :
    (itemSections [key] items).foldlM addSection start =
      some (root ++ [(key, .tables (done ++ itemNodes items))]) := by
  cases items with
  | nil =>
    obtain ⟨-, -, hne⟩ | rfl := hstart
    · exact absurd rfl hne
    · simp [itemSections, itemNodes]
  | cons v rest =>
    cases v with
    | table entries =>
      obtain ⟨⟨hkeys, hentries⟩, hrest⟩ := h
      have hsecs := isHeaded_of_root hroom.le hentries
      have hown := addSection_item hkey (hstart.imp_left fun h ↦ ⟨h.1, h.2.1⟩) hkeys
      have hinner := foldlM_tableSections entries hentries hroom.le hkeys fun e he hheader ↦
        not_mem_leaves hkeys he hheader
      have hrest (done : List Node.Entries) : (itemSections [key] rest).foldlM addSection _ = _ :=
        foldlM_itemSections key rest hrest hroom (Bool.and_eq_true_iff.1 hitems).2 hkey
          (.inr (rfl : root ++ [(key, .tables done)] = _))
      rw [itemSections, List.foldlM_append, List.foldlM_append, ownSections, Bool.true_or,
        if_pos rfl, List.foldlM_cons, hown, tableSections_below, itemNodes]
      simp [foldlM_under_tables hsecs hkey, hinner, hrest]
    | _ => cases hitems

end

/-! ### What is read back -/

mutual

/-- A value as it is read back from a document: in each table that is written under a header the
plain values come first. -/
def arranged : Toml → Toml
  | .table entries => .table (plainEntries entries ++ arrangedTables entries)
  | .array items => if hasHeader (.array items) then .array (arrangedItems items) else .array items
  | v => v

def arrangedTables : List (String × Toml) → List (String × Toml)
  | [] => []
  | (key, v) :: rest =>
    if hasHeader v then (key, arranged v) :: arrangedTables rest else arrangedTables rest

def arrangedItems : List Toml → List Toml
  | [] => []
  | .table entries :: rest =>
    .table (plainEntries entries ++ arrangedTables entries) :: arrangedItems rest
  | _ :: rest => arrangedItems rest

end

mutual

theorem toToml_nodeOf (v : Toml) (hheader : hasHeader v = true) :
    (nodeOf v).toToml = arranged v := by
  cases v with
  | table entries =>
    rw [nodeOf, Node.toToml, Node.entriesToToml_append, Node.entriesToToml_leaves,
      entriesToToml_headedNodes entries, arranged]
  | array items => rw [nodeOf, Node.toToml, itemsToToml_itemNodes items, arranged, if_pos hheader]
  | _ => rfl

theorem entriesToToml_headedNodes (entries : List (String × Toml)) :
    Node.entriesToToml (headedNodes entries) = arrangedTables entries := by
  cases entries with
  | nil => rfl
  | cons e rest =>
    obtain ⟨key, v⟩ := e
    rw [headedNodes, arrangedTables]
    split
    · next hheader =>
      rw [Node.entriesToToml, toToml_nodeOf v hheader, entriesToToml_headedNodes rest]
    · exact entriesToToml_headedNodes rest

theorem itemsToToml_itemNodes (items : List Toml) :
    Node.itemsToToml (itemNodes items) = arrangedItems items := by
  cases items with
  | nil => rfl
  | cons v rest =>
    have hrest := itemsToToml_itemNodes rest
    cases v with
    | table entries =>
      rw [itemNodes, Node.itemsToToml, Node.entriesToToml_append, Node.entriesToToml_leaves,
        entriesToToml_headedNodes entries, hrest, arrangedItems]
    | _ => exact hrest

end

/-- A document is read back from its text as it was written, but for the order of tables. -/
theorem parse_document {entries : List (String × Toml)} (h : EntriesLegible maxPath entries)
    (hkeys : (entries.map (·.1)).Nodup) :
    parse (document entries) = .ok (arranged (.table entries)) := by
  have hread := readsLines_document h
  have hlines := hread.lines_eq _ (Nat.lt_succ_of_le hread.length_le)
  have hplain : addSection [] ⟨none, plainPairs entries⟩ =
      some (Node.leaves (plainEntries entries)) := Node.addPairs_new (nodup_plainEntries hkeys)
  have hgrown := foldlM_tableSections entries h le_rfl hkeys fun e he hheader ↦
    not_mem_leaves hkeys he hheader
  have htext : ofText? (document entries) = some (arranged (.table entries)) := by
    rw [ofText?]
    split
    · next heq => exact absurd heq (hread.ne_mark _)
    · rw [hlines]
      simp [sections_document h, hplain, hgrown, arranged, Node.entriesToToml_append,
        Node.entriesToToml_leaves, entriesToToml_headedNodes]
  rw [parse, htext]

end MeshBridge.Toml
