import MeshBridge.Proofs.Toml.Sections
/-!
The text of a document is that of its sections, with an empty line between any two (`document_eq`),
and is read back as the lines of these sections (`readsLines_document`) and as the sections
themselves (`sections_document`). Assumed is that a document can hold the values (`Legible`): the
reader bounds the paths of headers and the brackets in a line, so it takes what is nested less deep.
-/

set_option autoImplicit false
set_option relaxedAutoImplicit false

namespace MeshBridge.Toml

/-! ### Values that a document can hold -/

mutual

/-- Whether a document can hold a value under a key, if the path of a header has room for `room`
more keys. -/
def Legible (room : Nat) : Toml → Prop
  | .table entries => 0 < room ∧ (entries.map (·.1)).Nodup ∧ EntriesLegible (room - 1) entries
  | .array items =>
    if hasHeader (.array items) then 0 < room ∧ ItemsLegible (room - 1) items
    else InLine maxDepth (.array items)
  | v => InLine maxDepth v

/-- The same of the tables under a double header. -/
def ItemsLegible (room : Nat) : List Toml → Prop
  | [] => True
  | .table entries :: rest =>
    ((entries.map (·.1)).Nodup ∧ EntriesLegible room entries) ∧ ItemsLegible room rest
  | _ :: rest => ItemsLegible room rest

def EntriesLegible (room : Nat) : List (String × Toml) → Prop
  | [] => True
  | (_, v) :: rest => Legible room v ∧ EntriesLegible room rest

end

/-! ### The sections of a document -/

/-- The entries of a table that are written as lines. -/
def plainEntries (entries : List (String × Toml)) : List (String × Toml) :=
  entries.filter fun e ↦ !hasHeader e.2

def plainPairs (entries : List (String × Toml)) : List (List String × Toml) :=
  (plainEntries entries).map fun e ↦ ([e.1], e.2)

/-- Whether a table needs a header of its own, and not only headers for the tables in it. -/
def needsHeader (entries : List (String × Toml)) : Bool :=
  !(plainEntries entries).isEmpty || entries.isEmpty

def ownSections (path : List String) (isItem : Bool) (entries : List (String × Toml)) :
    List Section :=
  if isItem || needsHeader entries then [⟨some (path, isItem), plainPairs entries⟩] else []

mutual

/-- The sections that the tables among entries are written in. -/
def tableSections (path : List String) : List (String × Toml) → List Section
  | [] => []
  | (key, v) :: rest => valueSections (path ++ [key]) v ++ tableSections path rest

def valueSections (path : List String) : Toml → List Section
  | .table entries => ownSections path false entries ++ tableSections path entries
  | .array items => if hasHeader (.array items) then itemSections path items else []
  | _ => []

def itemSections (path : List String) : List Toml → List Section
  | [] => []
  | .table entries :: rest =>
    ownSections path true entries ++ tableSections path entries ++ itemSections path rest
  | _ :: rest => itemSections path rest

end

theorem plainLines_eq (entries : List (String × Toml)) :
    plainLines entries = (plainPairs entries).map pairText := by
  simp [plainLines, plainPairs, plainEntries, pairText, pathForm]

theorem blockOf_eq (path : List String) (isItem : Bool) (entries : List (String × Toml)) :
    blockOf (if isItem then "[[" ++ pathForm path ++ "]]" else "[" ++ pathForm path ++ "]") isItem
      entries = (ownSections path isItem entries).map Section.text := by
  have hlines : (plainLines entries).isEmpty = (plainEntries entries).isEmpty := by
    simp [plainLines_eq, plainPairs]
  rw [blockOf, ownSections, needsHeader, ← Bool.or_assoc, hlines, plainLines_eq]
  cases isItem
  all_goals
    split
    · simp [Section.text, headerText, String.append_assoc]
    · rfl

mutual

theorem blocks_eq (path : List String) (entries : List (String × Toml)) :
    blocks path entries = (tableSections path entries).map Section.text := by
  cases entries with
  | nil => rfl
  | cons e rest =>
    rw [blocks, tableSections, List.map_append, blocksOf_eq (path ++ [e.1]) e.2,
      blocks_eq path rest]

theorem blocksOf_eq (path : List String) (v : Toml) :
    blocksOf path v = (valueSections path v).map Section.text := by
  cases v with
  | table entries =>
    have hown := blockOf_eq path false entries
    rw [blocksOf, valueSections, List.map_append, ← hown, blocks_eq path entries]
    rfl
  | array items =>
    rw [blocksOf, valueSections]
    split
    · exact itemBlocks_eq path items
    · rfl
  | _ => rfl

theorem itemBlocks_eq (path : List String) (items : List Toml) :
    itemBlocks path items = (itemSections path items).map Section.text := by
  cases items with
  | nil => rfl
  | cons v rest =>
    have hrest := itemBlocks_eq path rest
    cases v with
    | table entries =>
      have hown := blockOf_eq path true entries
      rw [itemBlocks, itemSections, List.map_append, List.map_append, ← hown,
        blocks_eq path entries, hrest]
      rfl
    | _ => exact hrest

end

/-- The sections of the document with the given entries. -/
def documentSections (entries : List (String × Toml)) : List Section :=
  (if (plainEntries entries).isEmpty then [] else [⟨none, plainPairs entries⟩]) ++
    tableSections [] entries

theorem document_eq (entries : List (String × Toml)) :
    document entries = "\n".intercalate ((documentSections entries).map Section.text) := by
  have hfirst : (String.join (plainLines entries)).isEmpty = (plainEntries entries).isEmpty := by
    rw [plainLines_eq, plainPairs, Bool.eq_iff_iff]
    cases plainEntries entries with
    | nil => simp
    | cons e rest => simp [pairText]
  rw [document, hfirst, blocks_eq, documentSections, plainLines_eq]
  split
  · rfl
  · simp [Section.text]

/-! ### Their values and paths -/

theorem inLine_of_plain {room : Nat} {entries : List (String × Toml)}
    (h : EntriesLegible room entries) {e : String × Toml} (he : e ∈ plainEntries entries) :
    InLine maxDepth e.2 := by
  induction entries with
  | nil => cases he
  | cons d rest ih =>
    obtain ⟨hd, hrest⟩ := h
    rw [plainEntries, List.mem_filter, List.mem_cons] at he
    obtain ⟨rfl | he, hplain⟩ := he
    · rw [Bool.not_eq_true'] at hplain
      cases hv : e.2 with
      | table entries => simp [hv, hasHeader] at hplain
      | array items =>
        rw [hv] at hplain hd
        rwa [Legible, if_neg (by simp [hplain])] at hd
      | text s => trivial
      | integer n => rwa [hv] at hd
      | real x => rwa [hv] at hd
      | boolean b => trivial
      | datetime s => rwa [hv] at hd
    · exact ih hrest (List.mem_filter.2 ⟨he, hplain⟩)

/-- Whether a section has a header, and a document can hold it. -/
def Section.IsHeaded (s : Section) : Prop := s.Fits ∧ s.header ≠ none

theorem isHeaded_of_own {room : Nat} {path : List String} {entries : List (String × Toml)}
    (h : EntriesLegible room entries) (hne : path ≠ []) (hroom : path.length ≤ maxPath)
    {isItem : Bool} : ∀ s ∈ ownSections path isItem entries, s.IsHeaded := by
  intro s hs
  rw [ownSections] at hs
  split at hs
  · obtain rfl := List.mem_singleton.1 hs
    refine ⟨⟨?_, ?_⟩, nofun⟩
    · rintro _ ⟨⟩
      exact ⟨hne, hroom⟩
    · intro pair hpair
      obtain ⟨e, he, rfl⟩ := List.mem_map.1 hpair
      exact ⟨e.1, rfl, inLine_of_plain h he⟩
  · cases hs

mutual

theorem isHeaded_of_tables {room : Nat} {path : List String} (hroom : path.length + room ≤ maxPath)
    (entries : List (String × Toml)) (h : EntriesLegible room entries) :
    ∀ s ∈ tableSections path entries, s.IsHeaded := by
  cases entries with
  | nil => exact nofun
  | cons e rest =>
    intro s hs
    rw [tableSections] at hs
    rcases List.mem_append.1 hs with hs | hs
    · exact isHeaded_of_value hroom e.1 e.2 h.1 s hs
    · exact isHeaded_of_tables hroom rest h.2 s hs

theorem isHeaded_of_value {room : Nat} {path : List String} (hroom : path.length + room ≤ maxPath)
    (key : String) (v : Toml) (h : Legible room v) :
    ∀ s ∈ valueSections (path ++ [key]) v, s.IsHeaded := by
  have hlength : (path ++ [key]).length = path.length + 1 := List.length_append
  intro s hs
  cases v with
  | table entries =>
    obtain ⟨hpos, -, hentries⟩ := h
    rw [valueSections] at hs
    rcases List.mem_append.1 hs with hs | hs
    · exact isHeaded_of_own hentries (by simp) (by omega) s hs
    · exact isHeaded_of_tables (by omega) entries hentries s hs
  | array items =>
    rw [valueSections] at hs
    split at hs
    · next hheader =>
      rw [Legible, if_pos hheader] at h
      exact isHeaded_of_items (by omega) (by simp) items h.2 s hs
    · cases hs
  | _ => cases hs

theorem isHeaded_of_items {room : Nat} {path : List String} (hroom : path.length + room ≤ maxPath)
    (hne : path ≠ []) (items : List Toml) (h : ItemsLegible room items) :
    ∀ s ∈ itemSections path items, s.IsHeaded := by
  cases items with
  | nil => exact nofun
  | cons v rest =>
    intro s hs
    cases v with
    | table entries =>
      obtain ⟨⟨-, hentries⟩, hrest⟩ := h
      rw [itemSections] at hs
      rcases List.mem_append.1 hs with hs | hs
      · rcases List.mem_append.1 hs with hs | hs
        · exact isHeaded_of_own hentries hne (by omega) s hs
        · exact isHeaded_of_tables hroom entries hentries s hs
      · exact isHeaded_of_items hroom hne rest hrest s hs
    | _ => exact isHeaded_of_items hroom hne rest h s hs

end

theorem isHeaded_of_root {room : Nat} (hroom : room ≤ maxPath) {entries : List (String × Toml)}
    (h : EntriesLegible room entries) : ∀ s ∈ tableSections [] entries, s.IsHeaded :=
  isHeaded_of_tables ((Nat.zero_add room).trans_le hroom) entries h

/-! ### The text of a document -/

theorem readsLines_document {entries : List (String × Toml)} (h : EntriesLegible maxPath entries) :
    ReadsLines (document entries).toList ((documentSections entries).flatMap Section.lines) := by
  rw [document_eq]
  refine readsLines_sections fun s hs ↦ ?_
  rcases List.mem_append.1 hs with hs | hs
  · split at hs
    · cases hs
    · obtain rfl := List.mem_singleton.1 hs
      refine ⟨nofun, fun pair hpair ↦ ?_⟩
      obtain ⟨e, he, rfl⟩ := List.mem_map.1 hpair
      exact ⟨e.1, rfl, inLine_of_plain h he⟩
  · exact (isHeaded_of_root le_rfl h s hs).1

theorem sections_document {entries : List (String × Toml)} (h : EntriesLegible maxPath entries) :
    sections ⟨none, []⟩ ((documentSections entries).flatMap Section.lines) =
      ⟨none, plainPairs entries⟩ :: tableSections [] entries := by
  have hheaded : ∀ s ∈ tableSections [] entries, s.header ≠ none := fun s hs ↦
    (isHeaded_of_root le_rfl h s hs).2
  rw [documentSections, List.flatMap_append]
  split
  · next hplain =>
    have hpairs : plainPairs entries = [] := by simp [plainPairs, List.isEmpty_iff.1 hplain]
    rw [hpairs]
    exact sections_flatMap_lines hheaded ⟨none, []⟩
  · rw [List.flatMap_singleton, Section.lines, Option.toList_none, List.map_nil, List.nil_append,
      sections_pairs, sections_flatMap_lines hheaded]
    rfl

end MeshBridge.Toml
