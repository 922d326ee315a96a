import MeshBridge.Proofs.Toml.Scalars
import MeshBridge.Proofs.Toml.Tree
/-!
A value that a line can hold (`InLine`) is read back from its form wherever a value may stand
(`value_valueForm`): its brackets are nested no deeper than the reader goes, its tables have keys of
their own, and its words are read back. The reader takes two steps at most for each character, which
is what bounds the fuel that it needs.
-/

set_option autoImplicit false
set_option relaxedAutoImplicit false

namespace MeshBridge.Toml

/-! ### Values that a line can hold -/

mutual

/-- Whether a line can hold a value within `depth` brackets. -/
def InLine (depth : Nat) : Toml → Prop
  | .text _ => True
  | .integer n => inRange n = some n
  | .real x => Bare (.real x)
  | .boolean _ => True
  | .datetime s => Bare (.datetime s)
  | .array items => 0 < depth ∧ ItemsInLine (depth - 1) items
  | .table entries => 0 < depth ∧ (entries.map (·.1)).Nodup ∧ EntriesInLine (depth - 1) entries

def ItemsInLine (depth : Nat) : List Toml → Prop
  | [] => True
  | item :: rest => InLine depth item ∧ ItemsInLine depth rest

def EntriesInLine (depth : Nat) : List (String × Toml) → Prop
  | [] => True
  | (_, v) :: rest => InLine depth v ∧ EntriesInLine depth rest

end

/-- What a written value can begin with. -/
def opensValue (c : Char) : Bool :=
  c = '\x22' || c = '\'' || c = '[' || c = '\x7b' || isWordChar c

theorem textForm_eq_cons (text : String) :
    ∃ first rest, (textForm text).toList = first :: rest ∧ (first = '\x22' ∨ first = '\'') := by
  unfold textForm
  simp only [String.toList_ofList]
  split_ifs
  all_goals exact ⟨_, _, rfl, by decide⟩

theorem Bare.eq_cons {v : Toml} (h : Bare v) :
    ∃ first rest, (valueForm v).toList = first :: rest ∧ opensValue first = true := by
  cases hform : (valueForm v).toList with
  | nil =>
    have hread := h.read
    rw [hform] at hread
    cases hread
  | cons first rest =>
    have hword := h.isWord first (hform ▸ List.mem_cons_self)
    exact ⟨first, rest, rfl, by simp [opensValue, hword]⟩

theorem valueForm_eq_cons {depth : Nat} {v : Toml} (hv : InLine depth v) :
    ∃ first rest, (valueForm v).toList = first :: rest ∧ opensValue first = true := by
  cases v with
  | text s =>
    obtain ⟨first, rest, hform, hquote⟩ := textForm_eq_cons s
    exact ⟨first, rest, hform, by rcases hquote with rfl | rfl <;> rfl⟩
  | integer n => exact (bare_integer hv).eq_cons
  | real x => exact Bare.eq_cons hv
  | boolean b => exact (bare_boolean b).eq_cons
  | datetime s => exact Bare.eq_cons hv
  | array items =>
    rcases items with _ | ⟨item, _ | ⟨next, items⟩⟩
    all_goals exact ⟨'[', _, by simp [valueForm]; rfl, rfl⟩
  | table entries => exact ⟨'\x7b', _, by simp [valueForm]; rfl, rfl⟩

theorem not_isSpace_of_opensValue {c : Char} (h : opensValue c = true) : isSpace c = false :=
  not_isSpace_of rfl rfl h

theorem not_isSpace_of_valueForm {depth : Nat} {v : Toml} (hv : InLine depth v) (rest : List Char) :
    ∀ c ∈ ((valueForm v).toList ++ rest).head?, isSpace c = false := by
  obtain ⟨first, tail, hform, hopens⟩ := valueForm_eq_cons hv
  rw [hform]
  rintro c ⟨⟩
  exact not_isSpace_of_opensValue hopens

theorem skipTrivia_of_opensValue {c : Char} (h : opensValue c = true) (rest : List Char) :
    skipTrivia false (c :: rest) = some (c :: rest) := by
  have hn : c ≠ '\n' := by rintro rfl; exact absurd h (by decide)
  have hr : c ≠ '\r' := by rintro rfl; exact absurd h (by decide)
  have hmark : c ≠ '#' := by rintro rfl; exact absurd h (by decide)
  simp [skipTrivia, hr, not_isSpace_of_opensValue h, hmark]

/-! ### Reading them back -/

/-- A word is read back wherever a value may stand. -/
theorem value_of_bare {v : Toml} (hv : Bare v) {depth fuel : Nat} (hfuel : 0 < fuel)
    {rest : List Char} (hstop : Stop rest) :
    value fuel depth ((valueForm v).toList ++ rest) = some (v, rest) := by
  obtain ⟨fuel, rfl⟩ := Nat.exists_eq_add_one.2 hfuel
  have hword := word_append hv.isWord hstop
  have hread := hv.read
  have hhead (c : Char) (h : isWordChar c = false) : (valueForm v).toList.head? ≠ some c := fun hc ↦
    Bool.false_ne_true (h.symm.trans (hv.isWord c (List.mem_of_mem_head? hc)))
  cases hform : (valueForm v).toList with
  | nil => rw [hform] at hread; cases hread
  | cons first tail =>
    rw [hform] at hword hread hhead
    have hbracket : first ≠ '[' := fun h ↦ hhead '[' rfl (congrArg some h)
    have hbrace : first ≠ '\x7b' := fun h ↦ hhead '\x7b' rfl (congrArg some h)
    have hdouble : first ≠ '\x22' := fun h ↦ hhead '\x22' rfl (congrArg some h)
    have hsingle : first ≠ '\'' := fun h ↦ hhead '\'' rfl (congrArg some h)
    rw [List.cons_append] at hword ⊢
    simp [value, hbracket, hbrace, hdouble, hsingle, hword, hread]

theorem value_of_text (text : String) {depth fuel : Nat} (hfuel : 0 < fuel) {rest : List Char}
    (hstop : Stop rest) :
    value fuel depth ((textForm text).toList ++ rest) = some (.text text, rest) := by
  obtain ⟨fuel, rfl⟩ := Nat.exists_eq_add_one.2 hfuel
  have hquote (q : Char) (h : q = '\x22' ∨ q = '\'') : rest.head? ≠ some q := by
    rcases h with rfl | rfl <;> cases hstop <;> simp
  have hread := quotedText_textForm text (hquote '\x22' (.inl rfl)) (hquote '\'' (.inr rfl))
  obtain ⟨first, tail, hform, hfirst⟩ := textForm_eq_cons text
  rw [hform, List.cons_append] at hread ⊢
  rcases hfirst with rfl | rfl <;> simp [value, hread]

/-- A table on one line is read from pairs that have keys of their own. -/
theorem table_of_pairs {entries : List (String × Toml)} (h : (entries.map (·.1)).Nodup) :
    (Node.addPairs [] (entries.map fun e ↦ ([e.1], e.2))).map Node.entriesToToml =
      some entries := by
  rw [Node.addPairs_new h, Option.map_some, Node.entriesToToml_leaves]

theorem items_single {v : Toml} {depth fuel : Nat} {rest : List Char} (hv : InLine depth v)
    (hread : value fuel depth ((valueForm v).toList ++ ']' :: rest) = some (v, ']' :: rest)) :
    items (fuel + 1) depth ((valueForm v).toList ++ ']' :: rest) = some ([v], rest) := by
  obtain ⟨first, tail, hform, hopens⟩ := valueForm_eq_cons hv
  rw [hform, List.cons_append] at hread ⊢
  have hbracket : first ≠ ']' := by rintro rfl; exact absurd hopens (by decide)
  rw [items, skipTrivia_of_opensValue hopens]
  simp [hbracket, hread, skipTrivia, isSpace]

theorem items_cons {v : Toml} {vs : List Toml} {depth fuel : Nat} {rest after : List Char}
    (hv : InLine depth v)
    (hread : value fuel depth ((valueForm v).toList ++ ',' :: rest) = some (v, ',' :: rest))
    (hrest : items fuel depth rest = some (vs, after)) :
    items (fuel + 1) depth ("\n    ".toList ++ (valueForm v).toList ++ ',' :: rest) =
      some (v :: vs, after) := by
  obtain ⟨first, tail, hform, hopens⟩ := valueForm_eq_cons hv
  rw [hform, List.append_assoc, List.cons_append]
  rw [hform, List.cons_append] at hread
  have hbracket : first ≠ ']' := by rintro rfl; exact absurd hopens (by decide)
  have hskip : skipTrivia false ("\n    ".toList ++ first :: (tail ++ ',' :: rest)) =
      some (first :: (tail ++ ',' :: rest)) := skipTrivia_of_opensValue hopens _
  rw [items, hskip]
  simp [hbracket, hread, hrest, skipTrivia, isSpace]

/-- A pair is read with its value, and then what closes the table or parts it from the next one. -/
theorem pairs_cons {key : String} {v : Toml} {depth fuel : Nat} {rest : List Char} (first : Bool)
    (hv : InLine depth v)
    (hread : value fuel depth ((valueForm v).toList ++ rest) = some (v, rest)) :
    pairs (fuel + 1) depth first
        ((keyForm key).toList ++ ' ' :: '=' :: ' ' :: ((valueForm v).toList ++ rest)) =
      match rest.dropWhile isSpace with
      | '\x7d' :: rest => some ([([key], v)], rest)
      | ',' :: rest =>
        (pairs fuel depth false (rest.dropWhile isSpace)).bind fun found ↦
          some (([key], v) :: found.1, found.2)
      | _ => none := by
  have hkey := pairKey_keyForm key (not_isSpace_of_valueForm hv rest)
  obtain ⟨start, tail, hform, hopens⟩ := keyForm_eq_cons key
  have hbrace : start ≠ '\x7d' := by rintro rfl; exact absurd hopens (by decide)
  rw [hform, List.cons_append] at hkey ⊢
  rw [pairs]
  · rw [hkey]
    show ((value fuel depth _).bind _) = _
    rw [hread]
    rfl
  · rintro tail - ⟨⟩
    exact hbrace rfl

theorem exists_succ_of_two_mul_le {n fuel : Nat} (hfuel : 2 * (n + 1) ≤ fuel) :
    ∃ less, fuel = less + 2 ∧ 2 * n ≤ less := ⟨fuel - 2, by omega, by omega⟩

mutual

/-- A value that a line can hold is read back from its form. -/
theorem value_valueForm (v : Toml) {depth fuel : Nat} {rest : List Char} (hv : InLine depth v)
    (hfuel : 2 * (valueForm v).toList.length ≤ fuel) (hstop : Stop rest) :
    value fuel depth ((valueForm v).toList ++ rest) = some (v, rest) := by
  have hpos : 0 < fuel := by
    obtain ⟨first, tail, hform, -⟩ := valueForm_eq_cons hv
    rw [hform, List.length_cons] at hfuel
    omega
  cases v with
  | text s => exact value_of_text s hpos hstop
  | integer n => exact value_of_bare (bare_integer hv) hpos hstop
  | real x => exact value_of_bare hv hpos hstop
  | boolean b => exact value_of_bare (bare_boolean b) hpos hstop
  | datetime s => exact value_of_bare hv hpos hstop
  | array items =>
    rcases items with _ | ⟨item, _ | ⟨next, vs⟩⟩
    · obtain ⟨hdepth, -⟩ := hv
      obtain ⟨depth, rfl⟩ := Nat.exists_eq_add_one.2 hdepth
      rw [valueForm] at hfuel
      obtain ⟨fuel, rfl, -⟩ := exists_succ_of_two_mul_le hfuel
      simp [valueForm, value, items, skipTrivia, isSpace]
    · obtain ⟨hdepth, hitem, -⟩ := hv
      obtain ⟨depth, rfl⟩ := Nat.exists_eq_add_one.2 hdepth
      have hform : (valueForm (.array [item])).toList =
          '[' :: ((valueForm item).toList ++ [']']) := by
        simp [valueForm]
      rw [hform, List.length_cons, List.length_append] at hfuel
      obtain ⟨fuel, rfl, hless⟩ := exists_succ_of_two_mul_le hfuel
      have hread : value fuel depth _ = _ := value_valueForm item hitem (by omega) (.bracket rest)
      have hitems := items_single hitem hread
      rw [Nat.add_sub_cancel] at hitems
      rw [hform, List.cons_append, List.append_assoc, value]
      simp [hitems]
    · obtain ⟨hdepth, hitems⟩ := hv
      obtain ⟨depth, rfl⟩ := Nat.exists_eq_add_one.2 hdepth
      have hform : (valueForm (.array (item :: next :: vs))).toList =
          '[' :: ((itemForms (item :: next :: vs)).toList ++ ['\n', ']']) := by
        simp [valueForm]
      rw [hform, List.length_cons, List.length_append] at hfuel
      obtain ⟨fuel, rfl, hless⟩ := exists_succ_of_two_mul_le hfuel
      have hread : items (fuel + 1) depth _ = _ :=
        items_itemForms (item :: next :: vs) rest hitems (by omega)
      rw [hform, List.cons_append, List.append_assoc, value]
      simp [hread]
  | table entries =>
    obtain ⟨hdepth, hkeys, hentries⟩ := hv
    obtain ⟨depth, rfl⟩ := Nat.exists_eq_add_one.2 hdepth
    have hform : (valueForm (.table entries)).toList =
        '\x7b' :: ((entryForms entries).toList ++ ['\x7d']) := by
      simp [valueForm]
    rw [hform, List.length_cons, List.length_append] at hfuel
    obtain ⟨fuel, rfl, hless⟩ := exists_succ_of_two_mul_le hfuel
    have hread : pairs (fuel + 1) depth true _ = _ :=
      pairs_entryForms entries true rest (fun _ ↦ rfl) hentries (by omega)
    obtain ⟨nodes, hadd, htoml⟩ := Option.map_eq_some_iff.1 (table_of_pairs hkeys)
    rw [hform, List.cons_append, List.append_assoc, value]
    simp [hread, hadd, htoml]

/-- Values on lines of their own are read back up to the bracket that closes them. -/
theorem items_itemForms (vs : List Toml) {depth fuel : Nat} (rest : List Char)
    (hvs : ItemsInLine depth vs) (hfuel : 2 * (itemForms vs).toList.length < fuel) :
    items fuel depth ((itemForms vs).toList ++ '\n' :: ']' :: rest) = some (vs, rest) := by
  obtain ⟨fuel, rfl⟩ := Nat.exists_eq_add_one.2 (Nat.zero_lt_of_lt hfuel)
  cases vs with
  | nil => simp [itemForms, items, skipTrivia, isSpace]
  | cons v vs =>
    obtain ⟨hv, hvs⟩ := hvs
    have hform : (itemForms (v :: vs)).toList =
        "\n    ".toList ++ (valueForm v).toList ++ ',' :: (itemForms vs).toList := by
      simp [itemForms]
    rw [hform] at hfuel ⊢
    simp only [List.length_append, List.length_cons] at hfuel
    have hrest : items fuel depth _ = _ := items_itemForms vs rest hvs (by omega)
    have hread : value fuel depth _ = _ :=
      value_valueForm v hv (by omega) (.comma ((itemForms vs).toList ++ '\n' :: ']' :: rest))
    have hitems := items_cons hv hread hrest
    simpa using hitems

/-- Pairs on one line are read back up to the brace that closes them, which only stands first if
there are none. -/
theorem pairs_entryForms (entries : List (String × Toml)) {depth fuel : Nat} (first : Bool)
    (rest : List Char) (hfirst : entries = [] → first = true)
    (hentries : EntriesInLine depth entries)
    (hfuel : 2 * (entryForms entries).toList.length < fuel) :
    pairs fuel depth first (((entryForms entries).toList ++ '\x7d' :: rest).dropWhile isSpace) =
      some (entries.map fun e ↦ ([e.1], e.2), rest) := by
  obtain ⟨fuel, rfl⟩ := Nat.exists_eq_add_one.2 (Nat.zero_lt_of_lt hfuel)
  rcases entries with _ | ⟨⟨key, v⟩, _ | ⟨next, entries⟩⟩
  · obtain rfl := hfirst rfl
    simp [entryForms, pairs, isSpace]
  · obtain ⟨hv, -⟩ := hentries
    have hform : (entryForms [(key, v)]).toList ++ '\x7d' :: rest =
        ' ' :: ((keyForm key).toList ++ ' ' :: '=' :: ' ' ::
          ((valueForm v).toList ++ ' ' :: '\x7d' :: rest)) := by
      simp [entryForms]
    have hlength := congrArg List.length hform
    simp only [List.length_append, List.length_cons] at hlength
    have hread : value fuel depth _ = _ := value_valueForm v hv (by omega) (.brace rest)
    rw [hform, List.dropWhile_cons_of_pos rfl, dropWhile_keyForm, pairs_cons first hv hread]
    simp [isSpace]
  · obtain ⟨hv, hentries⟩ := hentries
    have hform : (entryForms ((key, v) :: next :: entries)).toList ++ '\x7d' :: rest =
        ' ' :: ((keyForm key).toList ++ ' ' :: '=' :: ' ' :: ((valueForm v).toList ++
          ',' :: ((entryForms (next :: entries)).toList ++ '\x7d' :: rest))) := by
      simp [entryForms]
    have hlength := congrArg List.length hform
    simp only [List.length_append, List.length_cons] at hlength
    have hread : value fuel depth _ = _ := value_valueForm v hv (by omega)
      (.comma ((entryForms (next :: entries)).toList ++ '\x7d' :: rest))
    have hrest : pairs fuel depth false _ = _ :=
      pairs_entryForms (next :: entries) false rest nofun hentries (by omega)
    rw [hform, List.dropWhile_cons_of_pos rfl, dropWhile_keyForm, pairs_cons first hv hread]
    simp [isSpace, hrest]

end

end MeshBridge.Toml
