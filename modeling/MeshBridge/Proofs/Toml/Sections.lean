import MeshBridge.Proofs.Toml.Values
/-!
Sections are read back from their text, line by line (`readsLines_sections`), and the lines form the
same sections (`sections_flatMap_lines`). The empty line between two sections is passed over.
-/

set_option autoImplicit false
set_option relaxedAutoImplicit false

namespace MeshBridge.Toml

/-! ### Sections as they are written -/

def headerText : List String × Bool → String
  | (path, false) => "[" ++ pathForm path ++ "]" ++ "\n"
  | (path, true) => "[[" ++ pathForm path ++ "]]" ++ "\n"

def headerLine : List String × Bool → Line
  | (path, false) => .header path
  | (path, true) => .doubleHeader path

def pairText (pair : List String × Toml) : String :=
  pathForm pair.1 ++ " = " ++ valueForm pair.2 ++ "\n"

namespace Section

def text (s : Section) : String :=
  String.join (s.header.toList.map headerText) ++ String.join (s.pairs.map pairText)

def lines (s : Section) : List Line :=
  s.header.toList.map headerLine ++ s.pairs.map fun pair ↦ .pair pair.1 pair.2

/-- Whether a document can hold a section: its paths are not too long, and its values can stand in
lines. -/
structure Fits (s : Section) : Prop where
  header : ∀ h ∈ s.header, h.1 ≠ [] ∧ h.1.length ≤ maxPath
  pairs : ∀ pair ∈ s.pairs, ∃ key, pair.1 = [key] ∧ InLine maxDepth pair.2

end Section

/-! ### Reading them back -/

theorem endLine_break (rest : List Char) : endLine ('\n' :: rest) = some rest := rfl

theorem pathForm_eq_cons {path : List String} (hne : path ≠ []) :
    ∃ first rest, (pathForm path).toList = first :: rest ∧ opensKey first = true := by
  cases path with
  | nil => exact absurd rfl hne
  | cons key path =>
    obtain ⟨first, tail, hform, hopens⟩ := keyForm_eq_cons key
    cases path with
    | nil => exact ⟨first, tail, by simp [pathForm, hform], hopens⟩
    | cons next path => exact ⟨first, _, by simp [pathForm, hform]; rfl, hopens⟩

theorem keyPath_bracket {path : List String} (hne : path ≠ []) (hlength : path.length ≤ maxPath)
    (rest : List Char) :
    keyPath maxPath ((pathForm path).toList ++ ']' :: rest) = some (path, ']' :: rest) :=
  keyPath_pathForm hne hlength (by simp; decide) (by simp [isSpace])

theorem line_header {path : List String} (hne : path ≠ []) (hlength : path.length ≤ maxPath)
    (double : Bool) (rest : List Char) :
    line ((headerText (path, double)).toList ++ rest) = some (headerLine (path, double), rest) := by
  cases double with
  | false =>
    have hread := keyPath_bracket hne hlength ('\n' :: rest)
    obtain ⟨first, tail, hform, hopens⟩ := pathForm_eq_cons hne
    have hbracket : first ≠ '[' := by rintro rfl; exact absurd hopens (by decide)
    rw [hform, List.cons_append] at hread
    simp [headerText, headerLine, line, hform, hbracket, hread, endLine_break]
  | true =>
    have hread := keyPath_bracket hne hlength (']' :: '\n' :: rest)
    simp [headerText, headerLine, line, hread, endLine_break]

theorem line_pair (key : String) {v : Toml} (hv : InLine maxDepth v) (rest : List Char) :
    line ((pairText ([key], v)).toList ++ rest) = some (.pair [key] v, rest) := by
  have hform : (pairText ([key], v)).toList ++ rest =
      (keyForm key).toList ++ ' ' :: '=' :: ' ' :: ((valueForm v).toList ++ '\n' :: rest) := by
    simp [pairText, pathForm]
  have hkey := pairKey_keyForm key (not_isSpace_of_valueForm hv ('\n' :: rest))
  have hread : value (2 * ((valueForm v).toList ++ '\n' :: rest).length + 2) maxDepth _ = _ :=
    value_valueForm v hv (by rw [List.length_append]; omega) (.lineEnd rest)
  rw [hform]
  obtain ⟨first, tail, hstart, hopens⟩ := keyForm_eq_cons key
  have hbracket : first ≠ '[' := by rintro rfl; exact absurd hopens (by decide)
  rw [hstart, List.cons_append] at hkey ⊢
  rw [line]
  · simp only [hkey, hread, Option.bind_eq_bind, Option.bind_some, endLine_break]
  · exact fun _ h ↦ hbracket (List.cons.inj h).1
  · exact fun _ h ↦ hbracket (List.cons.inj h).1

/-- The lines that are read from characters, which are at least as many, by every reader that may go
on often enough. -/
structure ReadsLines (cs : List Char) (ls : List Line) : Prop where
  length_le : ls.length ≤ cs.length
  lines_eq : ∀ fuel, ls.length < fuel → lines fuel cs = some ls

namespace ReadsLines

theorem nil : ReadsLines [] [] where
  length_le := le_rfl
  lines_eq fuel hfuel := by
    obtain ⟨fuel, rfl⟩ := Nat.exists_eq_add_one.2 hfuel
    rfl

variable {cs : List Char} {ls : List Line}

theorem skip (h : ReadsLines cs ls) : ReadsLines ('\n' :: cs) ls where
  length_le := h.length_le.trans (Nat.le_succ cs.length)
  lines_eq fuel hfuel := by
    obtain ⟨fuel, rfl⟩ := Nat.exists_eq_add_one.2 (Nat.zero_lt_of_lt hfuel)
    exact h.lines_eq (fuel + 1) hfuel

theorem cons (h : ReadsLines cs ls) {first : Char} {tail : List Char} {l : Line}
    (hopens : opensValue first = true) (hline : line (first :: (tail ++ cs)) = some (l, cs)) :
    ReadsLines (first :: (tail ++ cs)) (l :: ls) where
  length_le := by
    have hlength := h.length_le
    simp only [List.length_cons, List.length_append]
    omega
  lines_eq fuel hfuel := by
    obtain ⟨fuel, rfl⟩ := Nat.exists_eq_add_one.2 (Nat.zero_lt_of_lt hfuel)
    rw [lines, skipTrivia_of_opensValue hopens]
    simp [hline, h.lines_eq fuel (Nat.lt_of_succ_lt_succ hfuel)]

/-- What is read as lines has no byte order mark in front. -/
theorem ne_mark (h : ReadsLines cs ls) (rest : List Char) : cs ≠ '\ufeff' :: rest := by
  rintro rfl
  have hread := h.lines_eq (ls.length + 1) (Nat.lt_succ_self _)
  have hspace : isSpace '\ufeff' = false := by decide
  have hbare : isBare '\ufeff' = false := by decide
  have hpath : keyPath maxPath ('\ufeff' :: rest) = none := by
    rw [show maxPath = 78 + 1 from rfl, keyPath]
    simp [simpleKey, hspace, hbare]
  have hline : line ('\ufeff' :: rest) = none := by simp [line, pairKey, hpath]
  simp [lines, skipTrivia, hspace, hline] at hread

end ReadsLines

theorem opensValue_of_opensKey {c : Char} (h : opensKey c = true) : opensValue c = true := by
  simp only [opensKey, isBare, Bool.or_eq_true, decide_eq_true_eq] at h
  simp only [opensValue, isWordChar, Bool.or_eq_true, decide_eq_true_eq]
  tauto

theorem readsLines_header {cs : List Char} {ls : List Line} (h : ReadsLines cs ls)
    {path : List String} (hne : path ≠ []) (hlength : path.length ≤ maxPath) (double : Bool) :
    ReadsLines ((headerText (path, double)).toList ++ cs) (headerLine (path, double) :: ls) := by
  have hline := line_header hne hlength double cs
  have hform : ∃ tail, (headerText (path, double)).toList = '[' :: tail := by
    cases double <;> exact ⟨_, by simp [headerText]; rfl⟩
  obtain ⟨tail, hform⟩ := hform
  rw [hform, List.cons_append] at hline ⊢
  exact h.cons (by decide) hline

theorem readsLines_pairs {cs : List Char} {ls : List Line} (h : ReadsLines cs ls)
    {pairs : List (List String × Toml)}
    (hpairs : ∀ pair ∈ pairs, ∃ key, pair.1 = [key] ∧ InLine maxDepth pair.2) :
    ReadsLines ((String.join (pairs.map pairText)).toList ++ cs)
      ((pairs.map fun pair ↦ .pair pair.1 pair.2) ++ ls) := by
  induction pairs with
  | nil => simpa using h
  | cons pair pairs ih =>
    have hrest := ih fun p hp ↦ hpairs p (List.mem_cons_of_mem pair hp)
    obtain ⟨path, v⟩ := pair
    obtain ⟨key, rfl, hv⟩ := hpairs _ List.mem_cons_self
    have hline := line_pair key hv ((String.join (pairs.map pairText)).toList ++ cs)
    obtain ⟨first, tail, hstart, hopens⟩ := keyForm_eq_cons key
    have hform : (pairText ([key], v)).toList =
        first :: (tail ++ (" = " ++ valueForm v ++ "\n").toList) := by
      simp [pairText, pathForm, hstart]
    rw [List.map_cons, String.join_cons, String.toList_append, List.append_assoc]
    rw [hform, List.cons_append] at hline ⊢
    exact hrest.cons (opensValue_of_opensKey hopens) hline

/-- A section is read back as its lines. -/
theorem readsLines_section {cs : List Char} {ls : List Line} (h : ReadsLines cs ls) {s : Section}
    (hs : s.Fits) : ReadsLines (s.text.toList ++ cs) (s.lines ++ ls) := by
  have hpairs := readsLines_pairs h hs.pairs
  rw [Section.text, Section.lines, String.toList_append, List.append_assoc, List.append_assoc]
  cases hheader : s.header with
  | none => simpa using hpairs
  | some header =>
    obtain ⟨path, double⟩ := header
    obtain ⟨hne, hlength⟩ := hs.header _ hheader
    simpa using readsLines_header hpairs hne hlength double

theorem readsLines_sections {secs : List Section} (hsecs : ∀ s ∈ secs, s.Fits) :
    ReadsLines ("\n".intercalate (secs.map Section.text)).toList (secs.flatMap Section.lines) := by
  induction secs with
  | nil => simpa using ReadsLines.nil
  | cons s secs ih =>
    have hs := hsecs s List.mem_cons_self
    have hrest := ih fun t ht ↦ hsecs t (List.mem_cons_of_mem s ht)
    cases secs with
    | nil => simpa using readsLines_section .nil hs
    | cons next secs =>
      have hread := readsLines_section hrest.skip hs
      have hform : ("\n".intercalate ((s :: next :: secs).map Section.text)).toList =
          s.text.toList ++ '\n' :: ("\n".intercalate ((next :: secs).map Section.text)).toList := by
        simp
      rwa [hform, List.flatMap_cons]

theorem sections_pairs (begun : Section) (pairs : List (List String × Toml)) (ls : List Line) :
    sections begun ((pairs.map fun pair ↦ .pair pair.1 pair.2) ++ ls) =
      sections { begun with pairs := begun.pairs ++ pairs } ls := by
  induction pairs generalizing begun with
  | nil => simp
  | cons pair pairs ih =>
    rw [List.map_cons, List.cons_append, sections, ih]
    simp

/-- Lines form the sections again. -/
theorem sections_flatMap_lines {secs : List Section} (hsecs : ∀ s ∈ secs, s.header ≠ none)
    (begun : Section) : sections begun (secs.flatMap Section.lines) = begun :: secs := by
  induction secs generalizing begun with
  | nil => rfl
  | cons s secs ih =>
    have hrest := ih fun t ht ↦ hsecs t (List.mem_cons_of_mem s ht)
    obtain ⟨header, pairs⟩ := s
    cases header with
    | none => exact absurd rfl (hsecs _ List.mem_cons_self)
    | some header =>
      obtain ⟨path, double⟩ := header
      rw [List.flatMap_cons, Section.lines, List.append_assoc]
      cases double
      all_goals
        rw [Option.toList_some, List.map_singleton, List.singleton_append, headerLine, sections,
          sections_pairs, hrest]
        simp

end MeshBridge.Toml
