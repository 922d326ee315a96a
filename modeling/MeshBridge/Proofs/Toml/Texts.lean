import MeshBridge.Toml.Reader
import MeshBridge.Toml.Writer
import Mathlib.Data.List.Infix
/-!
Texts and keys are read back from the forms they are written in, whatever stands behind them but a
character that would go on with them (`quotedText_textForm`, `simpleKey_keyForm`), and so are paths
of keys (`keyPath_pathForm`). A written text never holds three quotes of the kind that closes it: an
escaped one escapes every third quote in a row (`multiBasic_escapeLines`), and a literal one is
chosen only if no run of quotes is that long (`lt_longestRun`).
-/

set_option autoImplicit false
set_option relaxedAutoImplicit false

namespace MeshBridge.Toml

/-! ### Escapes -/

/-- What satisfies a test that no blank satisfies is no blank. -/
theorem not_isSpace_of {p : Char → Bool} (hblank : p ' ' = false) (htab : p '\t' = false)
    {c : Char} (h : p c = true) : isSpace c = false := by
  by_contra hspace
  simp only [isSpace, Bool.not_eq_false, Bool.or_eq_true, decide_eq_true_eq] at hspace
  rcases hspace with rfl | rfl
  · exact Bool.false_ne_true (hblank.symm.trans h)
  · exact Bool.false_ne_true (htab.symm.trans h)

theorem ne_of_shortEscape? {mark c d : Char} (hmark : shortEscape? mark = some c)
    (hd : shortEscape? d = none) : mark ≠ d := by
  rintro rfl
  rw [hmark] at hd
  cases hd

theorem scalar?_fixed {c : Char} (h : c.toNat < Nat.pow 16 4) :
    scalar? (Hex.fixed .upper 4 c.toNat) = some c := by
  rw [scalar?, Hex.value?_fixed .upper h]
  exact dif_pos (show c.toNat.isValidChar from c.valid)

/-- What a character is escaped by. -/
inductive Escaped (c : Char) : List Char → Prop
  | self (hplain : isPlain c = true) (hquote : c ≠ '\x22') (hslash : c ≠ '\x5c') : Escaped c [c]
  | short (mark : Char) (hread : shortEscape? mark = some c) : Escaped c ['\x5c', mark]
  | digits (a b d e : Char) (hread : scalar? [a, b, d, e] = some c) :
      Escaped c ['\x5c', 'u', a, b, d, e]

theorem escaped_escape (c : Char) : Escaped c (escape c) := by
  unfold escape
  split_ifs with h₁ h₂ h₃ h₄ h₅ h₆ h₇ hplain
  · exact .short 'b' (by rw [h₁]; rfl)
  · exact .short 't' (by rw [h₂]; rfl)
  · exact .short 'n' (by rw [h₃]; rfl)
  · exact .short 'f' (by rw [h₄]; rfl)
  · exact .short 'r' (by rw [h₅]; rfl)
  · exact .short '\x22' (by rw [h₆]; rfl)
  · exact .short '\x5c' (by rw [h₇]; rfl)
  · exact .self hplain h₆ h₇
  · have hsmall : c.toNat < Nat.pow 16 4 := by
      have hpow : Nat.pow 16 4 = 65536 := rfl
      simp only [isPlain, Bool.or_eq_true, Bool.and_eq_true, decide_eq_true_eq, not_or, not_and,
        not_not] at hplain
      omega
    exact .digits _ _ _ _ (scalar?_fixed hsmall)

theorem escape_eq_cons (c : Char) :
    ∃ first rest, escape c = first :: rest ∧ first ≠ '\x22' ∧ first ≠ '\n' ∧ first ≠ '\r' := by
  have he := escaped_escape c
  generalize escape c = e at he ⊢
  cases he with
  | self hplain hquote _ =>
    refine ⟨c, [], rfl, hquote, ?_, ?_⟩ <;> (rintro rfl; exact absurd hplain (by decide))
  | short => exact ⟨_, _, rfl, by decide, by decide, by decide⟩
  | digits => exact ⟨_, _, rfl, by decide, by decide, by decide⟩

theorem basic_escape (c : Char) (rest : List Char) :
    basic (escape c ++ rest) = (basic rest).push (some c) := by
  have he := escaped_escape c
  generalize escape c = e at he
  cases he with
  | self hplain hquote hslash => simp [basic, hplain, hslash]
  | short mark hread =>
    have hu : mark ≠ 'u' := ne_of_shortEscape? hread rfl
    have hU : mark ≠ 'U' := ne_of_shortEscape? hread rfl
    simp [basic, hu, hU, hread]
  | digits a b d e hread => simp [basic, hread]

theorem basic_flatMap_escape (cs rest : List Char) :
    basic (cs.flatMap escape ++ '\x22' :: rest) = some (cs, rest) := by
  induction cs with
  | nil => rfl
  | cons c cs ih => rw [List.flatMap_cons, List.append_assoc, basic_escape, ih]; rfl

theorem literal_append {cs : List Char} (rest : List Char)
    (hcs : ∀ c ∈ cs, isPlain c = true ∧ c ≠ '\'') :
    literal (cs ++ '\'' :: rest) = some (cs, rest) := by
  induction cs with
  | nil => rfl
  | cons c cs ih =>
    obtain ⟨hplain, hquote⟩ := hcs c List.mem_cons_self
    simp [literal, hplain, ih fun d hd ↦ hcs d (List.mem_cons_of_mem c hd), Read.push]

theorem multiBasic_cons {c : Char} {rest : List Char} (hplain : isPlain c = true ∨ c = '\n')
    (hslash : c ≠ '\x5c') (hquote : c = '\x22' → ¬ ['\x22', '\x22'] <+: rest) :
    multiBasic false (c :: rest) = (multiBasic false rest).push (some c) := by
  have hr : c ≠ '\r' := by rintro rfl; exact absurd hplain (by decide)
  rw [multiBasic.eq_def]
  split <;> grind

theorem multiBasic_escape (c : Char) (rest : List Char) :
    multiBasic false (escape c ++ rest) = (multiBasic false rest).push (some c) := by
  have he := escaped_escape c
  generalize escape c = e at he
  cases he with
  | self hplain hquote hslash =>
    exact multiBasic_cons (.inl hplain) hslash fun h ↦ absurd h hquote
  | short mark hread =>
    have hu : mark ≠ 'u' := ne_of_shortEscape? hread rfl
    have hU : mark ≠ 'U' := ne_of_shortEscape? hread rfl
    have hends : endsLine (mark :: rest) = false := by
      have hspace : isSpace mark = false :=
        not_isSpace_of (p := fun c ↦ (shortEscape? c).isSome) rfl rfl (by simp [hread])
      have hn : mark ≠ '\n' := ne_of_shortEscape? hread rfl
      have hr : mark ≠ '\r' := ne_of_shortEscape? hread rfl
      simp [endsLine, hspace, hn, hr]
    simp [multiBasic, hu, hU, hread, hends]
  | digits a b d e hread => simp [multiBasic, hread]

/-- Where a quote is escaped, or there is none, the text goes on without one. -/
theorem not_prefix_escapeLines {run : Nat} {c : Char} (hrun : c = '\x22' → 2 ≤ run)
    (cs rest : List Char) : ¬ ['\x22'] <+: escapeLines run (c :: cs) ++ rest := by
  rw [escapeLines, if_neg fun h ↦ absurd (hrun h.1) (not_le.2 h.2)]
  split_ifs with hn
  · simp [hn]
  · obtain ⟨first, tail, he, hquote, -⟩ := escape_eq_cons c
    simpa [he] using hquote.symm

theorem multiBasic_closing {cs rest : List Char}
    (hcs : cs = [] ∨ cs = ['\x22'] ∨ cs = ['\x22', '\x22'])
    (hrest : rest.head? ≠ some '\x22') :
    multiBasic false (cs ++ '\x22' :: '\x22' :: '\x22' :: rest) = some (cs, rest) := by
  rcases hcs with rfl | rfl | rfl <;> (rw [multiBasic.eq_def]; grind)

theorem multiBasic_escapeLines {rest : List Char} (hrest : rest.head? ≠ some '\x22') (run : Nat)
    (cs : List Char) :
    multiBasic false (escapeLines run cs ++ '\x22' :: '\x22' :: '\x22' :: rest) =
      some (cs, rest) := by
  induction cs generalizing run with
  | nil => exact multiBasic_closing (.inl rfl) hrest
  | cons c cs ih =>
    rw [escapeLines]
    split_ifs with hq hn
    · obtain ⟨rfl, hrun⟩ := hq
      cases cs with
      | nil => exact multiBasic_closing (.inr (.inl rfl)) hrest
      | cons d ds =>
        by_cases hd : d = '\x22' ∧ run + 1 < 2
        · obtain ⟨rfl, hzero⟩ := hd
          obtain rfl : run = 0 := by omega
          cases ds with
          | nil => exact multiBasic_closing (.inr (.inr rfl)) hrest
          | cons e es =>
            have hnext : ¬ ['\x22'] <+: escapeLines 2 (e :: es) ++ _ :=
              not_prefix_escapeLines (fun _ ↦ le_rfl) es ('\x22' :: '\x22' :: '\x22' :: rest)
            have hsecond : escapeLines (0 + 1) ('\x22' :: e :: es) =
                '\x22' :: escapeLines 2 (e :: es) := rfl
            rw [List.cons_append, multiBasic_cons (.inl rfl) (by decide), ih]
            · rfl
            · rintro -
              rw [hsecond]
              simpa using hnext
        · have hnext := not_prefix_escapeLines (fun h ↦ not_lt.1 fun hlt ↦ hd ⟨h, hlt⟩) ds
            ('\x22' :: '\x22' :: '\x22' :: rest)
          rw [List.cons_append, multiBasic_cons (.inl rfl) (by decide), ih]
          · rfl
          · exact fun _ h ↦ hnext (List.IsPrefix.trans (by simp) h)
    · subst hn
      rw [List.cons_append, multiBasic_cons (.inr rfl) (by decide) nofun, ih]
      rfl
    · rw [List.append_assoc, multiBasic_escape, ih]
      rfl

/-! ### Runs of quotes -/

/-- One step of `longestRun`: the longest run so far, and the one that reaches up to here. -/
def stepRun (q : Char) (s : Nat × Nat) (d : Char) : Nat × Nat :=
  if d = q then (max s.1 (s.2 + 1), s.2 + 1) else (s.1, 0)

theorem longestRun_eq (q : Char) (cs : List Char) :
    longestRun q cs = (cs.foldl (stepRun q) (0, 0)).1 := rfl

theorem le_foldl_stepRun (q : Char) (cs : List Char) (s : Nat × Nat) :
    s.1 ≤ (cs.foldl (stepRun q) s).1 := by
  induction cs generalizing s with
  | nil => exact le_rfl
  | cons c cs ih =>
    refine le_trans ?_ (ih _)
    unfold stepRun
    split_ifs
    · exact le_max_left _ _
    · exact le_rfl

theorem add_le_foldl_stepRun (q : Char) (n : Nat) (s : Nat × Nat) :
    s.2 + (n + 1) ≤ ((List.replicate (n + 1) q).foldl (stepRun q) s).1 := by
  have hstep (s : Nat × Nat) : stepRun q s q = (max s.1 (s.2 + 1), s.2 + 1) := if_pos rfl
  induction n generalizing s with
  | zero =>
    show s.2 + 1 ≤ (stepRun q s q).1
    rw [hstep]
    exact Nat.le_max_right _ _
  | succ n ih =>
    have hrun := ih (stepRun q s q)
    rw [List.replicate_succ, List.foldl_cons]
    rw [hstep] at hrun ⊢
    omega

/-- A run of a character is no longer than its longest run. -/
theorem lt_longestRun {q : Char} {n : Nat} {cs : List Char}
    (h : List.replicate (n + 1) q <:+: cs) : n < longestRun q cs := by
  obtain ⟨before, after, rfl⟩ := h
  rw [longestRun_eq, List.foldl_append, List.foldl_append]
  have hrun := add_le_foldl_stepRun q n (before.foldl (stepRun q) (0, 0))
  have hafter := le_foldl_stepRun q after
    ((List.replicate (n + 1) q).foldl (stepRun q) (before.foldl (stepRun q) (0, 0)))
  omega

theorem not_mem_of_longestRun {q : Char} {cs : List Char} (h : longestRun q cs = 0) : q ∉ cs := by
  intro hq
  have hrun := lt_longestRun (n := 0) ((List.singleton_infix_iff q cs).2 hq)
  omega

/-! ### Literal texts -/

theorem multiLiteral_cons {c : Char} {rest : List Char} (hplain : isPlain c = true ∨ c = '\n')
    (hquote : c = '\'' → ¬ ['\'', '\''] <+: rest) :
    multiLiteral (c :: rest) = (multiLiteral rest).push (some c) := by
  have hr : c ≠ '\r' := by rintro rfl; exact absurd hplain (by decide)
  rw [multiLiteral.eq_def]
  split <;> grind

theorem multiLiteral_closing {cs rest : List Char}
    (hcs : cs = [] ∨ cs = ['\''] ∨ cs = ['\'', '\'']) (hrest : rest.head? ≠ some '\'') :
    multiLiteral (cs ++ '\'' :: '\'' :: '\'' :: rest) = some (cs, rest) := by
  rcases hcs with rfl | rfl | rfl <;> (rw [multiLiteral.eq_def]; grind)

theorem multiLiteral_append {cs rest : List Char} (hrest : rest.head? ≠ some '\'')
    (hplain : ∀ c ∈ cs, isPlain c = true ∨ c = '\n')
    (hrun : ¬ ['\'', '\'', '\''] <:+: cs) :
    multiLiteral (cs ++ '\'' :: '\'' :: '\'' :: rest) = some (cs, rest) := by
  induction cs with
  | nil => exact multiLiteral_closing (.inl rfl) hrest
  | cons c cs ih =>
    by_cases hend : c :: cs = ['\''] ∨ c :: cs = ['\'', '\'']
    · exact multiLiteral_closing (.inr hend) hrest
    · rw [List.cons_append, multiLiteral_cons (hplain c List.mem_cons_self),
        ih (fun d hd ↦ hplain d (List.mem_cons_of_mem c hd)) fun h ↦ hrun (List.infix_cons h)]
      · rfl
      · rintro rfl hprefix
        rcases cs with _ | ⟨d, _ | ⟨e, es⟩⟩
        · exact hend (.inl rfl)
        · obtain rfl : '\'' = d := (List.cons_prefix_cons.1 hprefix).1
          exact hend (.inr rfl)
        · obtain ⟨rfl, hnext⟩ := List.cons_prefix_cons.1 hprefix
          obtain ⟨rfl, -⟩ := List.cons_prefix_cons.1 hnext
          exact hrun (List.prefix_append ['\'', '\'', '\''] es).isInfix

/-! ### Texts -/

theorem quotedText_basic {cs rest : List Char} (hrest : rest.head? ≠ some '\x22') :
    quotedText ('\x22' :: cs.flatMap escape ++ '\x22' :: rest) = some (cs, rest) := by
  have hone : ¬ ['\x22', '\x22'] <+: cs.flatMap escape ++ '\x22' :: rest := by
    cases cs with
    | nil => cases rest <;> simp_all [eq_comm]
    | cons c cs =>
      obtain ⟨first, tail, he, hquote, -⟩ := escape_eq_cons c
      simp [he, hquote.symm]
  rw [List.cons_append, quotedText.eq_def]
  split <;> grind [basic_flatMap_escape]

theorem quotedText_literal {cs rest : List Char} (hcs : ∀ c ∈ cs, isPlain c = true ∧ c ≠ '\'')
    (hne : cs ≠ []) : quotedText ('\'' :: cs ++ '\'' :: rest) = some (cs, rest) := by
  have hread := literal_append rest hcs
  cases cs with
  | nil => exact absurd rfl hne
  | cons c cs =>
    have hquote := (hcs c List.mem_cons_self).2
    simpa [quotedText, hquote] using hread

theorem dropFirstBreak_opening {broken : Bool} {cs : List Char}
    (h : broken = false → ∀ c ∈ cs.head?, c ≠ '\n' ∧ c ≠ '\r') :
    dropFirstBreak ((if broken then ['\n'] else []) ++ cs) = cs := by
  cases broken with
  | true => rfl
  | false =>
    have hhead := h rfl
    cases cs with
    | nil => rfl
    | cons c cs =>
      obtain ⟨hn, hr⟩ := hhead c rfl
      simp [dropFirstBreak, hn, hr]

theorem quotedText_multiBasic {cs rest : List Char} (hrest : rest.head? ≠ some '\x22') :
    quotedText (['\x22', '\x22', '\x22'] ++ (if cs.contains '\n' then ['\n'] else []) ++
      escapeLines 0 cs ++ ['\x22', '\x22', '\x22'] ++ rest) = some (cs, rest) := by
  have hread := multiBasic_escapeLines hrest 0 cs
  have hopening : dropFirstBreak ((if cs.contains '\n' then ['\n'] else []) ++
      (escapeLines 0 cs ++ '\x22' :: '\x22' :: '\x22' :: rest)) =
      escapeLines 0 cs ++ '\x22' :: '\x22' :: '\x22' :: rest := by
    refine dropFirstBreak_opening fun hbroken c hc ↦ ?_
    cases cs with
    | nil =>
      obtain rfl : '\x22' = c := Option.some.inj hc
      exact ⟨by decide, by decide⟩
    | cons d ds =>
      have hd : d ≠ '\n' := by rintro rfl; simp at hbroken
      obtain ⟨first, tail, he, -, hn, hr⟩ := escape_eq_cons d
      rw [escapeLines, if_neg hd, he] at hc
      split_ifs at hc with hq
      · obtain rfl : d = c := Option.some.inj hc
        exact ⟨hd, by rw [hq.1]; decide⟩
      · obtain rfl : first = c := Option.some.inj hc
        exact ⟨hn, hr⟩
  rw [← hopening] at hread
  simpa [quotedText] using hread

theorem quotedText_multiLiteral {cs rest : List Char} (hrest : rest.head? ≠ some '\'')
    (hplain : ∀ c ∈ cs, isPlain c = true ∨ c = '\n')
    (hrun : ¬ ['\'', '\'', '\''] <:+: cs) :
    quotedText (['\'', '\'', '\''] ++ (if cs.contains '\n' then ['\n'] else []) ++
      cs ++ ['\'', '\'', '\''] ++ rest) = some (cs, rest) := by
  have hread := multiLiteral_append hrest hplain hrun
  have hopening : dropFirstBreak ((if cs.contains '\n' then ['\n'] else []) ++
      (cs ++ '\'' :: '\'' :: '\'' :: rest)) = cs ++ '\'' :: '\'' :: '\'' :: rest := by
    refine dropFirstBreak_opening fun hbroken c hc ↦ ?_
    cases cs with
    | nil =>
      obtain rfl : '\'' = c := Option.some.inj hc
      exact ⟨by decide, by decide⟩
    | cons d ds =>
      obtain rfl : d = c := Option.some.inj hc
      have hd : d ≠ '\n' := by rintro rfl; simp at hbroken
      have hr : d ≠ '\r' := by rintro rfl; exact absurd (hplain '\r' List.mem_cons_self) (by decide)
      exact ⟨hd, hr⟩
  rw [← hopening] at hread
  simpa [quotedText] using hread

theorem isPlain_or_break {cs : List Char} (h : cs.any needsEscape = false) {c : Char}
    (hc : c ∈ cs) : isPlain c = true ∨ c = '\n' := by
  have hnot := List.any_eq_false.1 h c hc
  by_contra hbad
  exact hnot (by simpa [needsEscape] using hbad)

/-- A text is read back from its form, whatever stands behind it but a quote. -/
theorem quotedText_textForm (text : String) {rest : List Char} (hdouble : rest.head? ≠ some '\x22')
    (hsingle : rest.head? ≠ some '\'') :
    quotedText ((textForm text).toList ++ rest) = some (text.toList, rest) := by
  unfold textForm
  generalize text.toList = cs
  simp only [String.toList_ofList]
  generalize hopening : (if cs.contains '\n' then ['\n'] else []) = opening
  split_ifs with h₁ h₂ h₃ h₄ h₅
  · simpa using quotedText_basic hdouble
  · simp only [Bool.and_eq_true, Bool.not_eq_true', decide_eq_true_eq] at h₁ h₂
    obtain ⟨⟨hcoded, hbroken⟩, hsingles⟩ := h₂
    have hcs : ∀ c ∈ cs, isPlain c = true ∧ c ≠ '\'' := fun c hc ↦ by
      have hbreak : c ≠ '\n' := by rintro rfl; simp [hc] at hbroken
      have hquote : c ≠ '\'' := by rintro rfl; exact not_mem_of_longestRun hsingles hc
      exact ⟨(isPlain_or_break hcoded hc).resolve_right hbreak, hquote⟩
    have hne : cs ≠ [] := by rintro rfl; exact h₁ (by decide)
    have hread : quotedText ('\'' :: cs ++ '\'' :: rest) = some (cs, rest) :=
      quotedText_literal hcs hne
    simpa using hread
  · rw [← hopening]
    exact quotedText_multiBasic hdouble
  · simp only [Bool.and_eq_true, Bool.not_eq_true', decide_eq_true_eq] at h₄
    have hrun : ¬ ['\'', '\'', '\''] <:+: cs := fun h ↦ by
      have hlong := lt_longestRun (n := 2) h
      omega
    rw [← hopening]
    exact quotedText_multiLiteral hsingle (fun c hc ↦ isPlain_or_break h₄.1 hc) hrun
  · rw [← hopening]
    exact quotedText_multiBasic hdouble
  · simpa using quotedText_basic hdouble

/-! ### Keys -/

section Runs

variable {p : Char → Bool} {cs rest : List Char}

/-- What stops a test ends the run of characters that satisfy it. -/
theorem dropWhile_append_stop (hcs : ∀ c ∈ cs, p c = true) (hrest : ∀ c ∈ rest.head?, p c = false) :
    (cs ++ rest).dropWhile p = rest := by
  rw [List.dropWhile_append_of_pos hcs]
  cases rest with
  | nil => rfl
  | cons c rest => exact List.dropWhile_cons_of_neg (by simp [hrest c rfl])

theorem takeWhile_append_stop (hcs : ∀ c ∈ cs, p c = true) (hrest : ∀ c ∈ rest.head?, p c = false) :
    (cs ++ rest).takeWhile p = cs := by
  rw [List.takeWhile_append_of_pos hcs]
  cases rest with
  | nil => exact List.append_nil cs
  | cons c rest => rw [List.takeWhile_cons_of_neg (by simp [hrest c rfl]), List.append_nil]

end Runs

/-- A key is read back from its form, whatever stands behind it but what a bare key may hold. -/
theorem simpleKey_keyForm (key : String) {rest : List Char}
    (hrest : ∀ c ∈ rest.head?, isBare c = false) :
    simpleKey ((keyForm key).toList ++ rest) = some (key, rest) := by
  unfold keyForm
  simp only
  split_ifs with h₁ h₂
  · simp only [Bool.and_eq_true, Bool.not_eq_true', List.all_eq_true] at h₁
    obtain ⟨hne, hbare⟩ := h₁
    have htake : (key.toList ++ rest).takeWhile isBare = key.toList :=
      takeWhile_append_stop hbare hrest
    have hdrop : (key.toList ++ rest).dropWhile isBare = rest := dropWhile_append_stop hbare hrest
    rw [simpleKey]
    · simp [htake, hdrop, hne]
    all_goals
      intro tail htail
      cases hkey : key.toList with
      | nil => simp [hkey] at hne
      | cons c cs =>
        rw [hkey, List.cons_append, List.cons.injEq] at htail
        have hc := hbare c (hkey ▸ List.mem_cons_self)
        rw [htail.1] at hc
        exact absurd hc (by decide)
  · simp only [Bool.and_eq_true, Bool.not_eq_true'] at h₂
    have hcs : ∀ c ∈ key.toList, isPlain c = true ∧ c ≠ '\'' := fun c hc ↦ by
      have hplain := List.any_eq_false.1 h₂.1.1 c hc
      have hquote : c ≠ '\'' := by rintro rfl; simp [hc] at h₂
      refine ⟨?_, hquote⟩
      by_contra h
      exact hplain (by by_cases hn : c = '\n' <;> simp [needsEscape, h, hn])
    have hread := literal_append rest hcs
    simp [simpleKey, hread]
  · have hread := basic_flatMap_escape key.toList rest
    simp [simpleKey, hread]

/-- What a written key can begin with. -/
def opensKey (c : Char) : Bool := c = '\x22' || c = '\'' || isBare c

theorem keyForm_eq_cons (key : String) :
    ∃ first rest, (keyForm key).toList = first :: rest ∧ opensKey first = true := by
  unfold keyForm
  simp only
  split_ifs with h₁ h₂
  · simp only [Bool.and_eq_true, Bool.not_eq_true', List.all_eq_true] at h₁
    cases hkey : key.toList with
    | nil => simp [hkey] at h₁
    | cons c cs =>
      have hbare : isBare c = true := h₁.2 c (hkey ▸ List.mem_cons_self)
      exact ⟨c, cs, rfl, by simp [opensKey, hbare]⟩
  · exact ⟨'\'', key.toList ++ ['\''], by simp, rfl⟩
  · exact ⟨_, _, String.toList_ofList, rfl⟩

theorem not_isSpace_of_opensKey {c : Char} (h : opensKey c = true) : isSpace c = false :=
  not_isSpace_of rfl rfl h

theorem dropWhile_keyForm (key : String) (rest : List Char) :
    ((keyForm key).toList ++ rest).dropWhile isSpace = (keyForm key).toList ++ rest := by
  obtain ⟨first, tail, hform, hopens⟩ := keyForm_eq_cons key
  have hblank := not_isSpace_of_opensKey hopens
  rw [hform, List.cons_append, List.dropWhile_cons_of_neg (by simp [hblank])]

/-- A path is read back from its form, with the blanks behind it. -/
theorem keyPath_pathForm {path : List String} (hne : path ≠ []) {room : Nat}
    (hroom : path.length ≤ room) {rest : List Char} (hrest : ∀ c ∈ rest.head?, isBare c = false)
    (hdot : (rest.dropWhile isSpace).head? ≠ some '.') :
    keyPath room ((pathForm path).toList ++ rest) = some (path, rest.dropWhile isSpace) := by
  induction path generalizing room with
  | nil => exact absurd rfl hne
  | cons key path ih =>
    cases room with
    | zero => simp at hroom
    | succ room =>
      rw [List.length_cons, Nat.add_le_add_iff_right] at hroom
      cases path with
      | nil =>
        have hform : pathForm [key] = keyForm key := by simp [pathForm]
        rw [hform, keyPath, dropWhile_keyForm, simpleKey_keyForm key hrest]
        simp only [Option.bind_eq_bind, Option.bind_some]
        split
        · next heq => simp [heq] at hdot
        · rfl
      | cons next path =>
        have hform : (pathForm (key :: next :: path)).toList =
            (keyForm key).toList ++ '.' :: (pathForm (next :: path)).toList := by
          simp [pathForm]
        rw [hform, List.append_assoc, keyPath, dropWhile_keyForm,
          simpleKey_keyForm key (by simp; decide)]
        simp [ih (by simp) hroom, isSpace]

/-- The key of a pair is read back with the equals sign behind it. -/
theorem pairKey_keyForm (key : String) {rest : List Char}
    (hrest : ∀ c ∈ rest.head?, isSpace c = false) :
    pairKey ((keyForm key).toList ++ ' ' :: '=' :: ' ' :: rest) = some ([key], rest) := by
  have hform : pathForm [key] = keyForm key := by simp [pathForm]
  have hblank : (' ' :: '=' :: ' ' :: rest).dropWhile isSpace = '=' :: ' ' :: rest := by
    simp [isSpace]
  have hrest : ([] ++ rest).dropWhile isSpace = rest := dropWhile_append_stop nofun hrest
  rw [List.nil_append] at hrest
  have hpath : keyPath maxPath ((pathForm [key]).toList ++ ' ' :: '=' :: ' ' :: rest) = _ :=
    keyPath_pathForm (by simp) (Nat.le_add_left 1 78) (by simp; decide) (by simp [hblank])
  rw [pairKey, ← hform, hpath, hblank]
  simp [isSpace, hrest]

end MeshBridge.Toml
