import MeshBridge.Table
import Mathlib.Data.List.Nodup
import Mathlib.Data.List.Perm.Basic
import Mathlib.Tactic.SplitIfs
/-!
Tables and their entries. Putting entries in order depends on the entries only
(`Assoc.foldr_insert_eq`), so a table is read off its entries in whatever order they come
(`Table.ofList_eq`), and it holds under a key just what stands there in its entries
(`Table.get?_eq_some_iff`). A table is known by what is found under each key (`Table.ext_get?`), and
a change inside of what stands under one key is seen there only (`Table.bind_get?_insert`).
-/

set_option autoImplicit false
set_option relaxedAutoImplicit false

namespace MeshBridge

/-! ### Entries under keys of their own -/

section Keys

variable {κ α : Type} [DecidableEq κ] {entries : List (κ × α)}

/-- Under keys of their own an entry is the only one of its key. -/
theorem filter_key_of_mem (hkeys : (entries.map (·.1)).Nodup) {e : κ × α} (he : e ∈ entries) :
    (entries.filter fun d ↦ decide (d.1 = e.1)) = [e] := by
  induction entries with
  | nil => cases he
  | cons head rest ih =>
    rw [List.map_cons, List.nodup_cons] at hkeys
    rcases List.mem_cons.1 he with rfl | hrest
    · have hnone : (rest.filter fun d ↦ decide (d.1 = e.1)) = [] := by
        rw [List.filter_eq_nil_iff]
        intro d hd hsame
        exact hkeys.1 (of_decide_eq_true hsame ▸ List.mem_map_of_mem hd)
      rw [List.filter_cons_of_pos (by simp), hnone]
    · have hother : head.1 ≠ e.1 := fun hsame ↦ hkeys.1 (hsame ▸ List.mem_map_of_mem hrest)
      rw [List.filter_cons_of_neg (by simpa using hother), ih hkeys.2 hrest]

/-- Under keys of their own there is at most one entry of a key. -/
theorem filter_key (hkeys : (entries.map (·.1)).Nodup) (key : κ) :
    (entries.filter fun e ↦ decide (e.1 = key)) = (entries.find? (·.1 = key)).toList := by
  cases hfind : entries.find? (·.1 = key) with
  | none => simpa using hfind
  | some e =>
    have hkey := List.find?_some hfind
    obtain rfl : e.1 = key := of_decide_eq_true hkey
    exact filter_key_of_mem hkeys (List.mem_of_find?_eq_some hfind)

end Keys

/-! ### Entries put in order -/

section Ascending

variable {κ α : Type} [Ord κ] [Std.LawfulEqOrd κ]

theorem Ascending.nodup_keys {entries : List (κ × α)} (h : Ascending entries) :
    (entries.map (·.1)).Nodup := by
  rw [List.Nodup, List.pairwise_map]
  refine h.imp fun {a b} hlt heq ↦ ?_
  simp [heq, Std.ReflCmp.compare_self] at hlt

theorem Assoc.perm_insert {key : κ} {a : α} {entries : List (κ × α)}
    (hkey : key ∉ entries.map (·.1)) : (insert key a entries).Perm ((key, a) :: entries) := by
  induction entries with
  | nil => exact List.Perm.refl _
  | cons e rest ih =>
    obtain ⟨k, b⟩ := e
    rw [List.map_cons, List.mem_cons, not_or] at hkey
    unfold insert
    split
    · exact List.Perm.refl _
    · next heq => exact absurd (Std.LawfulEqCmp.eq_of_compare heq) hkey.1
    · exact ((ih hkey.2).cons (k, b)).trans (List.Perm.swap _ _ _)

variable [Std.TransOrd κ]

theorem Assoc.foldr_insert {entries : List (κ × α)} (hkeys : (entries.map (·.1)).Nodup) :
    Ascending (entries.foldr (fun e ↦ insert e.1 e.2) []) ∧
      (entries.foldr (fun e ↦ insert e.1 e.2) []).Perm entries := by
  induction entries with
  | nil => exact ⟨List.Pairwise.nil, List.Perm.refl _⟩
  | cons e rest ih =>
    rw [List.map_cons, List.nodup_cons] at hkeys
    obtain ⟨hascending, hperm⟩ := ih hkeys.2
    have hkey : e.1 ∉ (rest.foldr (fun e ↦ insert e.1 e.2) []).map (·.1) := by
      rw [(hperm.map _).mem_iff]
      exact hkeys.1
    exact ⟨ascending_insert hascending, (perm_insert hkey).trans (hperm.cons e)⟩

omit [Std.LawfulEqOrd κ] in
/-- Two lists of entries in ascending order that hold the same are the same. -/
theorem Ascending.eq_of_perm {entries others : List (κ × α)} (h : Ascending entries)
    (hothers : Ascending others) (hperm : entries.Perm others) : entries = others := by
  refine hperm.eq_of_pairwise (fun a b _ _ hab hba ↦ ?_) h hothers
  have hgt := Std.OrientedCmp.gt_of_lt hba
  rw [hab] at hgt
  cases hgt

/-- Entries in any order are put back into the one order that is ascending. -/
theorem Assoc.foldr_insert_eq {entries others : List (κ × α)} (h : Ascending entries)
    (hperm : others.Perm entries) : others.foldr (fun e ↦ insert e.1 e.2) [] = entries := by
  have hkeys : (others.map (·.1)).Nodup := (hperm.map _).nodup_iff.2 h.nodup_keys
  obtain ⟨hascending, hsame⟩ := foldr_insert hkeys
  exact hascending.eq_of_perm h (hsame.trans hperm)

/-- What stands in entries in ascending order is found there. -/
theorem Assoc.get?_eq_some_iff {entries : List (κ × α)} (h : Ascending entries) {key : κ} {a : α} :
    get? key entries = some a ↔ (key, a) ∈ entries := by
  induction entries with
  | nil => simp [get?]
  | cons e rest ih =>
    obtain ⟨k, b⟩ := e
    have hrest := List.pairwise_cons.1 h
    have hlater : compare key k ≠ .gt → (key, a) ∉ rest := fun hle hmem ↦
      hle (Std.OrientedCmp.gt_of_lt (hrest.1 _ hmem))
    unfold get?
    split
    · next hlt =>
      have hne : key ≠ k := fun hkey ↦ by simp [hkey, Std.ReflCmp.compare_self] at hlt
      simp [hne, hlater (by simp [hlt])]
    · next heq =>
      have hnot := hlater (by simp [heq])
      obtain rfl : key = k := Std.LawfulEqCmp.eq_of_compare heq
      simp [hnot, eq_comm]
    · next hgt =>
      have hne : key ≠ k := fun hkey ↦ by simp [hkey, Std.ReflCmp.compare_self] at hgt
      simp [hne, ih hrest.2]

end Ascending

namespace Table

variable {κ α : Type} [Ord κ] [Std.TransOrd κ] [Std.LawfulEqOrd κ] {t : Table κ α} {key : κ} {a : α}

theorem get?_eq_some_iff : t.get? key = some a ↔ (key, a) ∈ t.entries :=
  Assoc.get?_eq_some_iff t.ascending

omit [Std.LawfulEqOrd κ] in
/-- Tables with the same entries are the same. -/
theorem eq_of_perm {s : Table κ α} (h : s.entries.Perm t.entries) : s = t := by
  have hentries := s.ascending.eq_of_perm t.ascending h
  cases s
  cases t
  cases hentries
  rfl

/-- Tables in which the same is found under every key are the same. -/
theorem ext_get? {s : Table κ α} (h : ∀ k, s.get? k = t.get? k) : s = t := by
  have hnodup : ∀ u : Table κ α, u.entries.Nodup := fun u ↦
    List.Nodup.of_map (·.1) u.ascending.nodup_keys
  refine eq_of_perm ((List.perm_ext_iff_of_nodup (hnodup s) (hnodup t)).2 fun e ↦ ?_)
  rw [← get?_eq_some_iff, ← get?_eq_some_iff, h e.1]

/-- Tables are the same if under every key they agree on a part of what is found there, and the rest
is the same wherever that part is. -/
theorem ext_map {β : Type} {s : Table κ α} {f : α → β}
    (h : ∀ k, (s.get? k).map f = (t.get? k).map f)
    (hrest : ∀ k a b, s.get? k = some a → t.get? k = some b → f a = f b → a = b) : s = t := by
  refine ext_get? fun k ↦ ?_
  have hk := h k
  cases hs : s.get? k with
  | none =>
    rw [hs] at hk
    exact (Option.map_eq_none_iff.1 hk.symm).symm
  | some a =>
    rw [hs] at hk
    obtain ⟨b, ht, hsame⟩ := Option.map_eq_some_iff.1 hk.symm
    rw [ht, hrest k a b hs ht hsame.symm]

section Replaced

variable [DecidableEq κ] {β : Type} {old : α}

/-- What is put in the place of something that looks the same does not change how a table looks. -/
theorem insert_unseen (view : Option α → β) (new : α) (hold : t.get? key = some old)
    (hsame : view (some new) = view (some old)) (k : κ) :
    view ((t.insert key new).get? k) = view (t.get? k) := by
  rw [get?_insert]
  split_ifs with hk
  · rw [hk, hold, hsame]
  · rfl

/-- A change inside of what stands under a key, seen from the table: at that key, and where the
change is, there is what was put; everywhere else there is what was there before. -/
theorem bind_get?_insert (inside : α → Option β) (new : α) {b : β} {P : Prop} [Decidable P]
    (hold : t.get? key = some old) (hinside : inside new = if P then some b else inside old)
    (k : κ) :
    ((t.insert key new).get? k).bind inside =
      if k = key ∧ P then some b else (t.get? k).bind inside := by
  rw [get?_insert]
  by_cases hk : k = key
  · rw [if_pos hk, hk, hold, Option.bind_some, Option.bind_some, hinside]
    simp only [true_and]
  · rw [if_neg hk, if_neg fun h ↦ hk h.1]

end Replaced

/-- The first of some entries under new keys is put in its place. -/
theorem perm_insert_append {e : κ × α} {rest : List (κ × α)}
    (hkeys : ((t.entries ++ e :: rest).map (·.1)).Nodup) :
    t.get? e.1 = none ∧ ((t.insert e.1 e.2).entries ++ rest).Perm (t.entries ++ e :: rest) := by
  have hswap : (e :: t.entries ++ rest).Perm (t.entries ++ e :: rest) := List.perm_middle.symm
  have hnew : e.1 ∉ t.entries.map (·.1) := by
    have hnodup := (hswap.map (·.1)).nodup_iff.2 hkeys
    rw [List.cons_append, List.map_cons, List.map_append, List.nodup_cons] at hnodup
    exact fun hmem ↦ hnodup.1 (List.mem_append_left _ hmem)
  have hinsert : (t.insert e.1 e.2).entries.Perm (e :: t.entries) := Assoc.perm_insert hnew
  refine ⟨?_, (hinsert.append_right rest).trans hswap⟩
  cases hget : t.get? e.1 with
  | none => rfl
  | some a => exact absurd (List.mem_map_of_mem (get?_eq_some_iff.1 hget)) hnew

/-- Entries under new keys are added to those of a table. -/
theorem perm_foldl_insert {entries : List (κ × α)} (t : Table κ α)
    (hkeys : ((t.entries ++ entries).map (·.1)).Nodup) :
    (entries.foldl (fun t e ↦ t.insert e.1 e.2) t).entries.Perm (t.entries ++ entries) := by
  induction entries generalizing t with
  | nil => rw [List.append_nil]; exact List.Perm.refl _
  | cons e rest ih =>
    obtain ⟨-, hperm⟩ := perm_insert_append hkeys
    exact (ih (t.insert e.1 e.2) ((hperm.map _).nodup_iff.2 hkeys)).trans hperm

/-- A table is read off its entries in whatever order they come. -/
theorem ofList_eq {entries : List (κ × α)} (h : entries.Perm t.entries) : ofList entries = t := by
  have hkeys : (entries.map (·.1)).Nodup := (h.map _).nodup_iff.2 t.ascending.nodup_keys
  exact eq_of_perm ((perm_foldl_insert empty hkeys).trans h)

end Table

end MeshBridge
