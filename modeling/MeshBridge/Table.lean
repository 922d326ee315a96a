/-!
Finite maps as lists of entries in strictly ascending order of their keys. The order is part of the
type, so equal maps are equal lists, and what is read off a table in order needs no sorting. The
lemmas say what each operation does to `get?`.
-/

set_option autoImplicit false
set_option relaxedAutoImplicit false

namespace MeshBridge

variable {κ α β : Type} [Ord κ]

/-- Entries in strictly ascending order of keys. -/
def Ascending (entries : List (κ × α)) : Prop :=
  entries.Pairwise fun a b ↦ compare a.1 b.1 = .lt

namespace Assoc

def get? (key : κ) : List (κ × α) → Option α
  | [] => none
  | (k, a) :: rest =>
    match compare key k with
    | .lt => none
    | .eq => some a
    | .gt => get? key rest

/-- Puts an entry in its place; one of the same key is replaced. -/
def insert (key : κ) (a : α) : List (κ × α) → List (κ × α)
  | [] => [(key, a)]
  | (k, b) :: rest =>
    match compare key k with
    | .lt => (key, a) :: (k, b) :: rest
    | .eq => (key, a) :: rest
    | .gt => (k, b) :: insert key a rest

def erase (key : κ) : List (κ × α) → List (κ × α)
  | [] => []
  | (k, b) :: rest =>
    match compare key k with
    | .lt => (k, b) :: rest
    | .eq => rest
    | .gt => (k, b) :: erase key rest

theorem mem_erase_sub {key : κ} {entries : List (κ × α)} {e : κ × α}
    (h : e ∈ erase key entries) : e ∈ entries := by
  induction entries with
  | nil => exact h
  | cons head rest ih =>
    obtain ⟨k, b⟩ := head
    unfold erase at h
    split at h
    · exact h
    · exact List.mem_cons_of_mem _ h
    · rcases List.mem_cons.1 h with rfl | h
      · exact List.mem_cons_self
      · exact List.mem_cons_of_mem _ (ih h)

theorem mem_insert_sub {key : κ} {a : α} {entries : List (κ × α)} {e : κ × α}
    (h : e ∈ insert key a entries) : e = (key, a) ∨ e ∈ entries := by
  induction entries with
  | nil => exact Or.inl (List.mem_singleton.1 h)
  | cons head rest ih =>
    obtain ⟨k, b⟩ := head
    unfold insert at h
    split at h
    · exact List.mem_cons.1 h
    · rcases List.mem_cons.1 h with h | h
      · exact Or.inl h
      · exact Or.inr (List.mem_cons_of_mem _ h)
    · rcases List.mem_cons.1 h with rfl | h
      · exact Or.inr List.mem_cons_self
      · exact (ih h).imp id (List.mem_cons_of_mem _)

theorem ascending_erase {key : κ} {entries : List (κ × α)} (h : Ascending entries) :
    Ascending (erase key entries) := by
  induction entries with
  | nil => exact h
  | cons head rest ih =>
    obtain ⟨k, b⟩ := head
    have hs := List.pairwise_cons.1 h
    unfold erase
    split
    · exact h
    · exact hs.2
    · exact List.pairwise_cons.2 ⟨fun e he ↦ hs.1 e (mem_erase_sub he), ih hs.2⟩

theorem get?_eq_none_of_lt {key : κ} {entries : List (κ × α)}
    (h : ∀ e ∈ entries, compare key e.1 = .lt) : get? key entries = none := by
  cases entries with
  | nil => rfl
  | cons head rest => simp [get?, h head List.mem_cons_self]

variable [Std.TransOrd κ] [Std.LawfulEqOrd κ]

theorem ascending_insert {key : κ} {a : α} {entries : List (κ × α)} (h : Ascending entries) :
    Ascending (insert key a entries) := by
  induction entries with
  | nil => exact List.pairwise_singleton _ _
  | cons head rest ih =>
    obtain ⟨k, b⟩ := head
    have hs := List.pairwise_cons.1 h
    unfold insert
    split
    · next hlt =>
      refine List.pairwise_cons.2 ⟨fun e he ↦ ?_, h⟩
      rcases List.mem_cons.1 he with rfl | he
      · exact hlt
      · exact Std.TransCmp.lt_trans hlt (hs.1 e he)
    · next heq =>
      have hk : key = k := Std.LawfulEqCmp.eq_of_compare heq
      subst hk
      exact List.pairwise_cons.2 ⟨hs.1, hs.2⟩
    · next hgt =>
      refine List.pairwise_cons.2 ⟨fun e he ↦ ?_, ih hs.2⟩
      rcases mem_insert_sub he with rfl | he
      · exact Std.OrientedCmp.lt_of_gt hgt
      · exact hs.1 e he

theorem get?_insert [DecidableEq κ] {key : κ} {a : α} {entries : List (κ × α)}
    (h : Ascending entries) (k : κ) :
    get? k (insert key a entries) = if k = key then some a else get? k entries := by
  induction entries with
  | nil =>
    unfold insert get?
    split
    · next hlt =>
      have : k ≠ key := fun e ↦ by simp [e, Std.ReflCmp.compare_self] at hlt
      simp [this]
    · next heq => simp [Std.LawfulEqCmp.eq_of_compare heq]
    · next hgt =>
      have : k ≠ key := fun e ↦ by simp [e, Std.ReflCmp.compare_self] at hgt
      simp [this, get?]
  | cons head rest ih =>
    obtain ⟨j, b⟩ := head
    have hs := List.pairwise_cons.1 h
    by_cases hk : k = key
    · subst hk
      rw [if_pos rfl]
      unfold insert
      split
      · simp [get?, Std.ReflCmp.compare_self]
      · simp [get?, Std.ReflCmp.compare_self]
      · next hgt => simp [get?, hgt, ih hs.2]
    · rw [if_neg hk]
      have hne : compare k key ≠ .eq := fun e ↦ hk (Std.LawfulEqCmp.eq_of_compare e)
      unfold insert
      split
      · next hlt =>
        cases hc : compare k key with
        | lt =>
          have hkj : compare k j = .lt := Std.TransCmp.lt_trans hc hlt
          simp [get?, hc, hkj]
        | eq => exact absurd hc hne
        | gt => simp [get?, hc]
      · next heq =>
        have hj : key = j := Std.LawfulEqCmp.eq_of_compare heq
        subst hj
        cases hc : compare k key with
        | lt => simp [get?, hc]
        | eq => exact absurd hc hne
        | gt => simp [get?, hc]
      · next hgt =>
        simp only [get?]
        rw [ih hs.2, if_neg hk]

theorem get?_erase [DecidableEq κ] {key : κ} {entries : List (κ × α)}
    (h : Ascending entries) (k : κ) :
    get? k (erase key entries) = if k = key then none else get? k entries := by
  induction entries with
  | nil => simp [erase, get?]
  | cons head rest ih =>
    obtain ⟨j, b⟩ := head
    have hs := List.pairwise_cons.1 h
    unfold erase
    split
    · next hlt =>
      split
      · next hk => subst hk; simp [get?, hlt]
      · rfl
    · next heq =>
      have hj : key = j := Std.LawfulEqCmp.eq_of_compare heq
      subst hj
      split
      · next hk => subst hk; exact get?_eq_none_of_lt hs.1
      · next hk =>
        cases hc : compare k key with
        | lt =>
          simp only [get?, hc]
          exact get?_eq_none_of_lt fun e he ↦ Std.TransCmp.lt_trans hc (hs.1 e he)
        | eq => exact absurd (Std.LawfulEqCmp.eq_of_compare hc) hk
        | gt => simp [get?, hc]
    · next hgt =>
      simp only [get?, ih hs.2]
      by_cases hk : k = key
      · subst hk; simp [hgt]
      · simp [hk]

end Assoc

/-- A finite map from `κ` to `α`. -/
structure Table (κ α : Type) [Ord κ] where
  entries : List (κ × α)
  ascending : Ascending entries

namespace Table

instance [DecidableEq κ] [DecidableEq α] : DecidableEq (Table κ α) := fun s t ↦
  decidable_of_iff (s.entries = t.entries)
    ⟨fun h ↦ by cases s; cases t; cases h; rfl, fun h ↦ by rw [h]⟩

def empty : Table κ α := ⟨[], List.Pairwise.nil⟩

instance : EmptyCollection (Table κ α) := ⟨empty⟩

instance : Inhabited (Table κ α) := ⟨empty⟩

def get? (t : Table κ α) (key : κ) : Option α := Assoc.get? key t.entries

def contains (t : Table κ α) (key : κ) : Bool := (t.get? key).isSome

def keys (t : Table κ α) : List κ := t.entries.map (·.1)

def values (t : Table κ α) : List α := t.entries.map (·.2)

def size (t : Table κ α) : Nat := t.entries.length

def isEmpty (t : Table κ α) : Bool := t.entries.isEmpty

def erase (t : Table κ α) (key : κ) : Table κ α :=
  ⟨Assoc.erase key t.entries, Assoc.ascending_erase t.ascending⟩

@[simp] theorem get?_empty (key : κ) : (empty : Table κ α).get? key = none := rfl

variable [Std.TransOrd κ] [Std.LawfulEqOrd κ]

def insert (t : Table κ α) (key : κ) (a : α) : Table κ α :=
  ⟨Assoc.insert key a t.entries, Assoc.ascending_insert t.ascending⟩

/-- Of entries with one key the last one counts. -/
def ofList (entries : List (κ × α)) : Table κ α :=
  entries.foldl (fun t e ↦ t.insert e.1 e.2) empty

theorem get?_insert [DecidableEq κ] (t : Table κ α) (key : κ) (a : α) (k : κ) :
    (t.insert key a).get? k = if k = key then some a else t.get? k :=
  Assoc.get?_insert t.ascending k

theorem get?_erase [DecidableEq κ] (t : Table κ α) (key k : κ) :
    (t.erase key).get? k = if k = key then none else t.get? k :=
  Assoc.get?_erase t.ascending k

@[simp] theorem get?_insert_self [DecidableEq κ] (t : Table κ α) (key : κ) (a : α) :
    (t.insert key a).get? key = some a := by
  rw [get?_insert, if_pos rfl]

@[simp] theorem get?_erase_self [DecidableEq κ] (t : Table κ α) (key : κ) :
    (t.erase key).get? key = none := by
  rw [get?_erase, if_pos rfl]

theorem get?_insert_of_ne [DecidableEq κ] (t : Table κ α) {key k : κ} (a : α) (h : k ≠ key) :
    (t.insert key a).get? k = t.get? k := by
  rw [get?_insert, if_neg h]

end Table

end MeshBridge
