import MeshBridge.Json.Record
import Mathlib.Data.List.Basic
/-!
What the readers of JSON make of the values that were written for them: a number of every width is
read back (`uint8?_int` to `int64?_int`), a field that is there goes on with what was read, and
items in another order give the same results in another order (`mapM_perm`).
-/

set_option autoImplicit false
set_option relaxedAutoImplicit false

namespace MeshBridge.Json

/-! ### Numbers -/

theorem nat?_int {bound n : Nat} (h : n < bound) : nat? bound (.int n) = some n := by
  show (some (n : Int)).bind _ = _
  rw [Option.bind_some, if_pos ⟨Int.natCast_nonneg n, Int.ofNat_lt.2 h⟩]
  rfl

@[simp] theorem uint8?_int (n : UInt8) : uint8? (.int n.toNat) = some n := by
  rw [uint8?, nat?_int n.toNat_lt]
  exact congrArg some UInt8.ofNat_toNat

@[simp] theorem uint16?_int (n : UInt16) : uint16? (.int n.toNat) = some n := by
  rw [uint16?, nat?_int n.toNat_lt]
  exact congrArg some UInt16.ofNat_toNat

@[simp] theorem uint32?_int (n : UInt32) : uint32? (.int n.toNat) = some n := by
  rw [uint32?, nat?_int n.toNat_lt]
  exact congrArg some UInt32.ofNat_toNat

theorem within?_int {least greatest n : Int} (hleast : least ≤ n) (hgreatest : n ≤ greatest) :
    within? least greatest (.int n) = some n := by
  show (some n).filter _ = _
  rw [Option.filter_some, if_pos (by simp [hleast, hgreatest])]

@[simp] theorem int64?_int (n : Int64) : int64? (.int n.toInt) = some n := by
  rw [int64?, within?_int n.minValue_le_toInt n.toInt_le]
  exact congrArg some n.ofInt_toInt

/-! ### Fields -/

/-- A field that is there and read goes on with what was read. -/
theorem bind_required {α β : Type} {read : Json → Option α} {j : Json} {a : α} (h : read j = some a)
    (f : α → Option β) : (required read (some j)).bind f = f a := by
  rw [required, Option.bind_some, h, Option.bind_some]

/-- A field that is given and read goes on with what was read. -/
theorem bind_orElse {α β : Type} {usual a : α} {read : Json → Option α} {j : Json}
    (h : read j = some a) (f : α → Option β) : (orElse usual read (some j)).bind f = f a := by
  rw [orElse, h, Option.bind_some]

/-! ### Lists that are read item by item -/

section Lists

variable {α β : Type} {f : α → Option β} {items others : List α}

theorem mapM_eq_some_map {g : α → β} (h : ∀ a ∈ items, f a = some (g a)) :
    items.mapM f = some (items.map g) := by
  induction items with
  | nil => rfl
  | cons a rest ih =>
    rw [List.mapM_cons, h a List.mem_cons_self, ih fun b hb ↦ h b (List.mem_cons_of_mem a hb)]
    rfl

theorem mapM_cons_eq_some_iff {a : α} {results : List β} :
    (a :: items).mapM f = some results ↔
      ∃ b rest, f a = some b ∧ items.mapM f = some rest ∧ results = b :: rest := by
  rw [List.mapM_cons]
  simp only [Option.bind_eq_bind, Option.bind_eq_some_iff, Option.pure_def, Option.some.injEq]
  constructor
  · rintro ⟨b, hb, rest, hrest, rfl⟩
    exact ⟨b, rest, hb, hrest, rfl⟩
  · rintro ⟨b, rest, hb, hrest, rfl⟩
    exact ⟨b, hb, rest, hrest, rfl⟩

/-- Items in another order are read as the same results in another order. -/
theorem mapM_perm {results : List β} (hperm : items.Perm others)
    (h : items.mapM f = some results) :
    ∃ found, others.mapM f = some found ∧ found.Perm results := by
  induction hperm generalizing results with
  | nil => exact ⟨results, h, .refl results⟩
  | cons a _ ih =>
    obtain ⟨b, rest, hb, hrest, rfl⟩ := mapM_cons_eq_some_iff.1 h
    obtain ⟨found, hfound, hsame⟩ := ih hrest
    exact ⟨b :: found, mapM_cons_eq_some_iff.2 ⟨b, found, hb, hfound, rfl⟩, hsame.cons b⟩
  | swap a a' items =>
    obtain ⟨b', rest', hb', hrest', rfl⟩ := mapM_cons_eq_some_iff.1 h
    obtain ⟨b, rest, hb, hrest, rfl⟩ := mapM_cons_eq_some_iff.1 hrest'
    refine ⟨b :: b' :: rest, mapM_cons_eq_some_iff.2 ⟨b, b' :: rest, hb, ?_, rfl⟩, .swap b' b rest⟩
    exact mapM_cons_eq_some_iff.2 ⟨b', rest, hb', hrest, rfl⟩
  | trans _ _ ih ih' =>
    obtain ⟨middle, hmiddle, hsame⟩ := ih h
    obtain ⟨found, hfound, hsame'⟩ := ih' hmiddle
    exact ⟨found, hfound, hsame'.trans hsame⟩

end Lists

/-- Of an object a record gets under each name the value of the one field of this name, or nothing
if there is none. -/
theorem record?_of_filter {names : List String} {fields : List (String × Json)}
    {value : String → Option Json}
    (h : ∀ name ∈ names, (fields.filter (·.1 = name)).map (·.2) = (value name).toList) :
    (Json.obj fields).record? names = some (names.map value) := by
  show names.mapM _ = _
  refine mapM_eq_some_map fun name hname ↦ ?_
  have hvalue := h name hname
  cases hfound : value name with
  | none =>
    rw [hfound, Option.toList_none, List.map_eq_nil_iff] at hvalue
    rw [hvalue]
  | some j =>
    rw [hfound, Option.toList_some, List.map_eq_singleton_iff] at hvalue
    obtain ⟨field, hfield, rfl⟩ := hvalue
    rw [hfield]

end MeshBridge.Json
