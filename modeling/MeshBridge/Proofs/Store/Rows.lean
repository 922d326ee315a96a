import MeshBridge.Proofs.Text.Utf8
import MeshBridge.Store.Flat
import Mathlib.Algebra.Group.Nat.Defs
/-!
Rows of a flat table. The bytes of a value are read back as this value (`ofBytes?_toBytes`), and a
joined name tells its namespace from its key, as it is the first colon that parts them: names of
different keys are different, whatever colons the keys have (`joined_inj`), and a name begins with a
namespace and a colon just if it is of a key in this namespace (`isPrefixOf_joined`).
-/

set_option autoImplicit false
set_option relaxedAutoImplicit false

namespace MeshBridge

/-! ### Values -/

namespace StoredValue

/-- Whether the length of a text can be written in eight bytes. -/
def Fits : StoredValue → Prop
  | str text => (Utf8.encode text).length < 2 ^ 64
  | _ => True

instance (v : StoredValue) : Decidable v.Fits := by
  cases v <;> unfold Fits <;> infer_instance

theorem number?_append (size n : Nat) (rest : List UInt8) :
    number? size (LittleEndian.encode size n ++ rest) = some (n % Nat.pow 256 size, rest) := by
  have hlength : (LittleEndian.encode size n).length = size := LittleEndian.length_encode size n
  have hlong : ¬ (LittleEndian.encode size n ++ rest).length < size := by
    rw [List.length_append, hlength]
    omega
  rw [number?, if_neg hlong, List.take_left' hlength, List.drop_left' hlength,
    LittleEndian.decode_encode]

/-- An integer that fits is read back, whatever follows it. -/
theorem number?_encode (size : Nat) {n : Nat} (h : n < Nat.pow 256 size) :
    number? size (LittleEndian.encode size n) = some (n, []) := by
  rw [← List.append_nil (LittleEndian.encode size n), number?_append, Nat.mod_eq_of_lt h]

theorem typeIndex_lt (type : StoredType) : typeIndex type < Nat.pow 256 4 := by
  cases type <;> decide

theorem find?_typeIndex (type : StoredType) :
    StoredType.all.find? (typeIndex · = typeIndex type) = some type := by
  cases type <;> rfl

/-- The bytes of a value are read back as this value. -/
theorem ofBytes?_toBytes {v : StoredValue} (h : v.Fits) : ofBytes? v.toBytes = some v := by
  have hindex := number?_append 4 (typeIndex v.type) v.contentBytes
  rw [Nat.mod_eq_of_lt (typeIndex_lt v.type)] at hindex
  rw [ofBytes?, toBytes, hindex]
  simp only [Option.bind_eq_bind, Option.bind_some, find?_typeIndex]
  cases v with
  | str text =>
    have hsize := number?_append 8 (Utf8.encode text).length (Utf8.encode text)
    have hfits : (Utf8.encode text).length < Nat.pow 256 8 := h
    rw [Nat.mod_eq_of_lt hfits] at hsize
    simp [type, contentBytes, hsize, Utf8.decode_encode, Except.toOption]
  | u8 n =>
    have hn := number?_encode 1 n.toNat_lt
    simp [type, contentBytes, hn]
  | u16 n =>
    have hn := number?_encode 2 n.toNat_lt
    simp [type, contentBytes, hn]
  | u32 n =>
    have hn := number?_encode 4 n.toNat_lt
    simp [type, contentBytes, hn]

end StoredValue

/-! ### Names -/

namespace KeyValueStore

variable {space key : String}

theorem checkNames_eq_ok_iff :
    checkNames space key = .ok () ↔ space ≠ "" ∧ key ≠ "" ∧ ':' ∉ space.toList := by
  unfold checkNames
  by_cases hempty : space.isEmpty = true ∨ key.isEmpty = true
  · rw [if_pos hempty]
    rw [String.isEmpty_iff, String.isEmpty_iff] at hempty
    rcases hempty with hspace | hkey
    · simp [hspace]
    · simp [hkey]
  · rw [if_neg hempty]
    rw [String.isEmpty_iff, String.isEmpty_iff, not_or] at hempty
    by_cases hcolon : ':' ∈ space.toList
    · simp [hcolon]
    · simp [hcolon, hempty]

/-- Only names of which the namespace has no colon are let in. -/
theorem not_mem_of_checkNames (h : checkNames space key = .ok ()) : ':' ∉ space.toList :=
  (checkNames_eq_ok_iff.1 h).2.2

end KeyValueStore

namespace FlatStore

open KeyValueStore (checkNames)

variable {space key space' key' : String}

/-- The first colon of a text parts it in one way. -/
theorem append_colon_inj {before before' rest rest' : List Char} (h : ':' ∉ before)
    (h' : ':' ∉ before') :
    before ++ ':' :: rest = before' ++ ':' :: rest' ↔ before = before' ∧ rest = rest' := by
  constructor
  · intro hsame
    induction before generalizing before' with
    | nil =>
      cases before' with
      | nil => exact ⟨rfl, (List.cons.inj hsame).2⟩
      | cons c before' =>
        have hcolon : ':' = c := (List.cons.inj hsame).1
        exact absurd (hcolon ▸ List.mem_cons_self) h'
    | cons c before ih =>
      cases before' with
      | nil =>
        have hcolon : c = ':' := (List.cons.inj hsame).1
        exact absurd (hcolon ▸ List.mem_cons_self) h
      | cons c' before' =>
        obtain ⟨rfl, hrest⟩ := List.cons.inj hsame
        obtain ⟨rfl, rfl⟩ := ih (fun hc ↦ h (List.mem_cons_of_mem _ hc))
          (fun hc ↦ h' (List.mem_cons_of_mem _ hc)) hrest
        exact ⟨rfl, rfl⟩
  · rintro ⟨rfl, rfl⟩
    rfl

theorem toList_joined (space key : String) :
    (joined space key).toList = space.toList ++ ':' :: key.toList := by
  simp [joined, String.toList_append]

/-- Joined names of different keys are different, whatever colons the keys have. -/
theorem joined_inj (h : ':' ∉ space.toList) (h' : ':' ∉ space'.toList) :
    joined space key = joined space' key' ↔ space = space' ∧ key = key' := by
  rw [← String.toList_inj, toList_joined, toList_joined, append_colon_inj h h', String.toList_inj,
    String.toList_inj]

/-- A name begins with a namespace and a colon just if its key is in this namespace, also where the
namespace is the beginning of another one. -/
theorem isPrefixOf_joined (h : ':' ∉ space.toList) (h' : ':' ∉ space'.toList) :
    (joined space "").toList.isPrefixOf (joined space' key').toList = decide (space' = space) := by
  rw [Bool.eq_iff_iff, List.isPrefixOf_iff_prefix, decide_eq_true_iff, toList_joined, toList_joined]
  constructor
  · rintro ⟨rest, hrest⟩
    have hsame : space.toList ++ ':' :: rest = space'.toList ++ ':' :: key'.toList := by
      simpa using hrest
    exact (String.toList_inj.1 ((append_colon_inj h h').1 hsame).1).symm
  · rintro rfl
    exact ⟨key'.toList, by simp⟩

/-! ### Reading -/

section Reading

variable {s : FlatStore}

theorem get_of_row?_none (h : checkNames space key = .ok ())
    (hrow : s.row? (joined space key) = none) :
    KeyValueStore.get space key s = .ok none := by
  show (checkNames space key).bind _ = _
  rw [h, hrow]
  rfl

theorem get_of_row?_some {bytes : List UInt8} (h : checkNames space key = .ok ())
    (hrow : s.row? (joined space key) = some bytes) :
    KeyValueStore.get space key s = (read bytes).map some := by
  show (checkNames space key).bind _ = _
  rw [h, hrow]
  rfl

end Reading

end FlatStore

end MeshBridge
