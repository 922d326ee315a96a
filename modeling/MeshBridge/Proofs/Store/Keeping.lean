import MeshBridge.Proofs.Store.Rows
import MeshBridge.Store.Memory
/-!
Stores that keep what they are given. `Keeps` says of a store what may be relied on although any
call on it can fail: what it holds under each key is a matter of its state, a value that is read is
the one held there, and a value that was set is held under its own key, with all others as before.
Both the store in memory and the flat store keep what they are given (`MemoryStore.keeps`,
`FlatStore.keeps`).
-/

set_option autoImplicit false
set_option relaxedAutoImplicit false

namespace MeshBridge

open KeyValueStore (checkNames)

/-- A store holds a value under each key of each namespace, or none. It may fail to answer or to
take a value, but it never answers with another value, and it never loses or moves one. -/
structure KeyValueStore.Keeps {σ : Type} [KeyValueStore σ]
    (held : σ → String → String → Option StoredValue) : Prop where
  get : ∀ {space key : String} {s : σ} {v : Option StoredValue},
    KeyValueStore.get space key s = .ok v → v = held s space key
  set : ∀ {space key : String} {v : StoredValue} {s after : σ}, v.Fits →
    KeyValueStore.set space key v s = .ok after → ∀ space' key',
      held after space' key' =
        if (space', key') = (space, key) then some v else held s space' key'

/-- An entry that is put in front of those of other keys is found under its own key only. -/
theorem lookup_cons_filter {κ β : Type} [BEq κ] [LawfulBEq κ] [DecidableEq κ]
    (entries : List (κ × β)) (key : κ) (b : β) (key' : κ) :
    ((key, b) :: entries.filter (·.1 ≠ key)).lookup key' =
      if key' = key then some b else entries.lookup key' := by
  by_cases hsame : key' = key
  · rw [if_pos hsame, hsame, List.lookup_cons_self]
  · rw [if_neg hsame, List.lookup_cons, beq_false_of_ne hsame]
    induction entries with
    | nil => rfl
    | cons e rest ih =>
      by_cases hkept : e.1 = key
      · have hother : (key' == e.1) = false := beq_false_of_ne (hkept ▸ hsame)
        rw [List.filter_cons_of_neg (by simpa using hkept), List.lookup_cons, hother]
        exact ih
      · rw [List.filter_cons_of_pos (by simpa using hkept), List.lookup_cons, List.lookup_cons]
        cases key' == e.1 with
        | true => rfl
        | false => exact ih

theorem MemoryStore.keeps : KeyValueStore.Keeps MemoryStore.lookup where
  get {space key s v} hget := by
    change (checkNames space key).map _ = _ at hget
    cases hnames : checkNames space key with
    | error fault => rw [hnames] at hget; cases hget
    | ok =>
      rw [hnames] at hget
      exact (Except.ok.inj hget).symm
  set {space key v s after} _ hset := by
    change (checkNames space key).map _ = _ at hset
    cases hnames : checkNames space key with
    | error fault => rw [hnames] at hset; cases hset
    | ok =>
      rw [hnames] at hset
      obtain rfl : s.put space key v = after := Except.ok.inj hset
      exact fun space' key' ↦ lookup_cons_filter s.entries (space, key) v (space', key')

namespace FlatStore

/-- The value in the row of a key. A key with a bad name has none. -/
def held (s : FlatStore) (space key : String) : Option StoredValue :=
  match checkNames space key with
  | .error _ => none
  | .ok () => (s.row? (joined space key)).bind StoredValue.ofBytes?

theorem held_putRow (s : FlatStore) {space key : String} (h : checkNames space key = .ok ())
    {v : StoredValue} (hv : v.Fits) (space' key' : String) :
    (s.putRow (joined space key) v.toBytes).held space' key' =
      if (space', key') = (space, key) then some v else s.held space' key' := by
  unfold held
  cases h' : checkNames space' key' with
  | error fault =>
    have hother : (space', key') ≠ (space, key) := by
      rintro ⟨⟩
      rw [h] at h'
      cases h'
    rw [if_neg hother]
  | ok =>
    have hrow : (s.putRow (joined space key) v.toBytes).row? (joined space' key') =
        if joined space' key' = joined space key then some v.toBytes
        else s.row? (joined space' key') :=
      lookup_cons_filter s.rows (joined space key) v.toBytes (joined space' key')
    have hnames : joined space' key' = joined space key ↔ (space', key') = (space, key) := by
      rw [joined_inj (KeyValueStore.not_mem_of_checkNames h')
        (KeyValueStore.not_mem_of_checkNames h), Prod.mk.injEq]
    simp only [hrow, hnames]
    split_ifs with hsame
    · exact StoredValue.ofBytes?_toBytes hv
    · rfl

theorem keeps : KeyValueStore.Keeps FlatStore.held where
  get {space key s v} hget := by
    unfold held
    cases hnames : checkNames space key with
    | error fault =>
      change (checkNames space key).bind _ = _ at hget
      rw [hnames] at hget
      cases hget
    | ok =>
      cases hrow : s.row? (joined space key) with
      | none =>
        rw [get_of_row?_none hnames hrow] at hget
        exact (Except.ok.inj hget).symm
      | some bytes =>
        rw [get_of_row?_some hnames hrow, read] at hget
        cases hvalue : StoredValue.ofBytes? bytes with
        | none => rw [hvalue] at hget; cases hget
        | some value =>
          rw [hvalue] at hget
          exact (Except.ok.inj hget).symm.trans hvalue.symm
  set {space key v s after} hfits hset := by
    change (checkNames space key).map _ = _ at hset
    cases hnames : checkNames space key with
    | error fault => rw [hnames] at hset; cases hset
    | ok =>
      rw [hnames] at hset
      obtain rfl : s.putRow (joined space key) v.toBytes = after := Except.ok.inj hset
      exact s.held_putRow hnames hfits

end FlatStore

end MeshBridge
