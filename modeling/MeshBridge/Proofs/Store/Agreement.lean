import MeshBridge.Proofs.Store.Rows
import MeshBridge.Store.Call
import MeshBridge.Store.Memory
/-!
The flat store and the store in memory cannot be told apart by what they answer. Whatever is asked
of both, the rows of the one are the entries of the other under their joined names (`Mirrors`), and
every call keeps it so and is answered alike (`Mirrors.perform`). Hence all calls made in turn are
answered alike (`agree_of_fair`). Left out are texts too long to be written with their length, and
attempts to clear a namespace that no key can be in, which only the flat store refuses.
-/

set_option autoImplicit false
set_option relaxedAutoImplicit false

namespace MeshBridge

open KeyValueStore (checkNames perform run answers)

/-- A call on which the stores are to agree: a text is no longer than can be written, and what is
cleared is a namespace that keys can be in. -/
def StoreCall.Fair : StoreCall → Prop
  | .set _ _ v => v.Fits
  | .clear space => space ≠ "" ∧ ':' ∉ space.toList
  | _ => True

instance (call : StoreCall) : Decidable call.Fair := by
  cases call <;> unfold StoreCall.Fair <;> infer_instance

namespace FlatStore

/-- The row of an entry. -/
def rowOf (e : (String × String) × StoredValue) : String × List UInt8 :=
  (joined e.1.1 e.1.2, e.2.toBytes)

/-- A flat store with the entries of a store in memory, in the same order. Every entry got past the
checks. -/
structure Mirrors (f : FlatStore) (m : MemoryStore) : Prop where
  rows : f.rows = m.entries.map rowOf
  names : ∀ e ∈ m.entries, checkNames e.1.1 e.1.2 = .ok ()
  fits : ∀ e ∈ m.entries, e.2.Fits

theorem mirrors_empty (inFile : Bool) : Mirrors (empty inFile) .empty :=
  ⟨rfl, by simp [MemoryStore.empty], by simp [MemoryStore.empty]⟩

variable {f : FlatStore} {m : MemoryStore} {space key : String}

/-! ### Rows and entries -/

/-- Assumes: names that pass the check. A row has the name of a key just if its entry is that of
the key. -/
theorem rowOf_fst_eq_iff {e : (String × String) × StoredValue}
    (he : checkNames e.1.1 e.1.2 = .ok ()) (h : checkNames space key = .ok ()) :
    (rowOf e).1 = joined space key ↔ e.1 = (space, key) := by
  rw [rowOf, joined_inj (KeyValueStore.not_mem_of_checkNames he)
    (KeyValueStore.not_mem_of_checkNames h), Prod.ext_iff]

/-- Looking up the name of a key finds the bytes of its value. -/
theorem Mirrors.row?_eq (hf : Mirrors f m) (h : checkNames space key = .ok ()) :
    f.row? (joined space key) = (m.lookup space key).map StoredValue.toBytes := by
  obtain ⟨hrows, hnames, -⟩ := hf
  rw [row?, MemoryStore.lookup, hrows]
  generalize m.entries = entries at hnames
  induction entries with
  | nil => rfl
  | cons e rest ih =>
    have hrest := ih fun e he ↦ hnames e (List.mem_cons_of_mem _ he)
    have hsame := rowOf_fst_eq_iff (hnames e List.mem_cons_self) h
    obtain ⟨names, v⟩ := e
    by_cases hkey : names = (space, key)
    · simp [rowOf, hkey]
    · have hother : joined space key ≠ joined names.1 names.2 := fun hname ↦
        hkey (hsame.1 hname.symm)
      simp only [List.map_cons, rowOf, List.lookup_cons, beq_eq_false_iff_ne.2 hother,
        beq_eq_false_iff_ne.2 (Ne.symm hkey)]
      exact hrest

/-- Assumes: the rows of some entries. Choosing among the rows by their names is choosing among the
entries by their keys. -/
theorem Mirrors.filter_rows (hf : Mirrors f m) {p : String × List UInt8 → Bool}
    {q : (String × String) × StoredValue → Bool} (hpq : ∀ e ∈ m.entries, p (rowOf e) = q e) :
    f.rows.filter p = (m.entries.filter q).map rowOf := by
  rw [hf.rows, List.filter_map]
  exact congrArg (List.map rowOf) (List.filter_congr hpq)

/-- Fewer entries are mirrored by their rows. -/
theorem Mirrors.of_filter (hf : Mirrors f m) {p : String × List UInt8 → Bool}
    {q : (String × String) × StoredValue → Bool} (hpq : ∀ e ∈ m.entries, p (rowOf e) = q e) :
    Mirrors { f with rows := f.rows.filter p } ⟨m.entries.filter q⟩ where
  rows := hf.filter_rows hpq
  names e he := hf.names e ((List.mem_filter.1 he).1)
  fits e he := hf.fits e ((List.mem_filter.1 he).1)

theorem Mirrors.without (hf : Mirrors f m) (h : checkNames space key = .ok ()) :
    Mirrors (f.withoutRow (joined space key)) (m.without space key) :=
  hf.of_filter fun e he ↦ by simp [rowOf_fst_eq_iff (hf.names e he) h]

theorem Mirrors.put (hf : Mirrors f m) (h : checkNames space key = .ok ()) {v : StoredValue}
    (hv : v.Fits) : Mirrors (f.putRow (joined space key) v.toBytes) (m.put space key v) where
  rows := congrArg _ (hf.without h).rows
  names e he := by
    rcases List.mem_cons.1 he with rfl | he
    · exact h
    · exact (hf.without h).names e he
  fits e he := by
    rcases List.mem_cons.1 he with rfl | he
    · exact hv
    · exact (hf.without h).fits e he

/-! ### Calls -/

theorem Mirrors.get_eq (hf : Mirrors f m) (space key : String) :
    KeyValueStore.get space key f = KeyValueStore.get space key m := by
  have hmemory : KeyValueStore.get space key m =
      (checkNames space key).map fun _ ↦ m.lookup space key := rfl
  rw [hmemory]
  cases h : checkNames space key with
  | error fault =>
    show (checkNames space key).bind _ = _
    rw [h]
    rfl
  | ok =>
    have hrow := hf.row?_eq h
    cases hlookup : m.lookup space key with
    | none =>
      rw [hlookup] at hrow
      exact get_of_row?_none h hrow
    | some v =>
      have hmem : ((space, key), v) ∈ m.entries := by
        obtain ⟨before, rest, hentries, -⟩ := List.lookup_eq_some_iff.1 hlookup
        rw [hentries]
        exact List.mem_append_right _ List.mem_cons_self
      rw [hlookup, Option.map_some] at hrow
      rw [get_of_row?_some h hrow, read, StoredValue.ofBytes?_toBytes (hf.fits _ hmem)]
      rfl

/-- A namespace that keys can be in is cleared of exactly its keys. -/
theorem Mirrors.clear (hf : Mirrors f m) (hspace : space ≠ "") (hcolon : ':' ∉ space.toList) :
    ∃ kept : FlatStore, ∃ left : MemoryStore, ∃ n,
      KeyValueStore.clear space f = .ok (kept, n) ∧
        KeyValueStore.clear space m = .ok (left, n) ∧ Mirrors kept left := by
  have hcheck : checkSpace space = .ok () := by
    rw [checkSpace, if_neg (by simp [hspace, hcolon])]
  have hnames : ∀ e ∈ m.entries,
      (!(joined space "").toList.isPrefixOf (rowOf e).1.toList) = decide (e.1.1 ≠ space) := by
    intro e he
    rw [rowOf, isPrefixOf_joined hcolon (KeyValueStore.not_mem_of_checkNames (hf.names e he)),
      decide_not]
  have hkept := hf.of_filter (q := fun e ↦ e.1.1 ≠ space)
    (p := fun row ↦ !(joined space "").toList.isPrefixOf row.1.toList) hnames
  have hcount : f.rows.length = m.entries.length := by rw [hf.rows, List.length_map]
  have hleft := congrArg List.length hkept.rows
  rw [List.length_map] at hleft
  refine ⟨_, ⟨m.entries.filter (·.1.1 ≠ space)⟩, _, ?_, rfl, hkept⟩
  show (checkSpace space).bind _ = _
  rw [hcheck]
  show Except.ok _ = Except.ok _
  rw [hcount, hleft]

/-- Whatever is asked of both stores, they answer alike and one still mirrors the other. -/
theorem Mirrors.perform (hf : Mirrors f m) {call : StoreCall} (hfair : call.Fair) :
    (KeyValueStore.perform f call).2 = (KeyValueStore.perform m call).2 ∧
      Mirrors (KeyValueStore.perform f call).1 (KeyValueStore.perform m call).1 := by
  cases call with
  | get space key =>
    refine ⟨?_, hf⟩
    show (KeyValueStore.get space key f).map _ = (KeyValueStore.get space key m).map _
    rw [hf.get_eq]
  | getAs type space key =>
    refine ⟨?_, hf⟩
    show (KeyValueStore.getAs type space key f).map _ = (KeyValueStore.getAs type space key m).map _
    unfold KeyValueStore.getAs
    rw [hf.get_eq]
  | set space key v =>
    cases h : checkNames space key with
    | error fault =>
      simp only [KeyValueStore.perform, KeyValueStore.set, h, Except.map, KeyValueStore.change,
        true_and]
      exact hf
    | ok =>
      simp only [KeyValueStore.perform, KeyValueStore.set, h, Except.map, KeyValueStore.change,
        true_and]
      exact hf.put h hfair
  | erase space key =>
    cases h : checkNames space key with
    | error fault =>
      simp only [KeyValueStore.perform, KeyValueStore.erase, h, Except.map, KeyValueStore.change,
        true_and]
      exact hf
    | ok =>
      simp only [KeyValueStore.perform, KeyValueStore.erase, h, Except.map, KeyValueStore.change,
        hf.row?_eq h, Option.isSome_map, true_and]
      exact hf.without h
  | clear space =>
    obtain ⟨kept, left, n, hkept, hleft, hmirrors⟩ := hf.clear hfair.1 hfair.2
    show (KeyValueStore.change f _ _ (KeyValueStore.clear space f)).2 =
        (KeyValueStore.change m _ _ (KeyValueStore.clear space m)).2 ∧
      Mirrors (KeyValueStore.change f _ _ (KeyValueStore.clear space f)).1
        (KeyValueStore.change m _ _ (KeyValueStore.clear space m)).1
    rw [hkept, hleft]
    exact ⟨rfl, hmirrors⟩

/-- All calls made in turn are answered alike. -/
theorem Mirrors.answers_eq (hf : Mirrors f m) {calls : List StoreCall}
    (hfair : ∀ call ∈ calls, call.Fair) :
    answers f calls = answers m calls ∧ Mirrors (run f calls) (run m calls) := by
  induction calls generalizing f m with
  | nil => exact ⟨rfl, hf⟩
  | cons call rest ih =>
    obtain ⟨hanswer, hafter⟩ := hf.perform (hfair call List.mem_cons_self)
    obtain ⟨hrest, hrun⟩ := ih hafter fun later hlater ↦ hfair later (List.mem_cons_of_mem _ hlater)
    rw [answers, answers, hanswer, hrest]
    exact ⟨rfl, hrun⟩

end FlatStore

/-! ### Clearing a namespace -/

/-- To clear a namespace takes away what is in it and nothing else. -/
def KeyValueStore.ClearsJust {σ : Type} [KeyValueStore σ] (s : σ) (space : String) : Prop :=
  ∃ after n, clear space s = .ok (after, n) ∧ ∀ space' key', get space' key' after =
    if space' = space then (checkNames space' key').map fun _ ↦ none else get space' key' s

namespace MemoryStore

theorem lookup_filter (m : MemoryStore) (space space' key' : String) :
    (⟨m.entries.filter (·.1.1 ≠ space)⟩ : MemoryStore).lookup space' key' =
      if space' = space then none else m.lookup space' key' := by
  unfold lookup
  induction m.entries with
  | nil => simp
  | cons e rest ih =>
    obtain ⟨names, v⟩ := e
    by_cases hsame : (space', key') = names
    · subst hsame
      by_cases hspace : space' = space
      · simpa [hspace] using ih
      · simp [hspace]
    · have hother : ((space', key') == names) = false := beq_eq_false_iff_ne.2 hsame
      rw [List.lookup_cons, hother, ← ih, List.filter_cons]
      split
      · rw [List.lookup_cons, hother]
      · rfl

theorem clearsJust (m : MemoryStore) (space : String) : KeyValueStore.ClearsJust m space := by
  refine ⟨⟨m.entries.filter (·.1.1 ≠ space)⟩, _, rfl, fun space' key' ↦ ?_⟩
  show (checkNames space' key').map _ = _
  rw [lookup_filter]
  split_ifs <;> rfl

end MemoryStore

/-! ### The stores compared -/

/-- Calls made in turn are answered alike by a flat store and a store in memory that were empty. No
two keys that are let in share a row of the flat store, and clearing a namespace takes away exactly
the rows of its keys. -/
theorem agree_of_fair {calls : List StoreCall} (hfair : ∀ call ∈ calls, call.Fair)
    (inFile : Bool) :
    answers (FlatStore.empty inFile) calls = answers MemoryStore.empty calls ∧
      (∀ space key space' key', checkNames space key = .ok () → checkNames space' key' = .ok () →
        FlatStore.joined space key = FlatStore.joined space' key' → space = space' ∧ key = key') ∧
      ∀ space, space ≠ "" → ':' ∉ space.toList →
        KeyValueStore.ClearsJust (run (FlatStore.empty inFile) calls) space := by
  obtain ⟨hanswers, hmirrors⟩ := (FlatStore.mirrors_empty inFile).answers_eq hfair
  refine ⟨hanswers, ?_, ?_⟩
  · intro space key space' key' h h'
    exact (FlatStore.joined_inj (KeyValueStore.not_mem_of_checkNames h)
      (KeyValueStore.not_mem_of_checkNames h')).1
  · intro space hspace hcolon
    obtain ⟨kept, left, n, hkept, hleft, hafter⟩ := hmirrors.clear hspace hcolon
    obtain ⟨left', n', hclear, hjust⟩ :=
      (run MemoryStore.empty calls).clearsJust space
    obtain ⟨rfl, rfl⟩ : left' = left ∧ n' = n := by
      have hsame := hclear.symm.trans hleft
      simpa using hsame
    refine ⟨kept, n', hkept, fun space' key' ↦ ?_⟩
    rw [hafter.get_eq, hmirrors.get_eq]
    exact hjust space' key'

/-- Keys with colons, and a namespace that another one begins with. -/
def namesakes : List StoreCall :=
  [.set "mesh" "pan:id" (.u16 0x1A62), .set "mesh2" "pan" (.str "añ"), .set "mesh:pan" "id" (.u8 1),
    .set "mesh" "pan" (.u8 2), .getAs .u8 "mesh" "pan:id", .get "mesh" "pan:id", .clear "mesh",
    .get "mesh2" "pan", .erase "mesh" "pan"]

theorem agree_of_fair_namesakes :
    (∀ call ∈ namesakes, call.Fair) ∧
      answers (FlatStore.empty true) namesakes =
        [.ok .done, .ok .done,
          .error (.invalidArgument "namespace may not contain ':': mesh:pan"), .ok .done,
          .error (.storage "mesh:pan:id holds u16 not u8"), .ok (.value (some (.u16 0x1A62))),
          .ok (.cleared 2), .ok (.value (some (.str "añ"))), .ok (.erased false)] ∧
      KeyValueStore.ClearsJust (run (FlatStore.empty true) namesakes) "mesh" := by
  have hfair : ∀ call ∈ namesakes, call.Fair := by
    have hshort : (StoredValue.str "añ").Fits := by
      show (Utf8.encode "añ").length < 2 ^ 64
      rw [Utf8.encode_eq]
      decide
    exact List.forall_mem_cons.2 ⟨trivial, List.forall_mem_cons.2 ⟨hshort, by decide⟩⟩
  obtain ⟨hanswers, -, hclears⟩ := agree_of_fair hfair true
  refine ⟨hfair, ?_, hclears "mesh" (by decide) (by decide)⟩
  rw [hanswers]
  rfl

end MeshBridge
