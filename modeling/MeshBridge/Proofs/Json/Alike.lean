import MeshBridge.Proofs.Json.Readers
import MeshBridge.Proofs.Table
/-!
JSON values that differ only in the order of fields. A reader that finds fields by their names
cannot tell such values apart: of a record it gets alike values in the order of the names
(`record?_of_alike`), and of a choice the same name and alike fields (`tagged?_of_alike`).
-/

set_option autoImplicit false
set_option relaxedAutoImplicit false

namespace MeshBridge.Json

mutual

/-- Two values are the same but for the order of the fields of objects at any depth. -/
inductive Alike : Json → Json → Prop
  | same (j : Json) : Alike j j
  | arr {items others : List Json} (h : AllAlike items others) : Alike (.arr items) (.arr others)
  | obj {fields middle others : List (String × Json)} (h : FieldsAlike fields middle)
      (hperm : middle.Perm others) : Alike (.obj fields) (.obj others)

/-- Values alike one by one. -/
inductive AllAlike : List Json → List Json → Prop
  | nil : AllAlike [] []
  | cons {j k : Json} {items others : List Json} (h : Alike j k) (hrest : AllAlike items others) :
      AllAlike (j :: items) (k :: others)

/-- Fields with the same names and alike values, one by one. -/
inductive FieldsAlike : List (String × Json) → List (String × Json) → Prop
  | nil : FieldsAlike [] []
  | cons (name : String) {j k : Json} {fields others : List (String × Json)} (h : Alike j k)
      (hrest : FieldsAlike fields others) : FieldsAlike ((name, j) :: fields) ((name, k) :: others)

end

theorem FieldsAlike.refl (fields : List (String × Json)) : FieldsAlike fields fields := by
  induction fields with
  | nil => exact .nil
  | cons field rest ih => exact .cons field.1 (.same field.2) ih

theorem readableFields_eq (fields : List (String × Json)) :
    readableFields fields = fields.all (·.2.readable) := by
  induction fields with
  | nil => rfl
  | cons field rest ih => rw [readableFields, List.all_cons, ih]

mutual

/-- The order of fields does not make a value unreadable. -/
theorem Alike.readable_eq {j k : Json} : Alike j k → k.readable = j.readable
  | .same _ => rfl
  | .arr h => h.readableAll_eq
  | .obj h hperm => by
    rw [readable, readable, ← h.readableFields_eq, Json.readableFields_eq, Json.readableFields_eq,
      hperm.all_eq]

theorem AllAlike.readableAll_eq {items others : List Json} :
    AllAlike items others → readableAll others = readableAll items
  | .nil => rfl
  | .cons h hrest => by rw [readableAll, readableAll, h.readable_eq, hrest.readableAll_eq]

theorem FieldsAlike.readableFields_eq {fields others : List (String × Json)} :
    FieldsAlike fields others → readableFields others = readableFields fields
  | .nil => rfl
  | .cons name h hrest => by
    rw [readableFields, readableFields, h.readable_eq, hrest.readableFields_eq]

end

/-! ### Leaves -/

section Leaves

variable {j : Json}

@[simp] theorem alike_bool {b : Bool} : Alike (.bool b) j ↔ j = .bool b := by
  refine ⟨fun h ↦ ?_, fun h ↦ h ▸ .same _⟩
  cases h
  rfl

@[simp] theorem alike_int {n : Int} : Alike (.int n) j ↔ j = .int n := by
  refine ⟨fun h ↦ ?_, fun h ↦ h ▸ .same _⟩
  cases h
  rfl

@[simp] theorem alike_str {text : String} : Alike (.str text) j ↔ j = .str text := by
  refine ⟨fun h ↦ ?_, fun h ↦ h ▸ .same _⟩
  cases h
  rfl

theorem allAlike_ints {numbers : List Int} {items : List Json}
    (h : AllAlike (numbers.map .int) items) : items = numbers.map .int := by
  induction numbers generalizing items with
  | nil =>
    cases h
    rfl
  | cons n rest ih =>
    cases h with
    | cons hitem hrest => rw [alike_int.1 hitem, ih hrest, List.map_cons]

/-- A list of numbers has no order to lose. -/
theorem alike_ints {numbers : List Int} :
    Alike (.arr (numbers.map .int)) j ↔ j = .arr (numbers.map .int) := by
  refine ⟨fun h ↦ ?_, fun h ↦ h ▸ .same _⟩
  cases h with
  | same => rfl
  | arr hitems => rw [allAlike_ints hitems]

/-! The value that is read stays a variable here, so that a record is read back by rewriting
alone. -/

theorem bool?_of_alike {b : Bool} {j : Json} (h : Alike (.bool b) j) : bool? j = some b := by
  rw [alike_bool.1 h, bool?]

theorem text?_of_alike {text : String} {j : Json} (h : Alike (.str text) j) :
    text? j = some text := by
  rw [alike_str.1 h, text?]

theorem uint8?_of_alike {n : UInt8} {j : Json} (h : Alike (.int n.toNat) j) :
    uint8? j = some n := by
  rw [alike_int.1 h, uint8?_int]

theorem uint16?_of_alike {n : UInt16} {j : Json} (h : Alike (.int n.toNat) j) :
    uint16? j = some n := by
  rw [alike_int.1 h, uint16?_int]

theorem uint32?_of_alike {n : UInt32} {j : Json} (h : Alike (.int n.toNat) j) :
    uint32? j = some n := by
  rw [alike_int.1 h, uint32?_int]

theorem int64?_of_alike {n : Int64} {j : Json} (h : Alike (.int n.toInt) j) :
    int64? j = some n := by
  rw [alike_int.1 h, int64?_int]

end Leaves

/-! ### Objects -/

section Objects

variable {fields others : List (String × Json)} {j : Json}

theorem exists_of_alike_obj (h : Alike (.obj fields) j) :
    ∃ middle others, j = .obj others ∧ FieldsAlike fields middle ∧ middle.Perm others := by
  cases h with
  | same => exact ⟨fields, fields, rfl, .refl fields, .refl fields⟩
  | obj hfields hperm => exact ⟨_, _, rfl, hfields, hperm⟩

@[simp] theorem allAlike_nil_iff {items : List Json} : AllAlike [] items ↔ items = [] := by
  refine ⟨fun h ↦ ?_, fun h ↦ h ▸ .nil⟩
  cases h
  rfl

theorem allAlike_cons_iff {items others : List Json} :
    AllAlike (j :: items) others ↔
      ∃ first rest, others = first :: rest ∧ Alike j first ∧ AllAlike items rest := by
  constructor
  · intro h
    cases h with
    | cons hfirst hrest => exact ⟨_, _, rfl, hfirst, hrest⟩
  · rintro ⟨first, rest, rfl, hfirst, hrest⟩
    exact .cons hfirst hrest

theorem exists_of_fieldsAlike_cons {field : String × Json}
    (h : FieldsAlike (field :: fields) others) :
    ∃ k rest, others = (field.1, k) :: rest ∧ Alike field.2 k ∧ FieldsAlike fields rest := by
  obtain ⟨name, j⟩ := field
  cases h with
  | cons _ hvalue hrest => exact ⟨_, _, rfl, hvalue, hrest⟩

theorem FieldsAlike.names_eq (h : FieldsAlike fields others) :
    others.map (·.1) = fields.map (·.1) := by
  induction fields generalizing others with
  | nil => cases h; rfl
  | cons field rest ih =>
    obtain ⟨k, others, rfl, -, hrest⟩ := exists_of_fieldsAlike_cons h
    exact congrArg (field.1 :: ·) (ih hrest)

theorem FieldsAlike.values (h : FieldsAlike fields others) :
    AllAlike (fields.map (·.2)) (others.map (·.2)) := by
  induction fields generalizing others with
  | nil => cases h; exact .nil
  | cons field rest ih =>
    obtain ⟨k, others, rfl, hvalue, hrest⟩ := exists_of_fieldsAlike_cons h
    exact .cons hvalue (ih hrest)

/-- Of a record all values are found, alike and in the order of the names. -/
theorem record?_of_alike (hnames : (fields.map (·.1)).Nodup) (h : Alike (.obj fields) j) :
    ∃ values, j.record? (fields.map (·.1)) = some (values.map some) ∧
      AllAlike (fields.map (·.2)) values := by
  obtain ⟨middle, others, rfl, hfields, hperm⟩ := exists_of_alike_obj h
  refine ⟨middle.map (·.2), ?_, hfields.values⟩
  rw [← hfields.names_eq] at hnames ⊢
  have hothers := (hperm.map (·.1)).nodup_iff.1 hnames
  show (middle.map (·.1)).mapM _ = _
  rw [List.mapM_map, List.map_map]
  refine mapM_eq_some_map fun field hfield ↦ ?_
  rw [Function.comp_apply, filter_key_of_mem hothers (hperm.mem_iff.1 hfield)]
  rfl

theorem record?_of_alike_one {name : String} {a : Json} (h : Alike (.obj [(name, a)]) j) :
    ∃ k, j.record? [name] = some [some k] ∧ Alike a k := by
  obtain ⟨values, hrecord, hvalues⟩ := record?_of_alike (by simp) h
  simp only [List.map_cons, List.map_nil, allAlike_cons_iff, allAlike_nil_iff] at hvalues
  obtain ⟨k, _, rfl, hk, rfl⟩ := hvalues
  exact ⟨k, hrecord, hk⟩

theorem record?_of_alike_two {name other : String} {a b : Json} (hne : name ≠ other)
    (h : Alike (.obj [(name, a), (other, b)]) j) :
    ∃ k l, j.record? [name, other] = some [some k, some l] ∧ Alike a k ∧ Alike b l := by
  obtain ⟨values, hrecord, hvalues⟩ := record?_of_alike (by simp [hne]) h
  simp only [List.map_cons, List.map_nil, allAlike_cons_iff, allAlike_nil_iff] at hvalues
  obtain ⟨k, _, rfl, hk, l, _, rfl, hl, rfl⟩ := hvalues
  exact ⟨k, l, hrecord, hk, hl⟩

/-- Of a choice the name is found, and fields alike to those that were written after it. -/
theorem tagged?_of_alike {tag name : String} (htag : tag ∉ fields.map (·.1))
    (hreadable : readableFields fields = true)
    (h : Alike (.obj ((tag, .str name) :: fields)) j) :
    ∃ rest, j.tagged? tag = some (name, rest) ∧ Alike (.obj fields) rest := by
  obtain ⟨_, others, rfl, hall, hperm⟩ := exists_of_alike_obj h
  obtain ⟨_, middle, rfl, htext, hfields⟩ := exists_of_fieldsAlike_cons hall
  obtain rfl := alike_str.1 htext
  have hmiddle : ∀ field ∈ middle, field.1 ≠ tag := fun field hfield hsame ↦
    htag (hfields.names_eq ▸ hsame ▸ List.mem_map_of_mem hfield)
  have htagged : others.filter (fun field ↦ decide (field.1 = tag)) = [(tag, .str name)] := by
    refine List.perm_singleton.1 ((hperm.symm.filter _).trans ?_)
    rw [List.filter_cons_of_pos (by simp), List.filter_eq_nil_iff.2 (by simpa using hmiddle)]
  have hrest : (others.filter (fun field ↦ !decide (field.1 = tag))).Perm middle := by
    refine (hperm.symm.filter _).trans ?_
    rw [List.filter_cons_of_neg (by simp), List.filter_eq_self.2 (by simpa using hmiddle)]
  refine ⟨.obj (others.filter fun field ↦ !decide (field.1 = tag)), ?_, .obj hfields hrest.symm⟩
  have hread : readableFields (others.filter fun field ↦ !decide (field.1 = tag)) = true := by
    rw [readableFields_eq, hrest.all_eq, ← readableFields_eq, hfields.readableFields_eq, hreadable]
  have hparts : others.partition (fun field ↦ decide (field.1 = tag)) =
      ([(tag, .str name)], others.filter fun field ↦ !decide (field.1 = tag)) := by
    rw [List.partition_eq_filter_filter, htagged]
    rfl
  simp only [tagged?, hparts, hread, if_true]
  rfl

end Objects

end MeshBridge.Json
