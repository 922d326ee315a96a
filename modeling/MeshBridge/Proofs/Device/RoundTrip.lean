import MeshBridge.Device.Json
import MeshBridge.Proofs.Address.Grammar
import MeshBridge.Proofs.Json.Alike
import MeshBridge.Proofs.Text.Digits
/-!
Devices and values are read back from their JSON, whatever the order of its fields: an address from
its text (`Eui64.parse_toString`), a typed value from its type and its contents, and a node level by
level, each from its fields and its table (`Node.ofJson?_of_alike`).
-/

set_option autoImplicit false
set_option relaxedAutoImplicit false

namespace MeshBridge

open Json (Alike alike_int alike_str alike_bool allAlike_nil_iff allAlike_cons_iff record?_of_alike
  exists_of_alike_obj bind_required)

/-! ### Addresses -/

namespace Eui64

theorem ofJson?_of_alike {a : Eui64} {j : Json} (h : Alike a.toJson j) : ofJson? j = some a := by
  obtain rfl := alike_str.1 h
  rw [ofJson?, Json.text?, Option.bind_some, parse_toString]
  rfl

end Eui64

/-! ### Values -/

theorem AttributeType.ofName?_name (type : AttributeType) : ofName? type.name = some type := by
  cases type <;> decide

namespace AttributeValue

theorem alike_contents {v : AttributeValue} {j : Json} (h : Alike v.contents j) :
    j = v.contents := by
  cases v with
  | bool b => exact alike_bool.1 h
  | u8 n | u16 n | u32 n | i8 n | i16 n | i32 n => exact alike_int.1 h
  | string text => exact alike_str.1 h
  | array bytes =>
    have hnumbers :
        (array bytes).contents = .arr ((bytes.map fun b ↦ (b.toNat : Int)).map .int) := by
      rw [List.map_map]
      rfl
    rw [hnumbers] at h ⊢
    exact Json.alike_ints.1 h

/-- A value is read back from its contents as a value of its type. -/
theorem ofContents?_contents (v : AttributeValue) : ofContents? v.contents v.type = some v := by
  cases v with
  | bool b => rfl
  | u8 n =>
    show (Json.uint8? (.int n.toNat)).map u8 = _
    rw [Json.uint8?_int]
    rfl
  | u16 n =>
    show (Json.uint16? (.int n.toNat)).map u16 = _
    rw [Json.uint16?_int]
    rfl
  | u32 n =>
    show (Json.uint32? (.int n.toNat)).map u32 = _
    rw [Json.uint32?_int]
    rfl
  | i8 n =>
    show (Json.within? _ _ (.int n.toInt)).map _ = _
    rw [Json.within?_int n.minValue_le_toInt n.toInt_le]
    exact congrArg (some <| i8 ·) n.ofInt_toInt
  | i16 n =>
    show (Json.within? _ _ (.int n.toInt)).map _ = _
    rw [Json.within?_int n.minValue_le_toInt n.toInt_le]
    exact congrArg (some <| i16 ·) n.ofInt_toInt
  | i32 n =>
    show (Json.within? _ _ (.int n.toInt)).map _ = _
    rw [Json.within?_int n.minValue_le_toInt n.toInt_le]
    exact congrArg (some <| i32 ·) n.ofInt_toInt
  | string text => rfl
  | array bytes =>
    have hread : (bytes.map fun b ↦ Json.int b.toNat).mapM Json.uint8? = some bytes := by
      rw [List.mapM_map]
      refine (Json.mapM_eq_some_map (g := id) fun b _ ↦ ?_).trans
        (congrArg some (List.map_id bytes))
      rw [Function.comp_apply, Json.uint8?_int, id]
    show ((bytes.map fun b ↦ Json.int b.toNat).mapM Json.uint8?).map array = _
    rw [hread]
    rfl

/-- A value is read back, wherever it was taken from. -/
theorem ofJson?_of_alike {v : AttributeValue} {j : Json} (h : Alike v.toJson j)
    (origin : Json.Origin) : ofJson? origin j = some v := by
  obtain ⟨type, contents, hrecord, htype, hcontents⟩ := Json.record?_of_alike_two (by decide) h
  obtain ⟨_, others, rfl, -, -⟩ := exists_of_alike_obj h
  obtain rfl := alike_str.1 htype
  obtain rfl := alike_contents hcontents
  simp only [ofJson?, hrecord, Option.bind_eq_bind, Option.bind_some, Json.required,
    AttributeType.ofJson?, Json.name?, AttributeType.ofName?_name, ofContents?_contents]

end AttributeValue

/-! ### Tables -/

namespace Json

/-- Fields are read one by one, if each of them is read back whatever its value is alike to. -/
theorem FieldsAlike.mapM_eq {α : Type} {write : α → String × Json}
    {read : String × Json → Option α} {items : List α} {fields : List (String × Json)}
    (h : FieldsAlike (items.map write) fields)
    (hread : ∀ a j, Alike (write a).2 j → read ((write a).1, j) = some a) :
    fields.mapM read = some items := by
  induction items generalizing fields with
  | nil =>
    cases h
    rfl
  | cons a rest ih =>
    obtain ⟨k, others, rfl, hvalue, hrest⟩ := exists_of_fieldsAlike_cons h
    exact mapM_cons_eq_some_iff.2 ⟨a, rest, hread a k hvalue, ih hrest, rfl⟩

/-- The entries of a table are read in some order, if each key and each value is read back. -/
theorem entries?_of_alike {κ α : Type} [Ord κ] {key : κ → Nat} {write : α → Json}
    {key? : String → Option κ} {read : Json → Option α} {t : Table κ α} {j : Json}
    (hkey : ∀ k, key? (toString (key k)) = some k)
    (hread : ∀ a j, Alike (write a) j → read j = some a)
    (h : Alike (.ofTable key write t) j) :
    ∃ entries, entries? key? read j = some entries ∧ entries.Perm t.entries := by
  obtain ⟨middle, others, rfl, hfields, hperm⟩ := exists_of_alike_obj h
  refine mapM_perm hperm (hfields.mapM_eq fun e j hj ↦ ?_)
  simp only [hkey, hread e.2 j hj, Option.bind_eq_bind, Option.bind_some]

/-- A number is read back from the key it is written as. -/
theorem key?_toString {bound n : Nat} (h : n < bound) : key? bound (toString n) = some n := by
  have hread := Decimal.natOfDigits?_toDigits n
  have hnonempty : Nat.toDigits 10 n ≠ [] := Nat.toDigits_ne_nil
  have hzero : ∀ d rest, Nat.toDigits 10 n ≠ '0' :: d :: rest := by
    intro d rest hsame
    rcases Nat.eq_zero_or_pos n with rfl | hpos
    · cases hsame
    · exact Decimal.head?_toDigits_ne hpos (congrArg List.head? hsame)
  unfold key?
  rw [Nat.toString_eq_repr, Nat.toList_repr]
  split
  · next heq => exact absurd heq hnonempty
  · next heq => exact absurd heq (hzero _ _)
  · rw [hread, Option.filter_some, if_pos (by simpa using h)]

end Json

/-! ### Trees -/

theorem key16?_toString (n : UInt16) : key16? (toString n.toNat) = some n := by
  rw [key16?, Json.key?_toString n.toNat_lt]
  exact congrArg some UInt16.ofNat_toNat

theorem key8?_toString (n : UInt8) : key8? (toString n.toNat) = some n := by
  rw [key8?, Json.key?_toString n.toNat_lt]
  exact congrArg some UInt8.ofNat_toNat

namespace Attribute

theorem ofJson?_of_alike {a : Attribute} {j : Json} (h : Alike a.toJson j) :
    ofJson? j = some a := by
  obtain ⟨values, hrecord, hvalues⟩ := record?_of_alike (by simp) h
  simp only [List.map_cons, List.map_nil, allAlike_cons_iff, allAlike_nil_iff] at hvalues
  obtain ⟨id, _, rfl, hid, value, _, rfl, hvalue, reportable, _, rfl, hreportable, rfl⟩ := hvalues
  simp only [List.map_cons, List.map_nil] at hrecord
  simp only [ofJson?, hrecord, Option.bind_eq_bind, Option.bind_some]
  rw [bind_required (Json.uint16?_of_alike hid),
    bind_required (AttributeValue.ofJson?_of_alike hvalue .json),
    bind_required (Json.bool?_of_alike hreportable)]

end Attribute

namespace Cluster

theorem ofJson?_of_alike {c : Cluster} {j : Json} (h : Alike c.toJson j) : ofJson? j = some c := by
  obtain ⟨values, hrecord, hvalues⟩ := record?_of_alike (by simp) h
  simp only [List.map_cons, List.map_nil, allAlike_cons_iff, allAlike_nil_iff] at hvalues
  obtain ⟨id, _, rfl, hid, isServer, _, rfl, hisServer, attributes, _, rfl, hattributes, rfl⟩ :=
    hvalues
  obtain ⟨entries, hentries, hperm⟩ := Json.entries?_of_alike key16?_toString
    (fun _ _ ↦ Attribute.ofJson?_of_alike) hattributes
  simp only [List.map_cons, List.map_nil] at hrecord
  simp only [ofJson?, hrecord, Option.bind_eq_bind, Option.bind_some]
  rw [bind_required (Json.uint16?_of_alike hid), bind_required (Json.bool?_of_alike hisServer),
    bind_required hentries, Table.ofList_eq hperm]

end Cluster

namespace Endpoint

theorem ofJson?_of_alike {e : Endpoint} {j : Json} (h : Alike e.toJson j) :
    ofJson? j = some e := by
  obtain ⟨values, hrecord, hvalues⟩ := record?_of_alike (by simp) h
  simp only [List.map_cons, List.map_nil, allAlike_cons_iff, allAlike_nil_iff] at hvalues
  obtain ⟨id, _, rfl, hid, profile, _, rfl, hprofile, deviceType, _, rfl, hdeviceType, clusters, _,
    rfl, hclusters, rfl⟩ := hvalues
  obtain ⟨entries, hentries, hperm⟩ := Json.entries?_of_alike key16?_toString
    (fun _ _ ↦ Cluster.ofJson?_of_alike) hclusters
  simp only [List.map_cons, List.map_nil] at hrecord
  simp only [ofJson?, hrecord, Option.bind_eq_bind, Option.bind_some]
  rw [bind_required (Json.uint8?_of_alike hid), bind_required (Json.uint16?_of_alike hprofile),
    bind_required (Json.uint16?_of_alike hdeviceType), bind_required hentries,
    Table.ofList_eq hperm]

end Endpoint

namespace Node

/-- A node is read back from its JSON, whatever the order of the fields at every level. -/
theorem ofJson?_of_alike {n : Node} {j : Json} (h : Alike n.toJson j) : ofJson? j = some n := by
  obtain ⟨values, hrecord, hvalues⟩ := record?_of_alike (by simp [identityFields]) h
  simp only [identityFields, List.cons_append, List.nil_append, List.map_cons, List.map_nil,
    allAlike_cons_iff, allAlike_nil_iff] at hvalues hrecord
  obtain ⟨device, _, rfl, hdevice, address, _, rfl, haddress, manufacturer, _, rfl, hmanufacturer,
    model, _, rfl, hmodel, online, _, rfl, honline, lastSeen, _, rfl, hlastSeen, endpoints, _, rfl,
    hendpoints, rfl⟩ := hvalues
  obtain ⟨entries, hentries, hperm⟩ := Json.entries?_of_alike key8?_toString
    (fun _ _ ↦ Endpoint.ofJson?_of_alike) hendpoints
  simp only [List.map_cons, List.map_nil] at hrecord
  simp only [ofJson?, hrecord, Option.bind_eq_bind, Option.bind_some]
  rw [bind_required (Eui64.ofJson?_of_alike hdevice),
    bind_required (Json.uint16?_of_alike haddress),
    bind_required (Json.text?_of_alike hmanufacturer), bind_required (Json.text?_of_alike hmodel),
    bind_required (Json.bool?_of_alike honline), bind_required (Json.int64?_of_alike hlastSeen),
    bind_required hentries, Table.ofList_eq hperm]

end Node

end MeshBridge
