import MeshBridge.Event.Json
import MeshBridge.Proofs.Device.RoundTrip
/-!
Events are read back from their JSON. The name of the kind is found wherever it stands among the
fields (`Event.ofJson?_of_alike`), although a value within an event has a field of the same name.
With the nodes, which are read back in the same way, no two events and no two nodes have the same
JSON, not even in another order of the fields (`determined_of_toJson`).
-/

set_option autoImplicit false
set_option relaxedAutoImplicit false

namespace MeshBridge

open Json (Alike allAlike_nil_iff allAlike_cons_iff record?_of_alike
  tagged?_of_alike bind_required)

theorem CorrelationId.ofJson?_of_alike {c : CorrelationId} {j : Json} (h : Alike c.toJson j) :
    ofJson? j = some c := by
  rw [ofJson?, Json.uint32?_of_alike h]
  rfl

theorem EventKind.ofName?_name (kind : EventKind) : ofName? kind.name = some kind := by
  cases kind <;> decide

theorem Json.readableAll_bytes (bytes : List UInt8) :
    readableAll (bytes.map fun b ↦ .int b.toNat) = true := by
  induction bytes with
  | nil => rfl
  | cons b rest ih => exact ih

theorem AttributeValue.readable_toJson (v : AttributeValue) : v.toJson.readable = true := by
  cases v with
  | array bytes =>
    show (Json.readableAll (bytes.map fun b ↦ .int b.toNat) && true) = true
    rw [Json.readableAll_bytes, Bool.and_true]
  | _ => rfl

namespace Event

/-- No field of an event is named like the one that holds the name of its kind. -/
theorem type_notMem_fields (e : Event) : "type" ∉ e.fields.map (·.1) := by
  cases e <;> simp [fields]

theorem readableFields_fields (e : Event) : Json.readableFields e.fields = true := by
  cases e with
  | attributeChanged device endpoint cluster attr value =>
    show (value.toJson.readable && true) = true
    rw [value.readable_toJson, Bool.and_true]
  | _ => rfl

/-- The fields of an event are read back as an event of its kind. -/
theorem ofFields?_of_alike {e : Event} {j : Json} (h : Alike (.obj e.fields) j) :
    ofFields? j e.kind = some e := by
  cases e with
  | deviceJoined device address =>
    obtain ⟨ieee, number, hrecord, hdevice, haddress⟩ := Json.record?_of_alike_two (by decide) h
    simp only [kind, ofFields?, hrecord, Option.bind_eq_bind, Option.bind_some]
    rw [bind_required (Eui64.ofJson?_of_alike hdevice),
      bind_required (Json.uint16?_of_alike haddress)]
  | deviceLeft device =>
    obtain ⟨ieee, hrecord, hdevice⟩ := Json.record?_of_alike_one h
    simp only [kind, ofFields?, hrecord, Option.bind_eq_bind, Option.bind_some]
    rw [bind_required (Eui64.ofJson?_of_alike hdevice)]
  | attributeChanged device endpoint cluster attr value =>
    obtain ⟨values, hrecord, hvalues⟩ := record?_of_alike (by simp [fields]) h
    simp only [fields, List.map_cons, List.map_nil, allAlike_cons_iff, allAlike_nil_iff]
      at hvalues hrecord
    obtain ⟨ieee, _, rfl, hdevice, number, _, rfl, hendpoint, id, _, rfl, hcluster, numeral, _, rfl,
      hattr, typed, _, rfl, hvalue, rfl⟩ := hvalues
    simp only [List.map_cons, List.map_nil] at hrecord
    simp only [kind, ofFields?, hrecord, Option.bind_eq_bind, Option.bind_some]
    rw [bind_required (Eui64.ofJson?_of_alike hdevice),
      bind_required (Json.uint8?_of_alike hendpoint),
      bind_required (Json.uint16?_of_alike hcluster),
      bind_required (Json.uint16?_of_alike hattr),
      bind_required (AttributeValue.ofJson?_of_alike hvalue .setAside)]
  | commandConfirmed id | commandTimeout id =>
    obtain ⟨number, hrecord, hid⟩ := Json.record?_of_alike_one h
    simp only [kind, ofFields?, hrecord, Option.bind_eq_bind, Option.bind_some]
    rw [bind_required (CorrelationId.ofJson?_of_alike hid)]
  | commandFailed id status =>
    obtain ⟨number, code, hrecord, hid, hstatus⟩ := Json.record?_of_alike_two (by decide) h
    simp only [kind, ofFields?, hrecord, Option.bind_eq_bind, Option.bind_some]
    rw [bind_required (CorrelationId.ofJson?_of_alike hid),
      bind_required (Json.uint16?_of_alike hstatus)]
  | stackUp panId channel =>
    obtain ⟨pan, number, hrecord, hpanId, hchannel⟩ := Json.record?_of_alike_two (by decide) h
    simp only [kind, ofFields?, hrecord, Option.bind_eq_bind, Option.bind_some]
    rw [bind_required (Json.uint16?_of_alike hpanId),
      bind_required (Json.uint8?_of_alike hchannel)]
  | stackDown reason =>
    obtain ⟨text, hrecord, hreason⟩ := Json.record?_of_alike_one h
    simp only [kind, ofFields?, hrecord, Option.bind_eq_bind, Option.bind_some]
    rw [bind_required (Json.text?_of_alike hreason)]

/-- An event is read back from its JSON, whatever the order of the fields at every level. -/
theorem ofJson?_of_alike {e : Event} {j : Json} (h : Alike e.toJson j) : ofJson? j = some e := by
  obtain ⟨rest, htagged, hrest⟩ := tagged?_of_alike e.type_notMem_fields e.readableFields_fields h
  simp only [ofJson?, htagged, EventKind.ofName?_name, Option.bind_eq_bind, Option.bind_some]
  exact ofFields?_of_alike hrest

end Event

/-- Events and nodes are read back from their JSON in whatever order its fields come. So different
events, and different nodes, never have the same JSON. -/
theorem determined_of_toJson :
    (∀ e : Event, Event.ofJson? e.toJson = some e) ∧
    (∀ n : Node, Node.ofJson? n.toJson = some n) ∧
    (∀ (e : Event) (j : Json), e.toJson.Alike j → Event.ofJson? j = some e) ∧
    (∀ (n : Node) (j : Json), n.toJson.Alike j → Node.ofJson? j = some n) ∧
    (∀ e f : Event, e.toJson.Alike f.toJson ↔ e = f) ∧
    (∀ n m : Node, n.toJson.Alike m.toJson ↔ n = m) := by
  refine ⟨fun e ↦ Event.ofJson?_of_alike (.same _), fun n ↦ Node.ofJson?_of_alike (.same _),
    fun _ _ ↦ Event.ofJson?_of_alike, fun _ _ ↦ Node.ofJson?_of_alike, fun e f ↦ ?_, fun n m ↦ ?_⟩
  · refine ⟨fun h ↦ ?_, fun h ↦ h ▸ .same _⟩
    have hread := Event.ofJson?_of_alike h
    rw [Event.ofJson?_of_alike (.same f.toJson)] at hread
    exact (Option.some.inj hread).symm
  · refine ⟨fun h ↦ ?_, fun h ↦ h ▸ .same _⟩
    have hread := Node.ofJson?_of_alike h
    rw [Node.ofJson?_of_alike (.same m.toJson)] at hread
    exact (Option.some.inj hread).symm

/-- A report of bytes, with the fields of the event and of the value the other way round, and a node
with an endpoint, with its fields the other way round. -/
theorem determined_of_toJson_reversed :
    Event.ofJson? (.obj [("type", .str "AttributeChanged"), ("ieee", .str "0x00124B001234ABCD"),
      ("endpoint", .int 1), ("cluster", .int 6), ("attribute", .int 5),
      ("value", .obj
        [("type", .str "array"), ("value", .arr [.int 0, .int 255])].reverse)].reverse) =
        some (.attributeChanged ⟨0x00124B001234ABCD⟩ 1 6 5 (.array [0, 255])) ∧
    Node.ofJson? (.obj [("ieee", .str "0x00124B001234ABCD"), ("network_address", .int 0x1A2B),
      ("manufacturer", .str ""), ("model", .str "plug"), ("online", .bool true),
      ("last_seen", .int (-1)), ("endpoints", .obj [("11", .obj [("id", .int 11),
        ("profile_id", .int 260), ("device_id", .int 81), ("clusters", .obj [])])])].reverse) =
        some ⟨⟨0x00124B001234ABCD⟩, 0x1A2B, "", "plug", true, -1,
          .ofList [(11, ⟨11, 260, 81, .ofList []⟩)]⟩ := by
  have hvalue : (AttributeValue.array [0, 255]).toJson.Alike
      (.obj [("type", .str "array"), ("value", .arr [.int 0, .int 255])].reverse) :=
    .obj (.refl _) (List.reverse_perm _).symm
  refine ⟨determined_of_toJson.2.2.1 _ _ (.obj ?_ (List.reverse_perm _).symm),
    determined_of_toJson.2.2.2.1 _ _ (.obj (.refl _) (List.reverse_perm _).symm)⟩
  exact .cons _ (.same _) (.cons _ (.same _) (.cons _ (.same _) (.cons _ (.same _)
    (.cons _ (.same _) (.cons _ hvalue .nil)))))

end MeshBridge
