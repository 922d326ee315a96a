import MeshBridge.Config.Document
import MeshBridge.Proofs.Json.Readers
import MeshBridge.Proofs.Toml.Normal
/-!
The configuration that is read back from a rendered one. Every valid configuration that a document
can hold is rendered, and the text is read as the same configuration, but for one setting: a
document has no way to say that there is no store, so that the path of the usual one comes back
(`ofText_render`). It is the same configuration exactly if a path was set.

Each section is read field by field (`ofJson?_entries`). That the tables of a document stand in
another order than the entries that were written does not matter, since every field is looked up by
its name (`Toml.record?_toJson`) and the corrections are brought into normal form
(`mapM_normal?_arranged`).
-/

set_option autoImplicit false
set_option relaxedAutoImplicit false

namespace MeshBridge

open Toml (plainEntries arrangedTables arranged hasHeader)

/-! ### Records of settings -/

namespace Toml

theorem entriesToJson_eq (date : String → Json) (entries : List (String × Toml)) :
    entriesToJson date entries = entries.map fun e ↦ (e.1, e.2.toJsonWith date) := by
  induction entries with
  | nil => rfl
  | cons e rest ih => exact congrArg ((e.1, e.2.toJsonWith date) :: ·) ih

/-- The fields of a record are those of the table. -/
theorem record?_toJson {entries : List (String × Toml)} (hkeys : (entries.map (·.1)).Nodup)
    (names : List String) :
    (table entries).toJson.record? names =
      some (names.map fun name ↦ ((table entries).field? name).map toJson) := by
  have hvalues (name : String) :
      ((entries.map fun e ↦ (e.1, e.2.toJson)).filter (·.1 = name)).map (·.2) =
        (((table entries).field? name).map toJson).toList := by
    have hfilter : (entries.map fun e ↦ (e.1, e.2.toJson)).filter (·.1 = name) =
        ((entries.find? (·.1 = name)).toList).map fun e ↦ (e.1, e.2.toJson) := by
      rw [List.filter_map, ← filter_key hkeys]
      rfl
    rw [hfilter, field?]
    cases entries.find? (·.1 = name) <;> rfl
  rw [toJson, toJsonWith, entriesToJson_eq]
  exact Json.record?_of_filter fun name _ ↦ hvalues name

/-- A table of plain values is read back in its order. -/
theorem arranged_of_plain {entries : List (String × Toml)}
    (h : ∀ e ∈ entries, hasHeader e.2 = false) : arranged (.table entries) = .table entries := by
  have htables : arrangedTables entries = [] := by
    induction entries with
    | nil => rfl
    | cons e rest ih =>
      rw [arrangedTables, if_neg (by simp [h e List.mem_cons_self])]
      exact ih fun d hd ↦ h d (List.mem_cons_of_mem e hd)
  have hplain : plainEntries entries = entries :=
    List.filter_eq_self.2 fun e he ↦ by simp [h e he]
  rw [arranged, htables, hplain, List.append_nil]

end Toml

/-- Whether a document can hold a size or a time: its integers are signed. -/
def FitsDocument (n : Nat) : Prop := (n : Int) ≤ Int64.maxValue.toInt

instance : DecidablePred FitsDocument := fun n ↦
  inferInstanceAs (Decidable ((n : Int) ≤ Int64.maxValue.toInt))

theorem fitsDocument_uint16 (n : UInt16) : FitsDocument n.toNat := by
  have hbound : (UInt16.size : Int) ≤ Int64.maxValue.toInt := by decide
  exact (Int.ofNat_lt.2 n.toNat_lt).le.trans hbound

theorem legible_integer {n : Nat} (h : FitsDocument n) (room : Nat) :
    (Toml.integer n).Legible room := by
  have hleast : Int64.minValue.toInt ≤ 0 := by decide
  exact if_pos ⟨hleast.trans (Int.natCast_nonneg n), h⟩

namespace Json

theorem size?_integer {n : Nat} (h : FitsDocument n) :
    size? (Toml.integer n).toJson = some n := by
  refine nat?_int ?_
  have hbound : Int64.maxValue.toInt < (UInt64.size : Int) := by decide
  exact Int.ofNat_lt.1 (lt_of_le_of_lt h hbound)

theorem uint16?_integer (n : UInt16) : uint16? (Toml.integer n.toNat).toJson = some n :=
  uint16?_int n

end Json

/-! ### Each section is read back -/

namespace AdapterConfig

/-- The fields of a section are read one after another, whatever the document gives for each. -/
theorem ofJson?_of_record {j : Json} {devices pending timeout sweep transition : Option Json}
    (h : j.record? ["max_devices", "max_pending", "command_timeout_ms", "sweep_interval_ms",
      "default_transition_ds"] = some [devices, pending, timeout, sweep, transition]) :
    ofJson? j =
      (Json.orElse (default : AdapterConfig).maxDevices Json.size? devices).bind fun devices ↦
      (Json.orElse (default : AdapterConfig).maxPending Json.size? pending).bind fun pending ↦
      (Json.orElse (default : AdapterConfig).commandTimeout Json.size? timeout).bind fun timeout ↦
      (Json.orElse (default : AdapterConfig).sweepInterval Json.size? sweep).bind fun sweep ↦
      (Json.orElse (default : AdapterConfig).defaultTransition Json.uint16? transition).bind
        fun transition ↦ some ⟨devices, pending, timeout, sweep, transition⟩ := by
  rw [ofJson?, h]
  rfl

theorem ofJson?_entries {c : AdapterConfig}
    (h : ∀ n ∈ [c.maxDevices, c.maxPending, c.commandTimeout, c.sweepInterval], FitsDocument n) :
    ofJson? (Toml.table c.entries).toJson = some c := by
  have hdevices := Json.size?_integer (h c.maxDevices (by simp))
  have hpending := Json.size?_integer (h c.maxPending (by simp))
  have htimeout := Json.size?_integer (h c.commandTimeout (by simp))
  have hsweep := Json.size?_integer (h c.sweepInterval (by simp))
  have htransition := Json.uint16?_integer c.defaultTransition
  have hrecord : (Toml.table c.entries).toJson.record? ["max_devices", "max_pending",
      "command_timeout_ms", "sweep_interval_ms", "default_transition_ds"] =
      some (c.entries.map fun e ↦ some e.2.toJson) := by
    rw [Toml.record?_toJson (by simp [entries])]
    simp [entries, Toml.field?]
  rw [ofJson?_of_record hrecord, Json.bind_orElse hdevices, Json.bind_orElse hpending,
    Json.bind_orElse htimeout, Json.bind_orElse hsweep, Json.bind_orElse htransition]

end AdapterConfig

namespace EventBusConfig

theorem ofJson?_of_record {j : Json} {handlers depth : Option Json}
    (h : j.record? ["max_handlers_per_event", "max_publish_depth"] = some [handlers, depth]) :
    ofJson? j =
      (Json.orElse (default : EventBusConfig).maxHandlers Json.size? handlers).bind fun handlers ↦
      (Json.orElse (default : EventBusConfig).maxDepth Json.size? depth).bind fun depth ↦
      some ⟨handlers, depth⟩ := by
  rw [ofJson?, h]
  rfl

theorem ofJson?_entries {c : EventBusConfig}
    (h : ∀ n ∈ [c.maxHandlers, c.maxDepth], FitsDocument n) :
    ofJson? (Toml.table c.entries).toJson = some c := by
  have hhandlers := Json.size?_integer (h c.maxHandlers (by simp))
  have hdepth := Json.size?_integer (h c.maxDepth (by simp))
  have hrecord : (Toml.table c.entries).toJson.record?
      ["max_handlers_per_event", "max_publish_depth"] =
      some (c.entries.map fun e ↦ some e.2.toJson) := by
    rw [Toml.record?_toJson (by simp [entries])]
    simp [entries, Toml.field?]
  rw [ofJson?_of_record hrecord, Json.bind_orElse hhandlers, Json.bind_orElse hdepth]

end EventBusConfig

theorem MqttConfig.ofJson?_entries (c : MqttConfig) :
    ofJson? (Toml.table c.entries).toJson = some c := by
  have hrecord : (Toml.table c.entries).toJson.record? ["base_topic", "retain_availability"] =
      some (c.entries.map fun e ↦ some e.2.toJson) := by
    rw [Toml.record?_toJson (by simp [entries])]
    simp [entries, Toml.field?]
  rw [ofJson?, hrecord]
  rfl

/-- What settings of the store are read back as: without a path there is none to write, and the
usual one is read. -/
def StorageConfig.readBack (c : StorageConfig) : StorageConfig :=
  ⟨c.path.or (default : StorageConfig).path⟩

theorem StorageConfig.ofJson?_entries (c : StorageConfig) :
    ofJson? (Toml.table c.entries).toJson = some c.readBack := by
  obtain ⟨path⟩ := c
  cases path with
  | none => rfl
  | some path => rfl

theorem StorageConfig.readBack_eq_iff (c : StorageConfig) : c.readBack = c ↔ c.path ≠ none := by
  obtain ⟨path⟩ := c
  cases path with
  | none => simp [readBack, default]
  | some path => simp [readBack]

/-! ### The whole configuration -/

namespace BridgeConfig

/-- Whether a document can hold a configuration: its sizes and times fit, the corrections are nested
no deeper than documents are read, and the keys of their tables are in order. -/
structure Writable (c : BridgeConfig) : Prop where
  sizes : ∀ n ∈ c.sizes, FitsDocument n
  legible : (Toml.array c.corrections).Legible Toml.maxPath
  normal : Toml.ItemsNormal c.corrections

variable (c : BridgeConfig)

/-- The four sections of settings that have fixed names. -/
def fixedEntries : List (String × Toml) :=
  [("adapter", .table c.adapter.entries), ("event_bus", .table c.eventBus.entries),
    ("mqtt", .table c.mqtt.entries), ("storage", .table c.storage.entries)]

theorem arrangedTables_fixed (rest : List (String × Toml)) :
    arrangedTables (c.fixedEntries ++ rest) = c.fixedEntries ++ arrangedTables rest := by
  have hadapter : arranged (.table c.adapter.entries) = .table c.adapter.entries :=
    Toml.arranged_of_plain (by simp [AdapterConfig.entries, hasHeader])
  have hbus : arranged (.table c.eventBus.entries) = .table c.eventBus.entries :=
    Toml.arranged_of_plain (by simp [EventBusConfig.entries, hasHeader])
  have hmqtt : arranged (.table c.mqtt.entries) = .table c.mqtt.entries :=
    Toml.arranged_of_plain (by simp [MqttConfig.entries, hasHeader])
  have hstorage : arranged (.table c.storage.entries) = .table c.storage.entries :=
    Toml.arranged_of_plain (by simp [StorageConfig.entries, hasHeader])
  simp [fixedEntries, arrangedTables, hasHeader, hadapter, hbus, hmqtt, hstorage]

/-- The corrections come first in a document if they are written in a line, and else last. -/
theorem arranged_entries :
    arranged (.table c.entries) =
        .table (c.fixedEntries ++ [("quirks", arranged (.array c.corrections))]) ∨
      arranged (.table c.entries) =
        .table (("quirks", arranged (.array c.corrections)) :: c.fixedEntries) := by
  have hentries : c.entries = c.fixedEntries ++ [("quirks", .array c.corrections)] := rfl
  have hfixed : plainEntries c.fixedEntries = [] := rfl
  rw [arranged, hentries, arrangedTables_fixed, plainEntries, List.filter_append, ← plainEntries,
    hfixed]
  cases hheader : hasHeader (.array c.corrections) with
  | true =>
    left
    simp [arrangedTables, hheader]
  | false =>
    right
    simp [arrangedTables, hheader, arranged]

variable {c}

/-- The corrections are read back as they were written. -/
theorem mapM_normal?_arranged (hnormal : Toml.ItemsNormal c.corrections) :
    ∃ items, arranged (.array c.corrections) = .array items ∧
      items.mapM Toml.normal? = some c.corrections := by
  have hread := Toml.normal?_arranged (.array c.corrections) hnormal
  have harray : ∃ items, arranged (.array c.corrections) = .array items := by
    rw [arranged]
    split
    · exact ⟨_, rfl⟩
    · exact ⟨_, rfl⟩
  obtain ⟨items, hitems⟩ := harray
  rw [hitems, Toml.normal?, Toml.normalItems?_eq] at hread
  refine ⟨items, hitems, ?_⟩
  cases hnormals : items.mapM Toml.normal? with
  | none => simp [hnormals] at hread
  | some normals => simpa [hnormals] using hread

theorem ofToml?_of_record {document : Toml} {adapter eventBus mqtt storage : Option Json}
    {items : List Toml}
    (hrecord : document.toJson.record? ["adapter", "event_bus", "mqtt", "storage"] =
      some [adapter, eventBus, mqtt, storage])
    (hquirks : document.field? "quirks" = some (.array items)) :
    ofToml? document =
      (items.mapM Toml.normal?).bind fun corrections ↦
      (Json.orElse default (AdapterConfig.ofJson? <| settings 5 ·) adapter).bind fun adapter ↦
      (Json.orElse default (EventBusConfig.ofJson? <| settings 2 ·) eventBus).bind fun eventBus ↦
      (Json.orElse default (MqttConfig.ofJson? <| settings 2 ·) mqtt).bind fun mqtt ↦
      (Json.orElse default (StorageConfig.ofJson? <| settings 1 ·) storage).bind fun storage ↦
      some ⟨adapter, eventBus, mqtt, storage, corrections⟩ := by
  rw [ofToml?, hrecord]
  simp only [hquirks]
  rfl

/-- A section that is a table is read as it is. -/
theorem bind_section {α β : Type} {usual a : α} {read : Json → Option α}
    {entries : List (String × Toml)} (h : read (Toml.table entries).toJson = some a) {size : Nat}
    (f : α → Option β) :
    (Json.orElse usual (read <| settings size ·) (some (Toml.table entries).toJson)).bind f =
      f a := by
  have hsettings : settings size (Toml.table entries).toJson = (Toml.table entries).toJson := rfl
  refine Json.bind_orElse ?_ f
  rwa [hsettings]

theorem ofToml?_arranged (h : c.Writable) :
    ofToml? (arranged (.table c.entries)) = some { c with storage := c.storage.readBack } := by
  obtain ⟨items, harranged, hitems⟩ := mapM_normal?_arranged h.normal
  have hrecord : (arranged (.table c.entries)).toJson.record?
      ["adapter", "event_bus", "mqtt", "storage"] =
      some (c.fixedEntries.map fun e ↦ some e.2.toJson) := by
    rcases c.arranged_entries with hform | hform
    all_goals
      rw [hform, Toml.record?_toJson (by simp [fixedEntries])]
      simp [fixedEntries, Toml.field?]
  have hquirks : (arranged (.table c.entries)).field? "quirks" = some (.array items) := by
    rcases c.arranged_entries with hform | hform
    all_goals
      rw [hform, harranged]
      simp [fixedEntries, Toml.field?]
  have hadapter : AdapterConfig.ofJson? (Toml.table c.adapter.entries).toJson = some c.adapter :=
    AdapterConfig.ofJson?_entries fun n hn ↦ h.sizes n (List.mem_append_left _ hn)
  have hbus : EventBusConfig.ofJson? (Toml.table c.eventBus.entries).toJson = some c.eventBus :=
    EventBusConfig.ofJson?_entries fun n hn ↦ h.sizes n (List.mem_append_right [_, _, _, _] hn)
  have hmqtt := MqttConfig.ofJson?_entries c.mqtt
  have hstorage := StorageConfig.ofJson?_entries c.storage
  rw [ofToml?_of_record hrecord hquirks, hitems, Option.bind_some, bind_section hadapter,
    bind_section hbus, bind_section hmqtt, bind_section hstorage]

/-! ### Rendering and reading back -/

/-- A document can hold the settings if it can hold the corrections. -/
theorem Writable.entriesLegible (h : c.Writable) : Toml.EntriesLegible Toml.maxPath c.entries := by
  have hroom : 0 < Toml.maxPath := by decide
  have hsize (n : Nat) (hn : n ∈ c.sizes) : (Toml.integer n).Legible (Toml.maxPath - 1) :=
    legible_integer (h.sizes n hn) _
  have hadapter : (Toml.table c.adapter.entries).Legible Toml.maxPath :=
    ⟨hroom, by simp [AdapterConfig.entries], hsize _ (by simp [BridgeConfig.sizes]),
      hsize _ (by simp [BridgeConfig.sizes]), hsize _ (by simp [BridgeConfig.sizes]),
      hsize _ (by simp [BridgeConfig.sizes]), legible_integer (fitsDocument_uint16 _) _, trivial⟩
  have hbus : (Toml.table c.eventBus.entries).Legible Toml.maxPath :=
    ⟨hroom, by simp [EventBusConfig.entries], hsize _ (by simp [BridgeConfig.sizes]),
      hsize _ (by simp [BridgeConfig.sizes]), trivial⟩
  have hmqtt : (Toml.table c.mqtt.entries).Legible Toml.maxPath :=
    ⟨hroom, by simp [MqttConfig.entries], trivial, trivial, trivial⟩
  have hstorage : (Toml.table c.storage.entries).Legible Toml.maxPath := by
    obtain ⟨_, _, _, ⟨path⟩, _⟩ := c
    cases path with
    | none => exact ⟨hroom, List.nodup_nil, trivial⟩
    | some path => exact ⟨hroom, List.nodup_singleton _, trivial, trivial⟩
  exact ⟨hadapter, hbus, hmqtt, hstorage, h.legible, trivial⟩

theorem Writable.render_eq (h : c.Writable) : c.render = .ok (Toml.document c.entries) := by
  refine if_pos (List.all_eq_true.2 ?_)
  intro n hn
  exact decide_eq_true (h.sizes n hn)

theorem ofText_of_parse {text : String} {document : Toml} (hparse : Toml.parse text = .ok document)
    (hread : ofToml? document = some c) (hvalid : c.validate = .ok ()) : ofText text = .ok c := by
  rw [ofText, hparse]
  simp only [bind, Except.bind, hread, hvalid]

/-- The checks do not look at the store. -/
theorem validate_storage (s : StorageConfig) : { c with storage := s }.validate = c.validate := rfl

/-- Rendering a configuration always succeeds, and reading gives it back with the usual path in the
place of none. So it is the same configuration exactly if there is a path. -/
theorem ofText_render (hvalid : c.validate = .ok ()) (h : c.Writable) :
    ∃ text, c.render = .ok text ∧
      ofText text = .ok { c with storage := c.storage.readBack } ∧
      (ofText text = .ok c ↔ c.storage.path ≠ none) := by
  have hkeys : (c.entries.map (·.1)).Nodup := by simp [entries]
  have hparse := Toml.parse_document h.entriesLegible hkeys
  have hread : ofText (Toml.document c.entries) = .ok { c with storage := c.storage.readBack } :=
    ofText_of_parse hparse (ofToml?_arranged h) ((validate_storage _).trans hvalid)
  refine ⟨_, h.render_eq, hread, ?_⟩
  rw [hread, Except.ok.injEq, ← StorageConfig.readBack_eq_iff]
  exact ⟨congrArg storage, fun hstorage ↦ by rw [hstorage]⟩

/-- A bridge without a store, and a correction that is written in lines and in tables of its own. -/
def storeless : BridgeConfig where
  adapter := default
  eventBus := default
  mqtt := default
  storage := ⟨none⟩
  corrections := [.table
    [("actions", .array [.table [("kind", .text "ignore_spurious"), ("target", .text "battery")]]),
      ("manufacturer", .text "LUMI"), ("match", .text "prefix"), ("model", .text "lumi.sensor")]]

theorem storeless_writable : storeless.Writable where
  sizes := by decide
  legible := by
    simp [storeless, Toml.Legible, Toml.ItemsLegible, Toml.EntriesLegible, Toml.InLine,
      Toml.hasHeader, Toml.isTable, Toml.maxPath]
  normal := by
    simp only [storeless, Toml.ItemsNormal, Toml.IsNormal, Toml.EntriesNormal, Ascending]
    decide

theorem ofText_render_storeless :
    storeless.validate = .ok () ∧ storeless.Writable ∧
      ∃ text, storeless.render = .ok text ∧
        ofText text = .ok { storeless with storage := default } ∧ ofText text ≠ .ok storeless := by
  have hvalid : storeless.validate = .ok () := rfl
  obtain ⟨text, hrender, hread, hiff⟩ := ofText_render hvalid storeless_writable
  exact ⟨hvalid, storeless_writable, text, hrender, hread, fun hsame ↦ hiff.1 hsame rfl⟩

end BridgeConfig

end MeshBridge
