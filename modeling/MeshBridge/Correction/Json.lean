import MeshBridge.Capability.Json
import MeshBridge.Correction.Table
import MeshBridge.Toml.Normal
import MeshBridge.Toml.Reader
/-!
Entries of the correction table read from documents. An action is a choice by its `kind`.
-/

set_option autoImplicit false
set_option relaxedAutoImplicit false

namespace MeshBridge.Correction

/-- A capability among the fields of an action. -/
def capability? (field : Option Json) : Option Capability :=
  Json.required (Capability.ofJson? .setAside) field

def int32? (j : Json) : Option Int32 :=
  (j.within? Int32.minValue.toInt Int32.maxValue.toInt).map Int32.ofInt

/-- Reads the fields of an action of the given name. -/
def Action.ofFields? (j : Json) (name : String) : Option Action :=
  if name = "clamp_range" then do
    let [target, low, high] ← j.record? ["target", "min", "max"] | none
    some (.clampRange (← capability? target) (← Json.required int32? low)
      (← Json.required int32? high))
  else if name = "invert_boolean" then do
    let [target, enabled] ← j.record? ["target", "enabled"] | none
    some (.invertBoolean (← capability? target) (← Json.required Json.bool? enabled))
  else if name = "scale_numeric" then do
    let [target, multiplier, offset] ← j.record? ["target", "multiplier", "offset"] | none
    some (.scaleNumeric (← capability? target) (← Json.required Json.float? multiplier)
      (← Json.orElse 0.0 Json.float? offset))
  else if name = "remap_attribute" then do
    let [target, other] ← j.record? ["target", "to"] | none
    some (.remapAttribute (← capability? target) (← capability? other))
  else if name = "override_reporting" then do
    let [target, reporting] ← j.record? ["target", "reporting"] | none
    some (.overrideReporting (← capability? target) (← Json.required Reporting.ofJson? reporting))
  else if name = "ignore_spurious" then do
    let [target] ← j.record? ["target"] | none
    some (.ignoreSpurious (← capability? target))
  else none

def Action.ofJson? (j : Json) : Option Action := do
  let (name, fields) ← j.tagged? "kind"
  Action.ofFields? fields name

def ModelMatch.ofJson? (origin : Json.Origin) (j : Json) : Option ModelMatch :=
  (j.name? origin).bind ModelMatch.ofName?

def Entry.ofJson? (origin : Json.Origin) (j : Json) : Option Entry := do
  let [manufacturer, model, matching, actions] ←
    j.record? ["manufacturer", "model", "match", "actions"] | none
  some ⟨← Json.required Json.text? manufacturer, ← Json.required Json.text? model,
    ← Json.orElse .exact (ModelMatch.ofJson? origin) matching,
    ← Json.required (Json.list? Action.ofJson?) actions⟩

/-- The entry a table of a settings document describes. -/
def Entry.ofDocument (table : Toml) : Except Fault Entry :=
  match Entry.ofJson? .toml table.toData with
  | some e => .ok e
  | none => .error (.config "invalid quirk")

end MeshBridge.Correction

namespace MeshBridge.CorrectionTable

/-- Registers the tables of a settings document in turn and counts them. -/
def registerDocuments (t : CorrectionTable) (tables : List Toml) :
    CorrectionTable × Except Fault Nat :=
  let (t, r) := t.registerAll (tables.map Correction.Entry.ofDocument)
  (t, r.map fun _ ↦ tables.length)

/-- The tables under `quirks` in the text of a document, read as a value of its own. -/
def documents (text : String) : Except Fault (List Toml) := do
  match (← Toml.parse text).normal? with
  | none => .error (.config Toml.malformed)
  | some document =>
    match document.field? "quirks" with
    | some (.array tables) => .ok tables
    | _ => .ok []

/-- Registers what a text holds under `quirks`. -/
def registerText (t : CorrectionTable) (text : String) : CorrectionTable × Except Fault Nat :=
  match documents text with
  | .ok tables => t.registerDocuments tables
  | .error f => (t, .error f)

end MeshBridge.CorrectionTable
