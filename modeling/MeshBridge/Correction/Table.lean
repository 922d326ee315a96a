import MeshBridge.Correction.Basic
/-!
The table of corrections. Of several entries for a device the one registered first counts. The table
is bounded, and only entries that can be evaluated get into it.
-/

set_option autoImplicit false
set_option relaxedAutoImplicit false

namespace MeshBridge

/-- Entries in the order of their registration. -/
structure CorrectionTable where
  entries : List Correction.Entry
  deriving DecidableEq

namespace CorrectionTable

open Correction

def maxEntries : Nat := 32

def maxActions : Nat := 4

def empty : CorrectionTable := ⟨[]⟩

instance : Inhabited CorrectionTable := ⟨empty⟩

/-- The bounds of the first clamp with an empty range. -/
def emptyClamp? (e : Entry) : Option (Int32 × Int32) :=
  e.actions.findSome? fun
    | .clampRange _ low high => if high < low then some (low, high) else none
    | _ => none

/-- Refuses an entry that could match no device or could not be evaluated. -/
def check (e : Entry) : Except Fault Unit :=
  if e.manufacturer.isEmpty ∨ e.model.isEmpty then
    .error (.invalidArgument "quirk needs manufacturer and model")
  else if maxActions < e.actions.length then
    .error (.invalidArgument ("quirk " ++ e.manufacturer ++ "/" ++ e.model ++ " has " ++
      toString e.actions.length ++ " actions (max " ++ toString maxActions ++ ")"))
  else match emptyClamp? e with
    | some (low, high) => .error (.invalidArgument
        ("clamp range [" ++ toString low ++ ", " ++ toString high ++ "] is empty"))
    | none => .ok ()

/-- Appends an entry. Those before it take precedence. -/
def register (t : CorrectionTable) (e : Entry) : Except Fault CorrectionTable := do
  check e
  if maxEntries ≤ t.entries.length then
    .error (.resourceExhausted ("quirk table (" ++ toString maxEntries ++ " entries)"))
  else .ok ⟨t.entries ++ [e]⟩

/-- Registers entries in turn until one is refused. Those before it stay. -/
def registerAll (t : CorrectionTable) : List (Except Fault Entry) →
    CorrectionTable × Except Fault Unit
  | [] => (t, .ok ())
  | e :: rest =>
    match e.bind t.register with
    | .ok t => t.registerAll rest
    | .error f => (t, .error f)

/-- The entry for a device. -/
def find? (t : CorrectionTable) (manufacturer model : String) : Option Entry :=
  t.entries.find? (·.covers manufacturer model)

def correct (t : CorrectionTable) (direction : Direction) (manufacturer model : String)
    (c : Capability) (value : CapabilityValue) : Corrected :=
  match t.find? manufacturer model with
  | some e => e.correct direction c value
  | none => .unchanged c value

/-- A value reported by a device, or read back. -/
def correctReport (t : CorrectionTable) (manufacturer model : String) (c : Capability)
    (value : CapabilityValue) : Corrected :=
  t.correct .inbound manufacturer model c value

/-- A value about to be sent. -/
def correctCommand (t : CorrectionTable) (manufacturer model : String) (c : Capability)
    (value : CapabilityValue) : Corrected :=
  t.correct .outbound manufacturer model c value

/-- How a device is to report instead of as usual. -/
def reporting? (t : CorrectionTable) (manufacturer model : String) (c : Capability) :
    Option Reporting :=
  (t.find? manufacturer model).bind (·.reporting? c)

/-! ### Known devices -/

/-- Corrections for devices that are known to need them. -/
def knownEntries : List Entry :=
  [ -- Level 0 switches these bulbs off instead of dimming them.
    ⟨"IKEA of Sweden", "TRADFRI bulb", .leading, [.clampRange .brightness 1 254]⟩,
    -- The relay reports and takes on and off inverted.
    ⟨"_TZ3000_ji4araar", "TS0001", .exact, [.invertBoolean .onOff true]⟩,
    -- The battery is reported in percent already.
    ⟨"_TZ3000_ji4araar", "TS0202", .exact,
      [.scaleNumeric .battery 2.0 0.0, .clampRange .battery 0 100]⟩,
    ⟨"LUMI", "lumi.weather", .exact, [.overrideReporting .temperature ⟨10, 3600, 50⟩]⟩,
    -- Reports of the battery voltage are unreliable.
    ⟨"LUMI", "lumi.sensor_motion", .leading, [.ignoreSpurious .battery]⟩ ]

/-- The table that holds the known devices. -/
def builtin : CorrectionTable := (empty.registerAll (knownEntries.map .ok)).1

end CorrectionTable

end MeshBridge
