import MeshBridge.CommandLine.Arguments
import MeshBridge.Config.Load
import MeshBridge.Gateway.Simulation
import MeshBridge.Store.File
import MeshBridge.Store.Memory
/-!
What the program does with its arguments: what it writes, with which status it ends, and which store
it leaves behind.
-/

set_option autoImplicit false
set_option relaxedAutoImplicit false

namespace MeshBridge.CommandLine

/-- The surroundings of a program that can open stores. -/
structure Machine extends Surroundings where
  /-- What is found where a store is to be opened, the directories above it having been made. -/
  storeFile : (path : String) → StoreFile

structure Output where
  status : Nat
  text : String
  /-- Where a store was to be opened, and the store as it is at the end if that went well. -/
  store : Option (String × Option FlatStore)
  /-- How long the program waits before it writes its text. -/
  seconds : Nat

namespace Output

def success (text : String) : Output := ⟨0, text, none, 0⟩

/-- Something went wrong on the way. -/
def failure : Output := ⟨1, "", none, 0⟩

/-- The arguments were not in order. -/
def misuse : Output := ⟨2, "", none, 0⟩

/-- The program broke off, since a table was to be greater than any memory. -/
def breakdown : Output := ⟨101, "", none, 0⟩

end Output

def versionText : String := "zigbridge 0.1.0\n"

/-- The known devices and those of the configuration. -/
def correctionsOf (config : BridgeConfig) : Except Fault CorrectionTable :=
  match CorrectionTable.builtin.registerDocuments config.corrections with
  | (t, .ok _) => .ok t
  | (_, .error f) => .error f

/-- A number filled up with a blank to two places. -/
def twoPlaces (n : Nat) : String := if n < 10 then " " ++ toString n else toString n

def entryText (e : Correction.Entry) (index : Nat) : String :=
  twoPlaces index ++ "  " ++ e.manufacturer ++ " / " ++ e.model ++
    " (" ++ e.matching.label ++ ")\n" ++
    String.join (e.actions.map fun a ↦ "      " ++ toString a ++ "\n")

def listing (t : CorrectionTable) : String :=
  String.join (t.entries.zipIdx.map fun (e, index) ↦ entryText e index)

/-- Runs the simulation on a store: the store after it, and the output. -/
def simulateOn {σ : Type} [KeyValueStore σ] (config : BridgeConfig) (seconds : Nat) (store : σ) :
    σ × Output :=
  match correctionsOf config with
  | .error _ => (store, .failure)
  | .ok corrections =>
    if !Coordinator.canHold config.adapter then (store, .breakdown)
    else match Simulation.complete config corrections store with
      | (store, none) => (store, .failure)
      | (store, some devices) =>
        let text := Json.pretty (.arr (devices.map DeviceSnapshot.toJson)) ++ "\n"
        (store, { Output.success text with seconds })

/-- Runs the simulation on the store that the configuration names. -/
def simulate (m : Machine) (config : BridgeConfig) (seconds : Nat) : Output :=
  match config.storage.path with
  | none => (simulateOn config seconds MemoryStore.empty).2
  | some path =>
    match (m.storeFile path).load with
    | .error _ => { Output.failure with store := some (path, none) }
    | .ok store =>
      let (store, out) := simulateOn config seconds store
      { out with store := some (path, some store) }

def perform (m : Machine) (config : BridgeConfig) : Command → Output
  | .run seconds => simulate m config seconds
  | .corrections =>
    match correctionsOf config with
    | .ok t => .success (listing t)
    | .error _ => .failure
  | .config =>
    match config.render with
    | .ok text => .success text
    | .error _ => .failure

/-- The output of the program. Arguments are looked at before anything else. -/
def output (m : Machine) (arguments : List String) : Output :=
  match parse arguments with
  | none => .misuse
  | some .version => .success versionText
  | some .help => .success ""
  | some (.perform command path) =>
    match BridgeConfig.load m.toSurroundings path with
    | .ok config => perform m config command
    | .error _ => .failure

end MeshBridge.CommandLine
