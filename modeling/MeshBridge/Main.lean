import MeshBridge.CommandLine.Disk
/-!
The program. Here files and variables are read and output is written; all that is decided is decided
by `CommandLine.output`.
-/

set_option autoImplicit false
set_option relaxedAutoImplicit false

namespace MeshBridge.CommandLine

/-- The bytes of a file that can be read. -/
def readBytes (path : String) : IO (Option (List UInt8)) := do
  try return some (← IO.FS.readBinFile path).toList catch _ => return none

/-- The text in a file. -/
def readText (path : String) : IO (Option String) := do
  return (← readBytes path).bind fun bytes ↦ (Utf8.decode bytes).toOption

/-- The files whose paths the arguments or the environment may name. -/
def gather (paths : List String) : IO (String → Option String) := do
  let texts ← paths.mapM fun path ↦ do return (path, ← readText path)
  return fun path ↦ (texts.lookup path).join

/-- The variables of the environment that matter. -/
def consulted : List String :=
  ["ZIGBRIDGE_CONFIG", "ZIGBRIDGE_CMD_TIMEOUT_MS", "ZIGBRIDGE_MQTT_BASE_TOPIC",
    "ZIGBRIDGE_STORAGE_PATH", "ZIGBRIDGE_LOG_JSON"]

/-- The path of a configuration among the arguments. -/
def configPath? (arguments : List String) : Option String :=
  match parse arguments with
  | some (.perform _ path) => path
  | _ => none

/-- The path of the store that the arguments and a configuration in order ask for. -/
def storePath? (s : Surroundings) (arguments : List String) : Option String :=
  match parse arguments with
  | some (.perform (.run _) path) => (BridgeConfig.load s path).toOption.bind (·.storage.path)
  | _ => none

/-- Writes a store to its file, and tells whether that went well. -/
def save (path : String) (store : FlatStore) : IO Bool := do
  try
    IO.FS.writeBinFile path ⟨(StoreFile.render store).toArray⟩
    return true
  catch _ => return false

/-- Makes the directories above the file of a store, and the file if there is none. -/
def openStore (path : String) : IO StoreFile := do
  try
    let up := Disk.above (Disk.parts path)
    unless up.isEmpty do IO.FS.createDirAll ("/".intercalate up)
    match ← readBytes path with
    | some bytes => return .ofBytes bytes
    | none =>
      let _ ← IO.FS.Handle.mk path .writeNew
      return .absent
  catch _ => return .foreign

end MeshBridge.CommandLine

open MeshBridge.CommandLine in
def main (arguments : List String) : IO UInt32 := do
  let values ← consulted.mapM fun name ↦ do return (name, ← IO.getEnv name)
  let environment? (name : String) : Option String := (values.lookup name).join
  let named := (configPath? arguments).toList ++ (environment? "ZIGBRIDGE_CONFIG").toList ++
    [MeshBridge.BridgeConfig.usualFile]
  let seen : MeshBridge.Surroundings := ⟨← gather named, environment?⟩
  let found ← (storePath? seen arguments).mapM openStore
  let out := output ⟨seen, fun _ ↦ found.getD .foreign⟩ arguments
  let saved ← match out.store with
    | some (path, some store) => save path store
    | _ => pure true
  if saved then
    IO.sleep (UInt32.ofNat (out.seconds * 1000))
    IO.print out.text
    return UInt32.ofNat out.status
  else return 1
