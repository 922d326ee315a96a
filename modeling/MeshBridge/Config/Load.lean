import MeshBridge.Config.Document
import MeshBridge.Decimal.Numeral
/-!
Finding the configuration: the file that was asked for, else the one that the environment names,
else the usual one if it is there. Variables of the environment take precedence over the file.
-/

set_option autoImplicit false
set_option relaxedAutoImplicit false

namespace MeshBridge

/-- What a program can see of the machine it runs on. -/
structure Surroundings where
  /-- The text of a file, if it can be read. -/
  file : (path : String) → Option String
  environment? : (name : String) → Option String

namespace Surroundings

/-- The value of a variable that is not empty. -/
def filled? (s : Surroundings) (name : String) : Option String :=
  (s.environment? name).filter (!·.isEmpty)

/-- Whether log lines are to be JSON. -/
def logsJson (s : Surroundings) : Bool := s.environment? "ZIGBRIDGE_LOG_JSON" = some "true"

end Surroundings

namespace BridgeConfig

def usualFile : String := "zigbridge.toml"

/-- The settings with those of the environment in their place. -/
def override (s : Surroundings) (c : BridgeConfig) : BridgeConfig :=
  let timeout := (s.environment? "ZIGBRIDGE_CMD_TIMEOUT_MS").bind (Decimal.unsigned? UInt64.size)
  let baseTopic := s.filled? "ZIGBRIDGE_MQTT_BASE_TOPIC"
  let path := s.filled? "ZIGBRIDGE_STORAGE_PATH"
  { c with
    adapter := { c.adapter with commandTimeout := timeout.getD c.adapter.commandTimeout }
    mqtt := { c.mqtt with baseTopic := baseTopic.getD c.mqtt.baseTopic }
    storage := { c.storage with path := path.or c.storage.path } }

/-- The configuration in a file that has to be there. -/
def ofFile (s : Surroundings) (path : String) : Except Fault BridgeConfig :=
  match s.file path with
  | some text => ofText text
  | none => .error (.config "cannot read file")

/-- The configuration to run with. It is checked before and after the environment is looked at. -/
def load (s : Surroundings) (path : Option String) : Except Fault BridgeConfig := do
  let written ← match path.or (s.environment? "ZIGBRIDGE_CONFIG") with
    | some path => ofFile s path
    | none =>
      match s.file usualFile with
      | some text => ofText text
      | none => .ok default
  let c := written.override s
  c.validate
  .ok c

end BridgeConfig

end MeshBridge
