import MeshBridge.Config.Basic
import MeshBridge.Gateway.Run
import MeshBridge.Radio.Simulated
/-!
A run against the simulated radio: a bulb and a sensor join, tell what they are and report, and the
bulb is sent commands, the last of which is never confirmed.
-/

set_option autoImplicit false
set_option relaxedAutoImplicit false

namespace MeshBridge.Simulation

open Gateway (Action)

def bulb : Eui64 := ⟨0x00124B001234ABCD⟩

def sensor : Eui64 := ⟨0x00158D0000000001⟩

/-- The network that is formed if none was saved. -/
def firstNetwork : NetworkInfo := ⟨0x1A62, 15⟩

/-- One thing that happens in a run. -/
inductive Stage where
  | action (a : Action)
  /-- Forms the network saved by an earlier run, or the first one. -/
  | form
  /-- Confirms the request that the radio accepted last. -/
  | confirm

/-- A text in the form in which devices report it. -/
def textReport (address : NetworkAddress) (attr : UInt16) (text : String) : Stage :=
  .action (.call (.report ⟨address, 1, ClusterId.basic, attr, 0x42,
    (Utf8.encode text).length.toUInt8 :: Utf8.encode text⟩))

/-- A device tells its manufacturer and its model. -/
def introduce (address : NetworkAddress) (manufacturer model : String) : List Stage :=
  [textReport address AttributeId.manufacturerName manufacturer,
    textReport address AttributeId.modelIdentifier model]

/-- The run, given the topic on which the bulb takes commands. -/
def stages (commandTopic : String) : List Stage :=
  [.action .attach, .action (.call .init), .action (.call .start), .form,
    .action (.call (.permitJoin 60)),
    .action (.call (.announce bulb 0x1234)), .action (.call (.announce sensor 0x5678))] ++
  introduce 0x1234 "IKEA of Sweden" "TRADFRI bulb E27 WS opal 980lm" ++
  introduce 0x5678 "LUMI" "lumi.weather" ++
  [.action (.call (.report
      ⟨0x5678, 1, ClusterId.temperatureMeasurement, AttributeId.main, 0x29,
        LittleEndian.encode 2 2150⟩)),
    .action (.carryOut ⟨sensor, 1⟩ (.configure .temperature)), .confirm,
    .action (.carryOut ⟨bulb, 1⟩ LightCommand.on.intent), .confirm,
    .action (.call (.report ⟨0x1234, 1, ClusterId.onOff, AttributeId.main, 0x10, [1]⟩)),
    .action (.receive commandTopic (Utf8.encode "\x7b\"brightness\": 0\x7d")), .confirm,
    .action (.carryOut ⟨bulb, 1⟩ (LightCommand.colorTemp 370).intent),
    .action .publishDevices]

variable {σ : Type}

/-- The action of a stage, as the gateway is now. -/
def Stage.action? [KeyValueStore σ] (g : Gateway SimulatedRadio σ) :
    Stage → Except Fault (Option Action)
  | .action a => .ok (some a)
  | .form =>
    g.coordinator.persistedNetwork.map fun saved ↦
      let network := saved.getD firstNetwork
      some (.call (.formed 0 network.panId network.channel))
  | .confirm => .ok (g.coordinator.radio.lastSequence?.map fun seq ↦ .call (.status seq 0))

/-- Runs stages in turn and tells whether none failed. -/
def run [KeyValueStore σ] : List Stage → Gateway SimulatedRadio σ → Gateway SimulatedRadio σ × Bool
  | [], g => (g, true)
  | stage :: rest, g =>
    match stage.action? g with
    | .error _ => (g, false)
    | .ok none => run rest g
    | .ok (some action) =>
      match g.perform action with
      | (g, .ok _) => run rest g
      | (g, .error _) => (g, false)

/-- A whole run: the store after it, and the state of the devices unless the run failed. -/
def complete [KeyValueStore σ] (config : BridgeConfig) (corrections : CorrectionTable) (store : σ) :
    σ × Option (List DeviceSnapshot) :=
  let g : Gateway SimulatedRadio σ :=
    .ofParts ⟨config.adapter, config.eventBus, config.mqtt, corrections, .empty, some store⟩
  let (g, finished) := run (stages (Topic.below g.broker.baseTopic (bulb.hex ++ "/set"))) g
  (g.coordinator.store.getD store, if finished then some g.coordinator.snapshot else none)

end MeshBridge.Simulation
