import MeshBridge.Config.Basic
import MeshBridge.Coordinator.AddressCache
import MeshBridge.Coordinator.Lifecycle
import MeshBridge.Coordinator.Pending
import MeshBridge.Correction.Table
import MeshBridge.Device.Registry
import MeshBridge.Event
import MeshBridge.Radio.Basic
import MeshBridge.Store.Basic
/-!
The coordinator of a network: the lifecycle of the radio stack, the devices in reach, the commands
under way, and all devices ever seen. A call on it is a step: the coordinator after it, the events
to publish in order, and the result. Everything a call changes is changed before its first event is
published.
-/

set_option autoImplicit false
set_option relaxedAutoImplicit false

namespace MeshBridge

/-- Parameters of a formed network. -/
structure NetworkInfo where
  panId : UInt16
  channel : UInt8
  deriving DecidableEq, Repr

/-- The time of a call: milliseconds of a clock that is never set back, and seconds of civil
time. -/
structure Moment where
  ticks : Nat
  civil : Int64
  deriving DecidableEq, Repr, Inhabited

/-- A coordinator over a radio with states in `ρ` and a store with states in `σ`. -/
structure Coordinator (ρ σ : Type) where
  config : AdapterConfig
  lifecycle : Lifecycle
  network : Option NetworkInfo
  cache : AddressCache
  pending : PendingTable
  /-- The identifier of the next command. -/
  nextId : CorrelationId
  devices : Registry
  corrections : CorrectionTable
  radio : ρ
  store : Option σ

/-- What a call did. -/
structure Step (ρ σ α : Type) where
  after : Coordinator ρ σ
  events : List Event
  result : Except Fault α

/-- The same step with another form of its result. -/
def Step.map {ρ σ α β : Type} (f : α → β) (s : Step ρ σ α) : Step ρ σ β :=
  ⟨s.after, s.events, s.result.map f⟩

namespace Coordinator

variable {ρ σ α : Type}

/-- Whether there can be a coordinator with tables of these capacities. -/
def canHold (config : AdapterConfig) : Bool :=
  AddressCache.canHold config.maxDevices && PendingTable.canHold config.maxPending

def new (config : AdapterConfig) (corrections : CorrectionTable) (radio : ρ) (store : Option σ) :
    Coordinator ρ σ where
  config := config
  lifecycle := .uninitialized
  network := none
  cache := .empty config.maxDevices
  pending := .empty config.maxPending config.commandTimeout
  nextId := ⟨1⟩
  devices := .empty
  corrections := corrections
  radio := radio
  store := store

/-- A call that changed nothing. -/
def refuse (c : Coordinator ρ σ) (f : Fault) : Step ρ σ α := ⟨c, [], .error f⟩

def unknownDevice (device : Eui64) : Fault := .notFound ("device " ++ toString device)

def requireReady (c : Coordinator ρ σ) : Except Fault Unit :=
  if c.lifecycle = .ready then .ok ()
  else .error (.notReady ("adapter is " ++ c.lifecycle.label))

/-- Refuses what the radio reports after it failed for good. -/
def requireAlive (c : Coordinator ρ σ) : Except Fault Unit :=
  if c.lifecycle.isTerminal then .error (.notReady "adapter in error state") else .ok ()

def address? (c : Coordinator ρ σ) (device : Eui64) : Option NetworkAddress :=
  (c.cache.lookup device).map (·.address)

/-! ### Network parameters in the store -/

def networkSpace : String := "zigbee"

/-- Saves the parameters, the channel only after the network identifier. A fault is passed over. -/
def persist [KeyValueStore σ] (info : NetworkInfo) (store : σ) : σ :=
  match KeyValueStore.set networkSpace "pan_id" (.u16 info.panId) store with
  | .error _ => store
  | .ok saved =>
    (KeyValueStore.set networkSpace "channel" (.u8 info.channel) saved).toOption.getD saved

/-- The parameters saved last, if both are there. -/
def persistedNetwork [KeyValueStore σ] (c : Coordinator ρ σ) : Except Fault (Option NetworkInfo) :=
  match c.store with
  | none => .ok none
  | some store => do
    let panId ← KeyValueStore.getUInt16 networkSpace "pan_id" store
    let channel ← KeyValueStore.getUInt8 networkSpace "channel" store
    .ok do some ⟨← panId, ← channel⟩

/-! ### Lifecycle -/

def init (c : Coordinator ρ σ) : Step ρ σ Unit :=
  if c.lifecycle = .uninitialized then ⟨{ c with lifecycle := .initializing }, [], .ok ()⟩
  else c.refuse (.alreadyExists "adapter already initialized")

/-- Asks the radio to form a network. A ready coordinator has one already. -/
def start [Radio ρ] (c : Coordinator ρ σ) : Step ρ σ Unit :=
  match c.lifecycle with
  | .uninitialized => c.refuse .notInitialized
  | .ready => ⟨c, [], .ok ()⟩
  | .error => c.refuse (.notReady "adapter in error state")
  | .initializing =>
    match Radio.start c.radio with
    | (radio, .ok ()) => ⟨{ c with radio }, [], .ok ()⟩
    | (radio, .error rejection) =>
      let reason := "formation request refused: " ++ rejection.message
      ⟨{ c with radio, lifecycle := .error }, [.stackDown reason], .error (.stackFatal reason)⟩

/-- Opens the network for new devices. -/
def permitJoin [Radio ρ] (c : Coordinator ρ σ) (seconds : UInt8) : Step ρ σ Unit :=
  match c.requireReady with
  | .error f => c.refuse f
  | .ok () =>
    let (radio, answer) := Radio.permitJoin seconds c.radio
    ⟨{ c with radio }, [], answer.mapError fun rejection ↦ .protocolFailure rejection.code⟩

/-- The radio told how the formation of the network ended; only status 0 is a success. -/
def formed [KeyValueStore σ] (c : Coordinator ρ σ) (status panId : UInt16) (channel : UInt8) :
    Step ρ σ Unit :=
  if status = 0 then
    match c.lifecycle.move? .ready with
    | none => c.refuse (.notReady ("formation reported in state " ++ c.lifecycle.label))
    | some lifecycle =>
      let info : NetworkInfo := ⟨panId, channel⟩
      ⟨{ c with lifecycle, network := some info, store := c.store.map (persist info) },
        [.stackUp panId channel], .ok ()⟩
  else
    match c.lifecycle.move? .error with
    | none => c.refuse (.notReady ("formation failure reported in state " ++ c.lifecycle.label))
    | some lifecycle =>
      ⟨{ c with lifecycle },
        [.stackDown ("network formation failed (status 0x" ++ Hex.padded .upper 2 status.toNat ++
          ")")], .ok ()⟩

/-- The radio failed for good. -/
def fatal (c : Coordinator ρ σ) (reason : String) : Step ρ σ Unit :=
  match c.lifecycle.move? .error with
  | none => c.refuse (.notReady ("fatal error reported in state " ++ c.lifecycle.label))
  | some lifecycle => ⟨{ c with lifecycle }, [.stackDown reason], .ok ()⟩

end Coordinator

end MeshBridge
