import MeshBridge.Attribute.Wire
import MeshBridge.Coordinator.Basic
/-!
What devices report: that they joined or left, and the values of their attributes. The cache tells
who is in reach; the registry keeps every device that was ever seen, those out of reach as offline.
-/

set_option autoImplicit false
set_option relaxedAutoImplicit false

namespace MeshBridge

/-- A report of an attribute as it came over the air. -/
structure Report where
  address : NetworkAddress
  endpoint : UInt8
  cluster : UInt16
  attr : UInt16
  typeId : UInt8
  raw : List UInt8
  deriving DecidableEq, Repr

namespace Coordinator

variable {ρ σ : Type}

/-- Takes the device that lost its address offline; nothing to tell if it was so already. -/
def takeOffline (devices : Registry) (displaced : Option CacheEntry) :
    Registry × List Event :=
  match displaced with
  | none => (devices, [])
  | some entry =>
    match devices.find? entry.device with
    | some node =>
      if node.online then
        ((devices.modify? entry.device fun node ↦ { node with online := false }).getD devices,
          [.deviceLeft entry.device])
      else (devices, [])
    | none => (devices, [])

/-- A device announced its address. -/
def announce (c : Coordinator ρ σ) (now : Moment) (device : Eui64) (address : NetworkAddress) :
    Step ρ σ Unit :=
  match c.requireAlive with
  | .error f => c.refuse f
  | .ok () =>
    match c.cache.put device address with
    | (cache, .error f) => ⟨{ c with cache }, [], .error f⟩
    | (cache, .ok displaced) =>
      let (devices, left) := takeOffline c.devices displaced
      ⟨{ c with cache, devices := devices.upsert device address now.civil },
        left ++ [.deviceJoined device address], .ok ()⟩

/-- A device left. It stays known, as offline. -/
def leave (c : Coordinator ρ σ) (device : Eui64) : Step ρ σ Unit :=
  match c.requireAlive with
  | .error f => c.refuse f
  | .ok () =>
    match c.cache.remove device, c.devices.setOnline device false with
    | .error _, .error _ => c.refuse (unknownDevice device)
    | .ok (cache, _), .ok devices => ⟨{ c with cache, devices }, [.deviceLeft device], .ok ()⟩
    | .ok (cache, _), .error _ => ⟨{ c with cache }, [.deviceLeft device], .ok ()⟩
    | .error _, .ok devices => ⟨{ c with devices }, [.deviceLeft device], .ok ()⟩

/-- Whether a correction drops what a device reports. -/
def isSpurious (corrections : CorrectionTable) (node : Node) (cluster attr : UInt16)
    (v : AttributeValue) : Bool :=
  let corrected := do
    let capability ← Capability.ofAttributeId? cluster attr
    let value ← capability.ofAttribute v
    some (corrections.correctReport node.manufacturer node.model capability value)
  corrected.any (·.ignored)

/-- The names by which a device tells what it is. -/
def identify (node : Node) (cluster attr : UInt16) (v : AttributeValue) : Node :=
  match v with
  | .string text =>
    if cluster ≠ ClusterId.basic then node
    else if attr = AttributeId.manufacturerName then { node with manufacturer := text }
    else if attr = AttributeId.modelIdentifier then { node with model := text }
    else node
  | _ => node

/-- The device at the address of a report, and the cache with its entry refreshed: its address is
given to it again. -/
def reporter (c : Coordinator ρ σ) (address : NetworkAddress) :
    AddressCache × Except Fault Eui64 :=
  match c.cache.lookupByAddress address with
  | none => (c.cache, .error (Registry.unknownAddress address))
  | some entry =>
    match c.cache.put entry.device address with
    | (cache, .error f) => (cache, .error f)
    | (cache, .ok _) => (cache, .ok entry.device)

/-- Stores the value a node reported, with what it says about the node itself. -/
def record (node : Node) (now : Moment) (r : Report) (v : AttributeValue) : Node :=
  { identify node r.cluster r.attr v with online := true, lastSeen := now.civil }.store
    r.endpoint r.cluster r.attr v

/-- A report arrived. Its value is stored, and what is missing on the way to it is created. -/
def report (c : Coordinator ρ σ) (now : Moment) (r : Report) : Step ρ σ Unit :=
  match Wire.decode r.typeId r.raw with
  | .error f => c.refuse f
  | .ok value =>
    match c.requireAlive with
    | .error f => c.refuse f
    | .ok () =>
      match c.reporter r.address with
      | (cache, .error f) => ⟨{ c with cache }, [], .error f⟩
      | (cache, .ok device) =>
        match c.devices.find? device with
        | none => ⟨{ c with cache }, [], .error (unknownDevice device)⟩
        | some node =>
          if isSpurious c.corrections node r.cluster r.attr value then
            ⟨{ c with cache }, [], .ok ()⟩
          else
            let nodes := c.devices.nodes.insert device (record node now r value)
            ⟨{ c with cache, devices := { c.devices with nodes } },
              [.attributeChanged device r.endpoint r.cluster r.attr value], .ok ()⟩

/-- Forgets a device. It is told to have left if it was online. -/
def remove (c : Coordinator ρ σ) (device : Eui64) : Step ρ σ Unit :=
  match c.requireAlive with
  | .error f => c.refuse f
  | .ok () =>
    match c.cache.remove device, c.devices.delete device with
    | .error _, .error f => c.refuse f
    | .ok (cache, _), .error _ => ⟨{ c with cache }, [], .ok ()⟩
    | cached, .ok (devices, node) =>
      let cache := match cached with
        | .ok (cache, _) => cache
        | .error _ => c.cache
      ⟨{ c with cache, devices }, if node.online then [.deviceLeft device] else [], .ok ()⟩

end Coordinator

end MeshBridge
