import MeshBridge.Device.Tree
/-!
All known devices, by global address and by network address. A network address points to the device
that claimed it last; a device that lost its address keeps it as a stale field, so every operation
that gives an address up first asks whose it is.
-/

set_option autoImplicit false
set_option relaxedAutoImplicit false

namespace MeshBridge

/-- Where an attribute is found. -/
structure AttributePath where
  device : Eui64
  endpoint : UInt8
  cluster : UInt16
  attr : UInt16
  deriving DecidableEq, Repr

instance : ToString AttributePath where
  toString p := toString p.device ++ "/" ++ toString p.endpoint ++ "/" ++ hex16 p.cluster ++ "/" ++
    hex16 p.attr

structure Registry where
  nodes : Table Eui64 Node
  /-- The device that holds a network address. -/
  holders : Table NetworkAddress Eui64
  deriving DecidableEq

namespace Registry

def empty : Registry := ⟨∅, ∅⟩

instance : Inhabited Registry := ⟨empty⟩

def unknownNode (device : Eui64) : Fault := .notFound ("node " ++ toString device)

def unknownAddress (address : NetworkAddress) : Fault :=
  .notFound ("network address " ++ hex16 address)

def find? (r : Registry) (device : Eui64) : Option Node := r.nodes.get? device

def findByAddress? (r : Registry) (address : NetworkAddress) : Option Node :=
  (r.holders.get? address).bind r.nodes.get?

/-- Gives up an address if the device still holds it. -/
def release (holders : Table NetworkAddress Eui64) (device : Eui64) (address : NetworkAddress) :
    Table NetworkAddress Eui64 :=
  if holders.get? address = some device then holders.erase address else holders

/-- Makes a device the holder of an address, and gives up the one it held before. -/
def claim (r : Registry) (device : Eui64) (address : NetworkAddress) : Registry :=
  let released := match r.nodes.get? device with
    | some node => release r.holders device node.address
    | none => r.holders
  { r with holders := released.insert address device }

/-- Puts a node under its own global address. -/
def setNode (r : Registry) (node : Node) : Registry :=
  { r with nodes := r.nodes.insert node.device node }

def create (r : Registry) (device : Eui64) (address : NetworkAddress) (now : Int64) :
    Except Fault Registry :=
  if r.nodes.contains device then .error (.alreadyExists ("node " ++ toString device))
  else .ok ((r.claim device address).setNode (.new device address now))

/-- Creates a node, or brings a known one online at the address. -/
def upsert (r : Registry) (device : Eui64) (address : NetworkAddress) (now : Int64) : Registry :=
  let node := match r.nodes.get? device with
    | some node => { node with device, address, online := true, lastSeen := now }
    | none => .new device address now
  (r.claim device address).setNode node

/-- Removes a node with all below it. -/
def delete (r : Registry) (device : Eui64) : Except Fault (Registry × Node) :=
  match r.nodes.get? device with
  | some node =>
    .ok (⟨r.nodes.erase device, release r.holders device node.address⟩, node)
  | none => .error (unknownNode device)

def deleteByAddress (r : Registry) (address : NetworkAddress) : Except Fault (Registry × Node) :=
  match r.holders.get? address with
  | some device => r.delete device
  | none => .error (unknownAddress address)

/-- Replaces a known node. -/
def modify? (r : Registry) (device : Eui64) (f : Node → Node) : Option Registry :=
  (r.nodes.get? device).map fun node ↦ { r with nodes := r.nodes.insert device (f node) }

def setOnline (r : Registry) (device : Eui64) (online : Bool) : Except Fault Registry :=
  match r.modify? device fun node ↦ { node with online } with
  | some r => .ok r
  | none => .error (unknownNode device)

def attribute? (r : Registry) (p : AttributePath) : Option AttributeValue :=
  ((r.find? p.device).bind (·.attribute? p.endpoint p.cluster p.attr)).map (·.value)

/-- Sets the value of an attribute that exists, to a value of its type. -/
def setAttribute (r : Registry) (p : AttributePath) (v : AttributeValue) : Except Fault Registry :=
  let found := do
    let node ← r.nodes.get? p.device
    let endpoint ← node.endpoints.get? p.endpoint
    let cluster ← endpoint.clusters.get? p.cluster
    let a ← cluster.attributes.get? p.attr
    some (node, endpoint, cluster, a)
  match found with
  | none => .error (.notFound (toString p))
  | some (node, endpoint, cluster, a) => do
    let a ← a.setValue v
    let cluster := { cluster with attributes := cluster.attributes.insert p.attr a }
    .ok { r with
      nodes := r.nodes.insert p.device
        (node.setEndpoint p.endpoint (endpoint.setCluster p.cluster cluster)) }

/-- All nodes in the order of their global addresses. -/
def snapshot (r : Registry) : List Node := r.nodes.values

end Registry

end MeshBridge
