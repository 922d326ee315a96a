import MeshBridge.Device.Registry
/-!
Requests to the registry as data, and their answers. Most reach one level of a device tree; where a
level on the way is missing there is no answer, and nothing changes.
-/

set_option autoImplicit false
set_option relaxedAutoImplicit false

namespace MeshBridge

/-- A request to the registry. -/
inductive RegistryRequest where
  | create (device : Eui64) (address : NetworkAddress)
  | upsert (device : Eui64) (address : NetworkAddress)
  | find (device : Eui64)
  | findByAddress (address : NetworkAddress)
  | delete (device : Eui64)
  | deleteByAddress (address : NetworkAddress)
  | setOnline (device : Eui64) (online : Bool)
  | identify (device : Eui64) (manufacturer model : String)
  /-- Notes that the device at an address was heard of. -/
  | touchByAddress (address : NetworkAddress)
  | setAttribute (path : AttributePath) (value : AttributeValue)
  | getAttribute (path : AttributePath)
  | addEndpoint (device : Eui64) (endpoint : Endpoint)
  | endpointOrInsert (device : Eui64) (endpoint : UInt8)
  | removeEndpoint (device : Eui64) (endpoint : UInt8)
  | endpointWith (device : Eui64) (cluster : UInt16)
  | endpoints (device : Eui64)
  | size
  | isEmpty
  | nodes
  | snapshot
  | addCluster (device : Eui64) (endpoint : UInt8) (cluster : UInt16) (isServer : Bool)
  | hasCluster (device : Eui64) (endpoint : UInt8) (cluster : UInt16)
  | clusterOrInsert (device : Eui64) (endpoint : UInt8) (cluster : UInt16)
  | addAttribute (path : AttributePath) (type : AttributeType) (reportable : Bool)
  | store (path : AttributePath) (value : AttributeValue)
  | attributes (device : Eui64) (endpoint : UInt8) (cluster : UInt16)

/-- What the registry answers. -/
inductive RegistryReply where
  | done
  | flag (b : Bool)
  | count (n : Nat)
  | node (n : Option Node)
  | device (d : Eui64)
  | devices (ds : List Eui64)
  | nodes (ns : List Node)
  | value (v : Option AttributeValue)
  | id (n : Option Nat)
  | endpoint (e : Option Endpoint)
  | endpoints (es : List Endpoint)
  | cluster (c : Cluster)
  | attr (a : Option Attribute)
  | attributes (as : List Attribute)

namespace Registry

/-- An answer with the registry after it; `none` if a level on the way is missing. -/
abbrev Answer := Option (Registry × Except Fault RegistryReply)

def readNode (r : Registry) (device : Eui64) (f : Node → RegistryReply) : Answer :=
  (r.find? device).map fun node ↦ (r, .ok (f node))

def readEndpoint (r : Registry) (device : Eui64) (endpoint : UInt8)
    (f : Endpoint → RegistryReply) : Answer := do
  let node ← r.find? device
  let e ← node.endpoints.get? endpoint
  some (r, .ok (f e))

/-- Replaces a node by what an update makes of it. -/
def updateNode (r : Registry) (device : Eui64)
    (f : Node → Except Fault (Node × RegistryReply)) : Answer :=
  (r.find? device).map fun node ↦
    match f node with
    | .ok (node, reply) => ({ r with nodes := r.nodes.insert device node }, .ok reply)
    | .error fault => (r, .error fault)

def updateEndpoint (r : Registry) (device : Eui64) (endpoint : UInt8)
    (f : Endpoint → Except Fault (Endpoint × RegistryReply)) : Answer := do
  let node ← r.find? device
  let e ← node.endpoints.get? endpoint
  r.updateNode device fun node ↦ do
    let (e, reply) ← f e
    .ok (node.setEndpoint endpoint e, reply)

def updateCluster (r : Registry) (p : AttributePath)
    (f : Cluster → Except Fault (Cluster × RegistryReply)) : Answer := do
  let node ← r.find? p.device
  let e ← node.endpoints.get? p.endpoint
  let c ← e.clusters.get? p.cluster
  r.updateEndpoint p.device p.endpoint fun e ↦ do
    let (c, reply) ← f c
    .ok (e.setCluster p.cluster c, reply)

/-- A registry after a change that may be refused. -/
def replaced (r : Registry) (after : Except Fault (Registry × RegistryReply)) : Answer :=
  match after with
  | .ok (r, reply) => some (r, .ok reply)
  | .error fault => some (r, .error fault)

def perform (now : Int64) (r : Registry) : RegistryRequest → Answer
  | .create device address =>
    r.replaced do
      let r ← r.create device address now
      .ok (r, .node (r.find? device))
  | .upsert device address =>
    some (r.upsert device address now, .ok (.flag (r.find? device).isNone))
  | .find device => some (r, .ok (.node (r.find? device)))
  | .findByAddress address => some (r, .ok (.node (r.findByAddress? address)))
  | .delete device => r.replaced ((r.delete device).map fun (r, node) ↦ (r, .node (some node)))
  | .deleteByAddress address =>
    r.replaced ((r.deleteByAddress address).map fun (r, node) ↦ (r, .node (some node)))
  | .setOnline device online => r.replaced ((r.setOnline device online).map fun r ↦ (r, .done))
  | .identify device manufacturer model =>
    r.updateNode device fun node ↦ .ok ({ node with manufacturer, model }, .done)
  | .touchByAddress address =>
    (r.findByAddress? address).map fun node ↦
      ((r.modify? node.device fun node ↦ { node with lastSeen := now }).getD r,
        .ok (.device node.device))
  | .setAttribute path value => r.replaced ((r.setAttribute path value).map fun r ↦ (r, .done))
  | .getAttribute path => some (r, .ok (.value (r.attribute? path)))
  | .addEndpoint device endpoint =>
    r.updateNode device fun node ↦ do
      let node ← node.addEndpoint endpoint
      .ok (node, .id (some endpoint.id.toNat))
  | .endpointOrInsert device endpoint =>
    r.updateNode device fun node ↦
      let e := node.endpointOrNew endpoint
      .ok (node.setEndpoint endpoint e, .endpoint (some e))
  | .removeEndpoint device endpoint =>
    r.updateNode device fun node ↦
      .ok ({ node with endpoints := node.endpoints.erase endpoint },
        .endpoint (node.endpoints.get? endpoint))
  | .endpointWith device cluster =>
    r.readNode device fun node ↦ .id ((node.endpointWith? cluster).map (·.id.toNat))
  | .endpoints device => r.readNode device fun node ↦ .endpoints node.endpoints.values
  | .size => some (r, .ok (.count r.nodes.size))
  | .isEmpty => some (r, .ok (.flag r.nodes.isEmpty))
  | .nodes => some (r, .ok (.devices (r.snapshot.map (·.device))))
  | .snapshot => some (r, .ok (.nodes r.snapshot))
  | .addCluster device endpoint cluster isServer =>
    r.updateEndpoint device endpoint fun e ↦ do
      let e ← e.addCluster cluster isServer
      .ok (e, .cluster (.new cluster isServer))
  | .hasCluster device endpoint cluster =>
    r.readEndpoint device endpoint fun e ↦ .flag (e.clusters.contains cluster)
  | .clusterOrInsert device endpoint cluster =>
    r.updateEndpoint device endpoint fun e ↦
      let c := e.clusterOrNew cluster
      .ok (e.setCluster cluster c, .cluster c)
  | .addAttribute path type reportable =>
    r.updateCluster path fun c ↦ do
      let c ← c.addAttribute path.attr type reportable
      .ok (c, .attr (c.attributes.get? path.attr))
  | .store path value =>
    r.updateCluster path fun c ↦
      .ok (c.store path.attr value, .flag (c.storeChanges path.attr value))
  | .attributes device endpoint cluster => do
    let node ← r.find? device
    let c ← node.cluster? endpoint cluster
    some (r, .ok (.attributes c.attributes.values))

end Registry

end MeshBridge
