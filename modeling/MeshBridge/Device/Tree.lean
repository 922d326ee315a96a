import MeshBridge.Address
import MeshBridge.Attribute.Value
import MeshBridge.Table
/-!
A device as a tree: a node has endpoints, an endpoint clusters, a cluster attributes. Each level
keeps its children in a table by number, so a number occurs once under its parent.
-/

set_option autoImplicit false
set_option relaxedAutoImplicit false

namespace MeshBridge

def hex16 (n : UInt16) : String := "0x" ++ Hex.padded .upper 4 n.toNat

/-- The profile of devices for home automation. -/
def homeAutomationProfile : UInt16 := 0x0104

/-- A typed value under a number. -/
structure Attribute where
  id : UInt16
  value : AttributeValue
  reportable : Bool
  deriving DecidableEq

namespace Attribute

/-- Replaces the value by one of the same type. -/
def setValue (a : Attribute) (v : AttributeValue) : Except Fault Attribute :=
  if v.type = a.value.type then .ok { a with value := v }
  else .error (.invalidArgument ("attribute " ++ hex16 a.id ++ " is " ++ a.value.type.label ++
    ", got " ++ v.type.label))

end Attribute

structure Cluster where
  id : UInt16
  /-- Whether the device serves the cluster or uses it. -/
  isServer : Bool
  attributes : Table UInt16 Attribute
  deriving DecidableEq

namespace Cluster

def new (id : UInt16) (isServer : Bool) : Cluster := ⟨id, isServer, ∅⟩

/-- Declares an attribute, which holds the zero of its type until a value is stored. -/
def addAttribute (c : Cluster) (id : UInt16) (type : AttributeType) (reportable : Bool) :
    Except Fault Cluster :=
  if c.attributes.contains id then
    .error (.alreadyExists ("attribute " ++ hex16 id ++ " in cluster " ++ hex16 c.id))
  else .ok { c with attributes := c.attributes.insert id ⟨id, .zero type, reportable⟩ }

/-- Stores a reported value whatever the type of the one before; an attribute not seen before is
taken as reportable. -/
def store (c : Cluster) (id : UInt16) (v : AttributeValue) : Cluster :=
  let reportable := match c.attributes.get? id with
    | some a => a.reportable
    | none => true
  let kept := match c.attributes.get? id with
    | some a => a.id
    | none => id
  { c with attributes := c.attributes.insert id ⟨kept, v, reportable⟩ }

/-- Whether storing a value changes anything. -/
def storeChanges (c : Cluster) (id : UInt16) (v : AttributeValue) : Bool :=
  (c.attributes.get? id).map (·.value) ≠ some v

end Cluster

structure Endpoint where
  id : UInt8
  profile : UInt16
  deviceType : UInt16
  clusters : Table UInt16 Cluster
  deriving DecidableEq

namespace Endpoint

def new (id : UInt8) (profile deviceType : UInt16) : Endpoint := ⟨id, profile, deviceType, ∅⟩

def addCluster (e : Endpoint) (id : UInt16) (isServer : Bool) : Except Fault Endpoint :=
  if e.clusters.contains id then
    .error (.alreadyExists ("cluster " ++ hex16 id ++ " on endpoint " ++ toString e.id))
  else .ok { e with clusters := e.clusters.insert id (.new id isServer) }

/-- The cluster of a number, or a new one that the device serves. -/
def clusterOrNew (e : Endpoint) (id : UInt16) : Cluster :=
  (e.clusters.get? id).getD (.new id true)

/-- Puts a cluster under a number. -/
def setCluster (e : Endpoint) (id : UInt16) (c : Cluster) : Endpoint :=
  { e with clusters := e.clusters.insert id c }

end Endpoint

/-- A device. Manufacturer and model are empty until they are reported. -/
structure Node where
  device : Eui64
  address : NetworkAddress
  manufacturer : String
  model : String
  online : Bool
  /-- When the device last announced itself or reported, in seconds of civil time. -/
  lastSeen : Int64
  endpoints : Table UInt8 Endpoint
  deriving DecidableEq

namespace Node

def new (device : Eui64) (address : NetworkAddress) (now : Int64) : Node :=
  ⟨device, address, "", "", true, now, ∅⟩

def addEndpoint (n : Node) (e : Endpoint) : Except Fault Node :=
  if n.endpoints.contains e.id then
    .error (.alreadyExists ("endpoint " ++ toString e.id ++ " on " ++ toString n.device))
  else .ok { n with endpoints := n.endpoints.insert e.id e }

/-- The endpoint of a number, or a new one of unknown device type. -/
def endpointOrNew (n : Node) (id : UInt8) : Endpoint :=
  (n.endpoints.get? id).getD (.new id homeAutomationProfile 0)

/-- Puts an endpoint under a number. -/
def setEndpoint (n : Node) (id : UInt8) (e : Endpoint) : Node :=
  { n with endpoints := n.endpoints.insert id e }

/-- The first endpoint, by number, that has a cluster. -/
def endpointWith? (n : Node) (cluster : UInt16) : Option Endpoint :=
  n.endpoints.values.find? (·.clusters.contains cluster)

def cluster? (n : Node) (endpoint : UInt8) (cluster : UInt16) : Option Cluster :=
  (n.endpoints.get? endpoint).bind (·.clusters.get? cluster)

def attribute? (n : Node) (endpoint : UInt8) (cluster attr : UInt16) : Option Attribute :=
  (n.cluster? endpoint cluster).bind (·.attributes.get? attr)

/-- Stores a reported value, creating what is missing on the way to it. -/
def store (n : Node) (endpoint : UInt8) (cluster attr : UInt16) (v : AttributeValue) : Node :=
  let e := n.endpointOrNew endpoint
  n.setEndpoint endpoint (e.setCluster cluster ((e.clusterOrNew cluster).store attr v))

end Node

end MeshBridge
