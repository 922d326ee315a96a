import MeshBridge.Device.Registry
import MeshBridge.Capability.Basic
import Mathlib.Tactic.SplitIfs
/-!
What is known of a device by its own reports: its two names and the values of its attributes. An
unknown device and one of which nothing was reported have the same blank profile. Joining, leaving
and losing an address change no profile (`profile_upsert`, `profile_online`), and a value that is
stored is found at its own path and changes nothing at any other (`Node.profile_store`).
-/

set_option autoImplicit false
set_option relaxedAutoImplicit false

namespace MeshBridge

/-- The names of a device, and the values of its attributes by endpoint, cluster and number. -/
@[ext]
structure Profile where
  manufacturer : String
  model : String
  value? : UInt8 → UInt16 → UInt16 → Option AttributeValue

namespace Profile

/-- Nothing was reported. -/
def blank : Profile := ⟨"", "", fun _ _ _ ↦ none⟩

/-- The text that a value gives a name of a device, if the attribute is the one for that name. -/
def named? (name cluster attr : UInt16) (v : AttributeValue) : Option String :=
  if cluster = ClusterId.basic ∧ attr = name then v.text? else none

/-- What is known once a value was reported. -/
def learn (p : Profile) (endpoint : UInt8) (cluster attr : UInt16) (v : AttributeValue) :
    Profile where
  manufacturer := (named? AttributeId.manufacturerName cluster attr v).getD p.manufacturer
  model := (named? AttributeId.modelIdentifier cluster attr v).getD p.model
  value? := fun e k a ↦
    if e = endpoint ∧ k = cluster ∧ a = attr then some v else p.value? e k a

end Profile

/-! ### Trees -/

/-- A stored value is found under its number, and all others are as before. -/
theorem Cluster.value_store (c : Cluster) (attr : UInt16) (v : AttributeValue) (a : UInt16) :
    ((c.store attr v).attributes.get? a).map (·.value) =
      if a = attr then some v else (c.attributes.get? a).map (·.value) := by
  simp only [store, Table.get?_insert]
  split_ifs <;> rfl

/-- A cluster that was just made has no attributes. -/
theorem Endpoint.get?_clusterOrNew (e : Endpoint) (cluster a : UInt16) :
    (e.clusterOrNew cluster).attributes.get? a =
      (e.clusters.get? cluster).bind (·.attributes.get? a) := by
  unfold clusterOrNew
  cases e.clusters.get? cluster <;> rfl

/-- An endpoint that was just made has no clusters. -/
theorem Node.get?_endpointOrNew (n : Node) (endpoint : UInt8) (k : UInt16) :
    (n.endpointOrNew endpoint).clusters.get? k =
      (n.endpoints.get? endpoint).bind (·.clusters.get? k) := by
  unfold endpointOrNew
  cases n.endpoints.get? endpoint <;> rfl

namespace Node

def value? (n : Node) (endpoint : UInt8) (cluster attr : UInt16) : Option AttributeValue :=
  (n.attribute? endpoint cluster attr).map (·.value)

/-- A value that is stored is found at its path, and the values at all other paths are as before,
whatever had to be created on the way. -/
theorem value?_store (n : Node) (endpoint : UInt8) (cluster attr : UInt16) (v : AttributeValue)
    (e : UInt8) (k a : UInt16) :
    (n.store endpoint cluster attr v).value? e k a =
      if e = endpoint ∧ k = cluster ∧ a = attr then some v else n.value? e k a := by
  simp only [value?, attribute?, cluster?, store, setEndpoint, Endpoint.setCluster]
  rw [Table.get?_insert]
  by_cases he : e = endpoint
  · subst he
    simp only [if_true, Option.bind_some, Table.get?_insert]
    by_cases hk : k = cluster
    · subst hk
      rw [if_pos rfl, Option.bind_some, Cluster.value_store, Endpoint.get?_clusterOrNew,
        get?_endpointOrNew]
      simp only [true_and]
    · rw [if_neg hk, if_neg (by simp [hk]), get?_endpointOrNew]
  · rw [if_neg he, if_neg (by simp [he])]

def profile (n : Node) : Profile := ⟨n.manufacturer, n.model, n.value?⟩

/-- Storing a value changes no name. -/
theorem profile_store (n : Node) (endpoint : UInt8) (cluster attr : UInt16) (v : AttributeValue) :
    (n.store endpoint cluster attr v).profile =
      { n.profile with
        value? := fun e k a ↦
          if e = endpoint ∧ k = cluster ∧ a = attr then some v else n.profile.value? e k a } := by
  ext e k a
  · rfl
  · rfl
  · exact congrArg (_ ∈ ·) (n.value?_store endpoint cluster attr v e k a) |>.to_iff

end Node

/-! ### Registries -/

namespace Registry

/-- What is known of a device, nothing if the device is unknown. -/
def profile (r : Registry) (device : Eui64) : Profile :=
  ((r.find? device).map Node.profile).getD .blank

theorem profile_of_find? {r : Registry} {device : Eui64} {node : Node}
    (h : r.find? device = some node) : r.profile device = node.profile := by
  rw [profile, h]
  rfl

theorem attribute?_eq (r : Registry) (p : AttributePath) :
    r.attribute? p = (r.profile p.device).value? p.endpoint p.cluster p.attr := by
  rw [attribute?, profile]
  cases r.find? p.device <;> rfl

/-- Putting a node changes the profile of its device only. -/
theorem profile_insert (nodes : Table Eui64 Node) (holders : Table NetworkAddress Eui64)
    (device : Eui64) (node : Node) (d : Eui64) :
    profile ⟨nodes.insert device node, holders⟩ d =
      if d = device then node.profile else profile ⟨nodes, holders⟩ d := by
  simp only [profile, find?, Table.get?_insert]
  by_cases hd : d = device
  · rw [if_pos hd, if_pos hd]
    rfl
  · rw [if_neg hd, if_neg hd]

/-- Putting a node with the profile that its device has changes no profile. -/
theorem profile_insert_same {r : Registry} {device : Eui64} {node : Node}
    (holders : Table NetworkAddress Eui64) (hnode : node.profile = r.profile device) (d : Eui64) :
    profile ⟨r.nodes.insert device node, holders⟩ d = r.profile d := by
  rw [profile_insert]
  split_ifs with hd
  · rw [hnode, hd]
  · rfl

theorem profile_upsert (r : Registry) (device : Eui64) (address : NetworkAddress) (now : Int64)
    (d : Eui64) : (r.upsert device address now).profile d = r.profile d := by
  unfold upsert
  cases hnode : r.nodes.get? device with
  | none =>
    have hblank : (Node.new device address now).profile = r.profile device := by
      rw [profile, find?, hnode]
      rfl
    exact profile_insert_same _ hblank d
  | some node =>
    have hsame : Node.profile { node with device, address, online := true, lastSeen := now } =
        r.profile device := (profile_of_find? hnode).symm
    exact profile_insert_same _ hsame d

/-- A known device changes no profile by going online or offline. -/
theorem profile_online {r after : Registry} {device : Eui64} {online : Bool}
    (h : r.modify? device (fun node ↦ { node with online }) = some after) (d : Eui64) :
    after.profile d = r.profile d := by
  obtain ⟨node, hnode, rfl⟩ := Option.map_eq_some_iff.1 h
  refine profile_insert_same r.holders ?_ d
  have hprofile : r.profile device = node.profile := profile_of_find? hnode
  rw [hprofile]
  rfl

theorem profile_setOnline {r after : Registry} {device : Eui64} {online : Bool}
    (h : r.setOnline device online = .ok after) (d : Eui64) : after.profile d = r.profile d := by
  unfold setOnline at h
  split at h
  · next changed hmodify =>
    cases h
    exact profile_online hmodify d
  · cases h

/-- Nothing is known of a device that was deleted. -/
theorem profile_delete {r after : Registry} {device : Eui64} {node : Node}
    (h : r.delete device = .ok (after, node)) (d : Eui64) :
    after.profile d = if d = device then .blank else r.profile d := by
  unfold delete at h
  split at h
  · cases h
    simp only [profile, find?, Table.get?_erase]
    split_ifs <;> rfl
  · cases h

theorem profile_of_delete_error {r : Registry} {device : Eui64} {f : Fault}
    (h : r.delete device = .error f) : r.profile device = .blank := by
  unfold delete at h
  split at h
  · cases h
  · next hnone => rw [profile, find?, hnone]; rfl

end Registry

end MeshBridge
