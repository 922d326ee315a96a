import MeshBridge.Device.Request
import MeshBridge.Proofs.Device.Paths
/-!
What is filed under its own key. A registry keeps nodes by their addresses and a node its endpoints
by their numbers, and both also stand in what is kept. The two are the same at all times: whatever
is asked of a registry, every node stays filed under its own address and every endpoint under its
own number (`Registry.Filed.perform`).
-/

set_option autoImplicit false
set_option relaxedAutoImplicit false

namespace MeshBridge

/-! ### Tables -/

namespace Table

variable {κ α : Type} [Ord κ] {own : α → κ} {t : Table κ α} {key : κ} {a : α}

/-- Everything in a table is found under its own key. -/
def Filed (own : α → κ) (t : Table κ α) : Prop := ∀ key a, t.get? key = some a → own a = key

theorem filed_empty (own : α → κ) : (∅ : Table κ α).Filed own := by
  intro key a h
  cases h

variable [DecidableEq κ] [Std.TransOrd κ] [Std.LawfulEqOrd κ]

theorem Filed.insert (h : t.Filed own) (hown : own a = key) : (t.insert key a).Filed own := by
  intro k b hget
  rw [get?_insert] at hget
  split_ifs at hget with hk
  · cases hget
    exact hown.trans hk.symm
  · exact h k b hget

theorem Filed.erase (h : t.Filed own) : (t.erase key).Filed own := by
  intro k b hget
  rw [get?_erase] at hget
  split_ifs at hget
  exact h k b hget

omit [DecidableEq κ] in
/-- What is filed in a table stands there in the order of its keys. -/
theorem Filed.ascending_values (h : t.Filed own) :
    t.values.Pairwise fun a b ↦ compare (own a) (own b) = .lt := by
  refine List.pairwise_map.2 (t.ascending.imp_of_mem fun {e e'} he he' hlt ↦ ?_)
  rw [h e.1 e.2 (get?_eq_some_iff.2 he), h e'.1 e'.2 (get?_eq_some_iff.2 he')]
  exact hlt

omit [DecidableEq κ] in
theorem Filed.mem_values_iff (h : t.Filed own) : a ∈ t.values ↔ t.get? (own a) = some a := by
  constructor
  · intro hmem
    obtain ⟨e, he, rfl⟩ := List.mem_map.1 hmem
    have hget := get?_eq_some_iff.2 he
    rw [h e.1 e.2 hget]
    exact hget
  · intro hget
    exact List.mem_map_of_mem (get?_eq_some_iff.1 hget)

end Table

/-! ### Nodes -/

namespace Node

variable {n after : Node} {endpoint : UInt8}

/-- Every endpoint is filed under its own number. -/
def Filed (n : Node) : Prop := n.endpoints.Filed Endpoint.id

theorem filed_new (device : Eui64) (address : NetworkAddress) (now : Int64) :
    (new device address now).Filed :=
  Table.filed_empty _

theorem Filed.setEndpoint (h : n.Filed) {e : Endpoint} (he : e.id = endpoint) :
    (n.setEndpoint endpoint e).Filed :=
  Table.Filed.insert h he

/-- The endpoint of a number has that number, whether it is new or not. -/
theorem Filed.id_endpointOrNew (h : n.Filed) (endpoint : UInt8) :
    (n.endpointOrNew endpoint).id = endpoint := by
  unfold endpointOrNew
  cases hget : n.endpoints.get? endpoint with
  | none => rfl
  | some e => exact h endpoint e hget

theorem Filed.store (h : n.Filed) (endpoint : UInt8) (cluster attr : UInt16) (v : AttributeValue) :
    (n.store endpoint cluster attr v).Filed :=
  h.setEndpoint (h.id_endpointOrNew endpoint)

theorem Filed.addEndpoint (h : n.Filed) {e : Endpoint} (hadd : n.addEndpoint e = .ok after) :
    after.Filed ∧ after.device = n.device := by
  unfold Node.addEndpoint at hadd
  split_ifs at hadd
  cases hadd
  exact ⟨Table.Filed.insert h rfl, rfl⟩

end Node

/-! ### Registries -/

namespace Registry

variable {r after : Registry} {device : Eui64} {address : NetworkAddress}

/-- Every node is filed under its own address, and its endpoints under their own numbers. -/
structure Filed (r : Registry) : Prop where
  nodes : r.nodes.Filed Node.device
  endpoints : ∀ device node, r.find? device = some node → node.Filed

theorem filed_empty : empty.Filed where
  nodes := Table.filed_empty _
  endpoints device node h := by cases h

/-- A node is put under its own address. -/
theorem Filed.putNode (h : r.Filed) {node : Node} (hdevice : node.device = device)
    (hnode : node.Filed) (holders : Table NetworkAddress Eui64) :
    Filed ⟨r.nodes.insert device node, holders⟩ where
  nodes := h.nodes.insert hdevice
  endpoints d known hknown := by
    change (r.nodes.insert device node).get? d = some known at hknown
    rw [Table.get?_insert] at hknown
    split_ifs at hknown
    · cases hknown
      exact hnode
    · exact h.endpoints d known hknown

theorem Filed.create (h : r.Filed) {now : Int64}
    (hcreate : r.create device address now = .ok after) : after.Filed := by
  unfold Registry.create at hcreate
  split_ifs at hcreate
  cases hcreate
  exact h.putNode rfl (Node.filed_new device address now) _

theorem Filed.upsert (h : r.Filed) (device : Eui64) (address : NetworkAddress) (now : Int64) :
    (r.upsert device address now).Filed := by
  unfold Registry.upsert
  cases hnode : r.nodes.get? device with
  | none => exact h.putNode rfl (Node.filed_new device address now) _
  | some node =>
    have hfiled : Node.Filed { node with device, address, online := true, lastSeen := now } :=
      h.endpoints device node hnode
    exact h.putNode rfl hfiled _

theorem Filed.delete (h : r.Filed) {node : Node} (hdelete : r.delete device = .ok (after, node)) :
    after.Filed := by
  unfold Registry.delete at hdelete
  cases hknown : r.nodes.get? device with
  | none => rw [hknown] at hdelete; cases hdelete
  | some known =>
    rw [hknown] at hdelete
    cases hdelete
    refine ⟨h.nodes.erase, fun d left hleft ↦ ?_⟩
    change (r.nodes.erase device).get? d = some left at hleft
    rw [Table.get?_erase] at hleft
    split_ifs at hleft
    exact h.endpoints d left hleft

/-- Assumes: a change of nodes that keeps the address and the numbers of the endpoints. -/
theorem Filed.modify (h : r.Filed) {f : Node → Node}
    (hf : ∀ node, r.find? device = some node → (f node).device = node.device ∧ (f node).Filed)
    (hmodify : r.modify? device f = some after) : after.Filed := by
  obtain ⟨node, hnode, rfl⟩ := Option.map_eq_some_iff.1 hmodify
  obtain ⟨hdevice, hfiled⟩ := hf node hnode
  exact h.putNode (hdevice.trans (h.nodes device node hnode)) hfiled _

theorem Filed.setOnline (h : r.Filed) {online : Bool}
    (hset : r.setOnline device online = .ok after) : after.Filed := by
  unfold Registry.setOnline at hset
  split at hset
  · next hmodify =>
    cases hset
    refine h.modify (f := fun node ↦ { node with online }) (fun node hnode ↦ ⟨rfl, ?_⟩) hmodify
    exact h.endpoints device node hnode
  · cases hset

theorem Filed.setAttribute (h : r.Filed) {p : AttributePath} {v : AttributeValue}
    (hset : r.setAttribute p v = .ok after) : after.Filed := by
  obtain ⟨node, e, c, changed, hway, rfl⟩ := exists_leads_of_setAttribute hset
  have hfiled := h.endpoints p.device node hway.node_eq
  refine h.putNode ?_ (hfiled.setEndpoint ?_) _
  · exact h.nodes p.device node hway.node_eq
  · exact hfiled p.endpoint e hway.endpoint_eq

/-! ### Requests -/

/-- Replaces a node by what is made of it, which has the same address and files its endpoints. -/
theorem Filed.updateNode (h : r.Filed) {f : Node → Except Fault (Node × RegistryReply)}
    (hf : ∀ node changed reply, r.find? device = some node → f node = .ok (changed, reply) →
      changed.device = node.device ∧ changed.Filed) {reply : Except Fault RegistryReply}
    (hupdate : r.updateNode device f = some (after, reply)) : after.Filed := by
  obtain ⟨node, hnode, hafter⟩ := Option.map_eq_some_iff.1 hupdate
  split at hafter
  · next changed _ hchanged =>
    obtain ⟨hdevice, hfiled⟩ := hf node _ _ hnode hchanged
    cases hafter
    exact h.putNode (hdevice.trans (h.nodes device node hnode)) hfiled _
  · cases hafter
    exact h

/-- Replaces an endpoint by what is made of it, which has the same number. -/
theorem Filed.updateEndpoint (h : r.Filed) {endpoint : UInt8}
    {f : Endpoint → Except Fault (Endpoint × RegistryReply)}
    (hf : ∀ e changed reply, f e = .ok (changed, reply) → changed.id = e.id)
    {reply : Except Fault RegistryReply}
    (hupdate : r.updateEndpoint device endpoint f = some (after, reply)) : after.Filed := by
  obtain ⟨node, hnode, hupdate⟩ := Option.bind_eq_some_iff.1 hupdate
  obtain ⟨e, he, hupdate⟩ := Option.bind_eq_some_iff.1 hupdate
  refine h.updateNode (fun known changed reply hknown hchanged ↦ ?_) hupdate
  obtain rfl : node = known := Option.some.inj (hnode.symm.trans hknown)
  cases hresult : f e with
  | error fault => rw [hresult] at hchanged; cases hchanged
  | ok result =>
    rw [hresult] at hchanged
    cases hchanged
    have hfiled := h.endpoints device node hnode
    exact ⟨rfl, hfiled.setEndpoint ((hf e _ _ hresult).trans (hfiled endpoint e he))⟩

/-- Replaces a cluster by anything. -/
theorem Filed.updateCluster (h : r.Filed) {p : AttributePath}
    {f : Cluster → Except Fault (Cluster × RegistryReply)} {reply : Except Fault RegistryReply}
    (hupdate : r.updateCluster p f = some (after, reply)) : after.Filed := by
  obtain ⟨node, hnode, hupdate⟩ := Option.bind_eq_some_iff.1 hupdate
  obtain ⟨e, he, hupdate⟩ := Option.bind_eq_some_iff.1 hupdate
  obtain ⟨c, hc, hupdate⟩ := Option.bind_eq_some_iff.1 hupdate
  refine h.updateEndpoint (fun e changed reply hchanged ↦ ?_) hupdate
  cases hresult : f c with
  | error fault => rw [hresult] at hchanged; cases hchanged
  | ok result =>
    rw [hresult] at hchanged
    cases hchanged
    rfl

theorem ok_of_map {ε α β : Type} {f : α → β} {result : Except ε α} {b : β}
    (h : result.map f = .ok b) : ∃ a, result = .ok a ∧ f a = b := by
  cases result with
  | error => cases h
  | ok a => exact ⟨a, rfl, Except.ok.inj h⟩

theorem Filed.replaced (h : r.Filed) {result : Except Fault (Registry × RegistryReply)}
    (hresult : ∀ changed reply, result = .ok (changed, reply) → changed.Filed)
    {reply : Except Fault RegistryReply} (hreplaced : r.replaced result = some (after, reply)) :
    after.Filed := by
  unfold Registry.replaced at hreplaced
  split at hreplaced
  · next changed reply =>
    cases hreplaced
    exact hresult _ _ rfl
  · cases hreplaced
    exact h

/-- Whatever is asked of a registry, everything in it stays filed under its own key. -/
theorem Filed.perform (h : r.Filed) {now : Int64} {request : RegistryRequest}
    {reply : Except Fault RegistryReply}
    (hperform : r.perform now request = some (after, reply)) : after.Filed := by
  cases request with
  | find | findByAddress | getAttribute | size | isEmpty | nodes | snapshot =>
    cases hperform
    exact h
  | endpointWith | endpoints =>
    obtain ⟨node, -, hafter⟩ := Option.map_eq_some_iff.1 hperform
    cases hafter
    exact h
  | hasCluster device endpoint cluster =>
    obtain ⟨node, -, hfound⟩ := Option.bind_eq_some_iff.1 hperform
    obtain ⟨e, -, hafter⟩ := Option.bind_eq_some_iff.1 hfound
    cases hafter
    exact h
  | attributes device endpoint cluster =>
    obtain ⟨node, -, hfound⟩ := Option.bind_eq_some_iff.1 hperform
    obtain ⟨c, -, hafter⟩ := Option.bind_eq_some_iff.1 hfound
    cases hafter
    exact h
  | create device address =>
    refine h.replaced (fun changed reply hresult ↦ ?_) hperform
    cases hcreate : r.create device address now with
    | error fault => rw [hcreate] at hresult; cases hresult
    | ok created =>
      rw [hcreate] at hresult
      cases hresult
      exact h.create hcreate
  | upsert device address =>
    cases hperform
    exact h.upsert device address now
  | delete device =>
    refine h.replaced (fun changed reply hresult ↦ ?_) hperform
    obtain ⟨⟨left, node⟩, hdelete, hafter⟩ := ok_of_map hresult
    cases hafter
    exact h.delete hdelete
  | deleteByAddress address =>
    refine h.replaced (fun changed reply hresult ↦ ?_) hperform
    obtain ⟨⟨left, node⟩, hdelete, hafter⟩ := ok_of_map hresult
    cases hafter
    unfold Registry.deleteByAddress at hdelete
    split at hdelete
    · exact h.delete hdelete
    · cases hdelete
  | setOnline device online =>
    refine h.replaced (fun changed reply hresult ↦ ?_) hperform
    obtain ⟨set, hset, hafter⟩ := ok_of_map hresult
    cases hafter
    exact h.setOnline hset
  | setAttribute path value =>
    refine h.replaced (fun changed reply hresult ↦ ?_) hperform
    obtain ⟨set, hset, hafter⟩ := ok_of_map hresult
    cases hafter
    exact h.setAttribute hset
  | touchByAddress address =>
    obtain ⟨node, -, hafter⟩ := Option.map_eq_some_iff.1 hperform
    cases hafter
    cases hmodify : r.modify? node.device fun node ↦ { node with lastSeen := now } with
    | none => exact h
    | some touched =>
      refine h.modify (f := fun node ↦ { node with lastSeen := now })
        (fun known hknown ↦ ⟨rfl, ?_⟩) hmodify
      exact h.endpoints node.device known hknown
  | identify device manufacturer model =>
    rw [Registry.perform] at hperform
    refine h.updateNode (fun node changed reply hnode hchanged ↦ ?_) hperform
    cases hchanged
    exact ⟨rfl, h.endpoints device node hnode⟩
  | addEndpoint device endpoint =>
    refine h.updateNode (fun node changed reply hnode hchanged ↦ ?_) hperform
    cases hadd : node.addEndpoint endpoint with
    | error fault => rw [hadd] at hchanged; cases hchanged
    | ok added =>
      rw [hadd] at hchanged
      cases hchanged
      have hfiled := (h.endpoints device node hnode).addEndpoint hadd
      exact ⟨hfiled.2, hfiled.1⟩
  | endpointOrInsert device endpoint =>
    rw [Registry.perform] at hperform
    refine h.updateNode (fun node changed reply hnode hchanged ↦ ?_) hperform
    cases hchanged
    have hfiled := h.endpoints device node hnode
    exact ⟨rfl, hfiled.setEndpoint (hfiled.id_endpointOrNew endpoint)⟩
  | removeEndpoint device endpoint =>
    rw [Registry.perform] at hperform
    refine h.updateNode (fun node changed reply hnode hchanged ↦ ?_) hperform
    cases hchanged
    exact ⟨rfl, Table.Filed.erase (h.endpoints device node hnode)⟩
  | addCluster device endpoint cluster isServer =>
    refine h.updateEndpoint (fun e changed reply hchanged ↦ ?_) hperform
    unfold Endpoint.addCluster at hchanged
    split_ifs at hchanged
    · cases hchanged
    · cases hchanged
      rfl
  | clusterOrInsert device endpoint cluster =>
    refine h.updateEndpoint (fun e changed reply hchanged ↦ ?_) hperform
    cases hchanged
    rfl
  | addAttribute path type reportable => exact h.updateCluster hperform
  | store path value => exact h.updateCluster hperform

end Registry

end MeshBridge
