import MeshBridge.Device.Registry
import MeshBridge.Proofs.Table
/-!
Registries seen along the paths to their attributes. What stands at a level of a device tree is
looked at without what is below it (`bare`), so that a registry is known by its holders, by what is
bare at every level (`SameLevels`) and by its attributes (`SameLevels.eq_of_attributeAt?`). `Puts`
says in these terms that one attribute was put in its place, and leaves nothing open
(`Puts.unique`). Whoever puts an attribute in the cluster at the end of a path, and the cluster, the
endpoint and the node back in their places, has put that attribute there and changed nothing else
(`Leads.puts`). Setting an attribute is such a change (`exists_leads_of_setAttribute`).
-/

set_option autoImplicit false
set_option relaxedAutoImplicit false

namespace MeshBridge

theorem AttributePath.eq_iff {p q : AttributePath} :
    q = p ↔ q.device = p.device ∧ q.endpoint = p.endpoint ∧ q.cluster = p.cluster ∧
      q.attr = p.attr := by
  cases p
  cases q
  exact Iff.of_eq (AttributePath.mk.injEq ..)

/-! ### Levels of a tree -/

/-- A cluster without its attributes. -/
def Cluster.bare (c : Cluster) : Cluster := { c with attributes := ∅ }

/-- An endpoint without its clusters. -/
def Endpoint.bare (e : Endpoint) : Endpoint := { e with clusters := ∅ }

/-- A node without its endpoints. -/
def Node.bare (n : Node) : Node := { n with endpoints := ∅ }

theorem Node.attribute?_eq (n : Node) (endpoint : UInt8) (cluster attr : UInt16) :
    n.attribute? endpoint cluster attr = (n.endpoints.get? endpoint).bind fun e ↦
      (e.clusters.get? cluster).bind (·.attributes.get? attr) :=
  Option.bind_assoc ..

theorem Cluster.eq_of_bare {c d : Cluster} (hbare : c.bare = d.bare)
    (h : ∀ attr, c.attributes.get? attr = d.attributes.get? attr) : c = d := by
  cases c
  cases d
  cases hbare
  cases Table.ext_get? h
  rfl

theorem Endpoint.eq_of_bare {e d : Endpoint} (hbare : e.bare = d.bare)
    (hclusters : ∀ cluster, (e.clusters.get? cluster).map Cluster.bare =
      (d.clusters.get? cluster).map Cluster.bare)
    (h : ∀ cluster attr, (e.clusters.get? cluster).bind (·.attributes.get? attr) =
      (d.clusters.get? cluster).bind (·.attributes.get? attr)) : e = d := by
  have hsame : e.clusters = d.clusters := by
    refine Table.ext_map hclusters fun cluster c c' hc hc' hbare ↦ Cluster.eq_of_bare hbare ?_
    intro attr
    simpa only [hc, hc', Option.bind_some] using h cluster attr
  cases e
  cases d
  cases hbare
  cases hsame
  rfl

theorem Node.eq_of_bare {n m : Node} (hbare : n.bare = m.bare)
    (hendpoints : ∀ endpoint, (n.endpoints.get? endpoint).map Endpoint.bare =
      (m.endpoints.get? endpoint).map Endpoint.bare)
    (hclusters : ∀ endpoint cluster, (n.cluster? endpoint cluster).map Cluster.bare =
      (m.cluster? endpoint cluster).map Cluster.bare)
    (h : ∀ endpoint cluster attr, n.attribute? endpoint cluster attr =
      m.attribute? endpoint cluster attr) : n = m := by
  have hsame : n.endpoints = m.endpoints := by
    refine Table.ext_map hendpoints fun endpoint e e' he he' hbare ↦ Endpoint.eq_of_bare hbare ?_ ?_
    · intro cluster
      simpa only [Node.cluster?, he, he', Option.bind_some] using hclusters endpoint cluster
    · intro cluster attr
      simpa only [Node.attribute?_eq, he, he', Option.bind_some] using h endpoint cluster attr
  cases n
  cases m
  cases hbare
  cases hsame
  rfl

namespace Registry

variable {r s t after : Registry} {p : AttributePath} {a b : Attribute} {v : AttributeValue}
  {node : Node} {e : Endpoint} {c : Cluster}

def endpoint? (r : Registry) (device : Eui64) (endpoint : UInt8) : Option Endpoint :=
  (r.find? device).bind (·.endpoints.get? endpoint)

def cluster? (r : Registry) (device : Eui64) (endpoint : UInt8) (cluster : UInt16) :
    Option Cluster :=
  (r.find? device).bind (·.cluster? endpoint cluster)

/-- The attribute at a path, with its number and whether it is reportable. -/
def attributeAt? (r : Registry) (p : AttributePath) : Option Attribute :=
  (r.find? p.device).bind (·.attribute? p.endpoint p.cluster p.attr)

theorem attribute?_eq_some_iff :
    r.attribute? p = some v ↔ ∃ a, r.attributeAt? p = some a ∧ a.value = v :=
  Option.map_eq_some_iff

/-- Registries with the same holders of addresses, that say the same of every node, endpoint and
cluster. Their attributes may differ. -/
structure SameLevels (r s : Registry) : Prop where
  holders : s.holders = r.holders
  nodes : ∀ device, (s.find? device).map Node.bare = (r.find? device).map Node.bare
  endpoints : ∀ device endpoint, (s.endpoint? device endpoint).map Endpoint.bare =
    (r.endpoint? device endpoint).map Endpoint.bare
  clusters : ∀ device endpoint cluster, (s.cluster? device endpoint cluster).map Cluster.bare =
    (r.cluster? device endpoint cluster).map Cluster.bare

namespace SameLevels

theorem refl (r : Registry) : r.SameLevels r :=
  ⟨rfl, fun _ ↦ rfl, fun _ _ ↦ rfl, fun _ _ _ ↦ rfl⟩

theorem symm (h : r.SameLevels s) : s.SameLevels r :=
  ⟨h.holders.symm, fun d ↦ (h.nodes d).symm, fun d e ↦ (h.endpoints d e).symm,
    fun d e c ↦ (h.clusters d e c).symm⟩

theorem trans (h : r.SameLevels s) (hs : s.SameLevels t) : r.SameLevels t :=
  ⟨hs.holders.trans h.holders, fun d ↦ (hs.nodes d).trans (h.nodes d),
    fun d e ↦ (hs.endpoints d e).trans (h.endpoints d e),
    fun d e c ↦ (hs.clusters d e c).trans (h.clusters d e c)⟩

/-- Registries that differ at no level and in no attribute do not differ. -/
theorem eq_of_attributeAt? (h : r.SameLevels s)
    (hattributes : ∀ q, s.attributeAt? q = r.attributeAt? q) : s = r := by
  have hnodes : s.nodes = r.nodes := by
    refine Table.ext_map h.nodes fun device n m hn hm hbare ↦ ?_
    change s.find? device = some n at hn
    change r.find? device = some m at hm
    refine Node.eq_of_bare hbare (fun endpoint ↦ ?_) (fun endpoint cluster ↦ ?_)
      fun endpoint cluster attr ↦ ?_
    · simpa only [endpoint?, hn, hm, Option.bind_some] using h.endpoints device endpoint
    · simpa only [cluster?, hn, hm, Option.bind_some] using h.clusters device endpoint cluster
    · simpa only [attributeAt?, hn, hm, Option.bind_some]
        using hattributes ⟨device, endpoint, cluster, attr⟩
  have hholders := h.holders
  cases s
  cases r
  cases hholders
  cases hnodes
  rfl

end SameLevels

/-! ### An attribute put in its place -/

/-- A registry after an attribute was put at a path: every level of it, and the attribute at every
other path, is as before. -/
structure Puts (r : Registry) (p : AttributePath) (a : Attribute) (after : Registry) : Prop where
  levels : r.SameLevels after
  attributeAt?_eq : ∀ q, after.attributeAt? q = if q = p then some a else r.attributeAt? q

/-- An attribute that is there already is put there by leaving all as it is. -/
theorem puts_self (h : r.attributeAt? p = some a) : r.Puts p a r := by
  refine ⟨.refl r, fun q ↦ ?_⟩
  split_ifs with hq
  · rw [hq, h]
  · rfl

namespace Puts

theorem attributeAt?_self (h : r.Puts p a after) : after.attributeAt? p = some a := by
  rw [h.attributeAt?_eq, if_pos rfl]

theorem attribute?_eq_ite (h : r.Puts p a after) (q : AttributePath) :
    after.attribute? q = if q = p then some a.value else r.attribute? q := by
  show (after.attributeAt? q).map (·.value) = _
  rw [h.attributeAt?_eq]
  split_ifs <;> rfl

/-- There is one registry only after an attribute was put in its place. -/
theorem unique (h : r.Puts p a after) (hs : r.Puts p a s) : after = s :=
  (hs.levels.symm.trans h.levels).eq_of_attributeAt? fun q ↦
    (h.attributeAt?_eq q).trans (hs.attributeAt?_eq q).symm

/-- Putting an attribute where one was put is putting it there in the first place. -/
theorem puts_iff (h : r.Puts p a s) : s.Puts p b after ↔ r.Puts p b after := by
  have hattribute : ∀ q, (if q = p then some b else s.attributeAt? q) =
      if q = p then some b else r.attributeAt? q := by
    intro q
    rw [h.attributeAt?_eq]
    split_ifs <;> rfl
  constructor
  · intro hs
    exact ⟨h.levels.trans hs.levels, fun q ↦ (hs.attributeAt?_eq q).trans (hattribute q)⟩
  · intro hr
    exact ⟨h.levels.symm.trans hr.levels, fun q ↦ (hr.attributeAt?_eq q).trans (hattribute q).symm⟩

end Puts

/-! ### The way to an attribute -/

/-- What is met on the way to an attribute, whether the cluster has it or not. -/
structure Leads (r : Registry) (p : AttributePath) (node : Node) (e : Endpoint) (c : Cluster) :
    Prop where
  node_eq : r.nodes.get? p.device = some node
  endpoint_eq : node.endpoints.get? p.endpoint = some e
  cluster_eq : e.clusters.get? p.cluster = some c

/-- A registry with another cluster at the end of the way. -/
def withCluster (r : Registry) (p : AttributePath) (node : Node) (e : Endpoint) (c : Cluster) :
    Registry :=
  { r with
    nodes := r.nodes.insert p.device (node.setEndpoint p.endpoint (e.setCluster p.cluster c)) }

theorem Leads.attributeAt?_eq (h : r.Leads p node e c) :
    r.attributeAt? p = c.attributes.get? p.attr := by
  simp only [attributeAt?, find?, Node.attribute?, Node.cluster?, h.node_eq, h.endpoint_eq,
    h.cluster_eq, Option.bind_some]

theorem exists_leads_of_cluster? (h : r.cluster? p.device p.endpoint p.cluster = some c) :
    ∃ node e, r.Leads p node e c := by
  obtain ⟨node, hnode, h⟩ := Option.bind_eq_some_iff.1 h
  obtain ⟨e, he, hc⟩ := Option.bind_eq_some_iff.1 h
  exact ⟨node, e, hnode, he, hc⟩

theorem exists_leads_of_attributeAt? (h : r.attributeAt? p = some a) :
    ∃ node e c, r.Leads p node e c ∧ c.attributes.get? p.attr = some a := by
  obtain ⟨node, hnode, h⟩ := Option.bind_eq_some_iff.1 h
  obtain ⟨c, hc, ha⟩ := Option.bind_eq_some_iff.1 h
  obtain ⟨e, he, hc⟩ := Option.bind_eq_some_iff.1 hc
  exact ⟨node, e, c, ⟨hnode, he, hc⟩, ha⟩

/-- A cluster in which one attribute was put, at the end of the way, is one attribute put in the
registry. From the cluster up, each level is seen to differ at its part of the path only. -/
theorem Leads.puts (h : r.Leads p node e c) {changed : Cluster} (hbare : changed.bare = c.bare)
    (hattributes : changed.attributes = c.attributes.insert p.attr a) :
    r.Puts p a (r.withCluster p node e changed) where
  levels := by
    refine ⟨rfl, Table.insert_unseen (Option.map Node.bare) _ h.node_eq rfl,
      fun device endpoint ↦ ?_, fun device endpoint cluster ↦ ?_⟩
    · refine Table.insert_unseen (fun n ↦ (n.bind (·.endpoints.get? endpoint)).map Endpoint.bare) _
        h.node_eq ?_ device
      exact Table.insert_unseen (Option.map Endpoint.bare) (e.setCluster p.cluster changed)
        h.endpoint_eq rfl endpoint
    · refine Table.insert_unseen (fun n ↦ (n.bind (·.cluster? endpoint cluster)).map Cluster.bare) _
        h.node_eq ?_ device
      refine Table.insert_unseen (fun e ↦ (e.bind (·.clusters.get? cluster)).map Cluster.bare)
        (e.setCluster p.cluster changed) h.endpoint_eq ?_ endpoint
      exact Table.insert_unseen (Option.map Cluster.bare) changed h.cluster_eq
        (congrArg some hbare) cluster
  attributeAt?_eq q := by
    have hcluster : changed.attributes.get? q.attr =
        if q.attr = p.attr then some a else c.attributes.get? q.attr := by
      rw [hattributes, Table.get?_insert]
    have hendpoint := Table.bind_get?_insert (·.attributes.get? q.attr) changed h.cluster_eq
      hcluster q.cluster
    have hnode := Table.bind_get?_insert
      (fun e : Endpoint ↦ (e.clusters.get? q.cluster).bind (·.attributes.get? q.attr))
      (e.setCluster p.cluster changed) h.endpoint_eq hendpoint q.endpoint
    rw [← Node.attribute?_eq] at hnode
    have hregistry := Table.bind_get?_insert (·.attribute? q.endpoint q.cluster q.attr)
      (node.setEndpoint p.endpoint (e.setCluster p.cluster changed)) h.node_eq
      ((Node.attribute?_eq ..).trans hnode) q.device
    rw [if_congr AttributePath.eq_iff rfl rfl]
    exact hregistry

/-! ### Setting an attribute on its way -/

theorem setAttribute_of_attributeAt?_eq_none (h : r.attributeAt? p = none) :
    r.setAttribute p v = .error (.notFound (toString p)) := by
  unfold setAttribute
  dsimp only
  split
  · rfl
  · next hfound =>
    obtain ⟨node, hnode, hfound⟩ := Option.bind_eq_some_iff.1 hfound
    obtain ⟨e, he, hfound⟩ := Option.bind_eq_some_iff.1 hfound
    obtain ⟨c, hc, hfound⟩ := Option.bind_eq_some_iff.1 hfound
    obtain ⟨a, ha, -⟩ := Option.bind_eq_some_iff.1 hfound
    rw [Leads.attributeAt?_eq ⟨hnode, he, hc⟩, ha] at h
    cases h

theorem Leads.setAttribute_eq (h : r.Leads p node e c) (ha : c.attributes.get? p.attr = some a) :
    r.setAttribute p v = (a.setValue v).map fun a ↦
      r.withCluster p node e { c with attributes := c.attributes.insert p.attr a } := by
  simp only [setAttribute, h.node_eq, h.endpoint_eq, h.cluster_eq, ha, Option.bind_eq_bind,
    Option.bind_some]
  cases a.setValue v <;> rfl

/-- Setting an attribute leads along the way to it, and changes the cluster at its end. -/
theorem exists_leads_of_setAttribute (h : r.setAttribute p v = .ok after) :
    ∃ node e c changed, r.Leads p node e c ∧ after = r.withCluster p node e changed := by
  cases hattribute : r.attributeAt? p with
  | none =>
    rw [setAttribute_of_attributeAt?_eq_none hattribute] at h
    cases h
  | some a =>
    obtain ⟨node, e, c, hway, ha⟩ := exists_leads_of_attributeAt? hattribute
    rw [hway.setAttribute_eq ha] at h
    cases hvalue : a.setValue v with
    | error f => rw [hvalue] at h; cases h
    | ok changed =>
      rw [hvalue] at h
      cases h
      exact ⟨node, e, c, _, hway, rfl⟩

end Registry

end MeshBridge
