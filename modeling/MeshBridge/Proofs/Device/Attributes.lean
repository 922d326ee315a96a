import MeshBridge.Device.Request
import MeshBridge.Proofs.Device.Paths
import MeshBridge.Proofs.Device.Profile
/-!
One attribute at a time. There are two ways to write an attribute: setting it, which takes a value
of its type only, and storing what was reported, which takes any value and creates the attribute if
need be. Either changes the attribute at its path and nothing else in the whole registry
(`Registry.writes_in_place`).

Both come down to `Registry.Puts`. Setting an attribute is described by it completely
(`setAttribute_eq_ok_iff`), so that setting what is there already (`setAttribute_self`) and setting
twice (`setAttribute_setAttribute`) need no other look at the tree: reading and setting obey the
laws of a lens (`Registry.Sets`). Storing puts an attribute that only depends on the one before
(`Cluster.stored`).
-/

set_option autoImplicit false
set_option relaxedAutoImplicit false

namespace MeshBridge

namespace Registry

variable {r s after : Registry} {p : AttributePath} {a : Attribute} {v w : AttributeValue}
  {node : Node} {e : Endpoint} {c : Cluster}

/-! ### Setting an attribute -/

/-- Setting an attribute puts the value there, or is refused because there is none at the path that
has the type of the value. -/
theorem setAttribute_cases (r : Registry) (p : AttributePath) (v : AttributeValue) :
    (∃ a after, r.attributeAt? p = some a ∧ v.type = a.value.type ∧ r.setAttribute p v = .ok after ∧
      r.Puts p { a with value := v } after) ∨
    (∀ a, r.attributeAt? p = some a → v.type ≠ a.value.type) ∧
      ∃ f, r.setAttribute p v = .error f := by
  cases hattribute : r.attributeAt? p with
  | none => exact Or.inr ⟨fun _ h ↦ (nomatch h), _, setAttribute_of_attributeAt?_eq_none hattribute⟩
  | some a =>
    obtain ⟨node, e, c, hway, ha⟩ := exists_leads_of_attributeAt? hattribute
    rw [hway.setAttribute_eq ha, Attribute.setValue]
    by_cases htype : v.type = a.value.type
    · rw [if_pos htype]
      exact Or.inl ⟨a, _, rfl, htype, rfl, hway.puts rfl rfl⟩
    · rw [if_neg htype]
      refine Or.inr ⟨fun b hb ↦ ?_, _, rfl⟩
      cases hb
      exact htype

/-- What setting an attribute leads to, without a look at how it is done. -/
theorem setAttribute_eq_ok_iff : r.setAttribute p v = .ok after ↔
    ∃ a, r.attributeAt? p = some a ∧ v.type = a.value.type ∧
      r.Puts p { a with value := v } after := by
  rcases r.setAttribute_cases p v with ⟨a, s, ha, htype, hset, hputs⟩ | ⟨hother, f, hset⟩
  · rw [hset]
    constructor
    · intro hsame
      cases hsame
      exact ⟨a, ha, htype, hputs⟩
    · rintro ⟨b, hb, -, hafter⟩
      obtain rfl : a = b := Option.some.inj (ha.symm.trans hb)
      rw [hputs.unique hafter]
  · rw [hset]
    refine iff_of_false (fun h ↦ nomatch h) ?_
    rintro ⟨a, ha, htype, -⟩
    exact hother a ha htype

/-- A value that is there already can be set, and changes nothing. -/
theorem setAttribute_self (h : r.attribute? p = some v) : r.setAttribute p v = .ok r := by
  obtain ⟨a, ha, rfl⟩ := attribute?_eq_some_iff.1 h
  exact setAttribute_eq_ok_iff.2 ⟨a, ha, rfl, puts_self ha⟩

/-- Of two values set one after the other the second counts, and the first decides nothing. -/
theorem setAttribute_setAttribute (h : r.setAttribute p v = .ok s) :
    s.setAttribute p w = .ok after ↔ r.setAttribute p w = .ok after := by
  obtain ⟨a, ha, htype, hputs⟩ := setAttribute_eq_ok_iff.1 h
  simp only [setAttribute_eq_ok_iff, hputs.attributeAt?_self, ha, Option.some.injEq,
    exists_eq_left', htype, hputs.puts_iff]

theorem perform_setAttribute_iff (r : Registry) (now : Int64) (p : AttributePath)
    (v : AttributeValue) :
    r.perform now (.setAttribute p v) = some (after, .ok .done) ↔
      r.setAttribute p v = .ok after := by
  have hperform : r.perform now (.setAttribute p v) =
      r.replaced ((r.setAttribute p v).map fun r ↦ (r, .done)) := rfl
  rw [hperform]
  cases r.setAttribute p v <;> simp [replaced, Except.map]

/-- What a registry does when an attribute is to be set to a value. If it exists and has the type of
the value, then it is read as the value, and all else is as before: the value at every other path,
the number of the attribute and whether it is reportable, and every level of the registry. Else the
request is refused and the registry is as before. -/
structure Sets (r : Registry) (p : AttributePath) (v : AttributeValue) (after : Registry)
    (reply : Except Fault RegistryReply) : Prop where
  done_iff : reply = .ok .done ↔ ∃ old, r.attribute? p = some old ∧ v.type = old.type
  read : reply = .ok .done → ∀ q, after.attribute? q = if q = p then some v else r.attribute? q
  puts : reply = .ok .done → ∃ a, r.attributeAt? p = some a ∧ r.Puts p { a with value := v } after
  refused : reply ≠ .ok .done → (∃ f, reply = .error f) ∧ after = r
  /-- A value that is there already can be set, and changes nothing. -/
  same : r.attribute? p = some v → reply = .ok .done ∧ after = r
  /-- Of two values set one after the other the second counts, and the first decides nothing. -/
  again : reply = .ok .done → ∀ now w last,
    after.perform now (.setAttribute p w) = some (last, .ok .done) ↔
      r.perform now (.setAttribute p w) = some (last, .ok .done)

theorem exists_sets (r : Registry) (now : Int64) (p : AttributePath) (v : AttributeValue) :
    ∃ after reply, r.perform now (.setAttribute p v) = some (after, reply) ∧
      r.Sets p v after reply := by
  have hperform : r.perform now (.setAttribute p v) =
      r.replaced ((r.setAttribute p v).map fun r ↦ (r, .done)) := rfl
  rcases r.setAttribute_cases p v with ⟨a, after, ha, htype, hset, hputs⟩ | ⟨hother, f, hset⟩
  · rw [hset] at hperform
    refine ⟨after, .ok .done, hperform, iff_of_true rfl ?_, fun _ ↦ hputs.attribute?_eq_ite,
      fun _ ↦ ⟨a, ha, hputs⟩, fun hne ↦ absurd rfl hne, fun hthere ↦ ⟨rfl, ?_⟩, ?_⟩
    · exact ⟨a.value, attribute?_eq_some_iff.2 ⟨a, ha, rfl⟩, htype⟩
    · exact Except.ok.inj (hset.symm.trans (setAttribute_self hthere))
    · intro _ later w last
      rw [perform_setAttribute_iff, perform_setAttribute_iff, setAttribute_setAttribute hset]
  · rw [hset] at hperform
    refine ⟨r, .error f, hperform, iff_of_false (fun h ↦ nomatch h) ?_, fun h ↦ (nomatch h),
      fun h ↦ (nomatch h), fun _ ↦ ⟨⟨f, rfl⟩, rfl⟩, fun hthere ↦ ?_, fun h ↦ (nomatch h)⟩
    · rintro ⟨old, hold, htype⟩
      obtain ⟨a, ha, rfl⟩ := attribute?_eq_some_iff.1 hold
      exact hother a ha htype
    · cases hset.symm.trans (setAttribute_self hthere)

end Registry

/-! ### Storing a value in a cluster -/

namespace Cluster

variable {c : Cluster} {attr : UInt16} {v : AttributeValue}

/-- An attribute once a value was stored in it, new if there was none. -/
def stored (c : Cluster) (attr : UInt16) (v : AttributeValue) : Attribute :=
  match c.attributes.get? attr with
  | some a => { a with value := v }
  | none => ⟨attr, v, true⟩

theorem value_stored (c : Cluster) (attr : UInt16) (v : AttributeValue) :
    (c.stored attr v).value = v := by
  unfold stored
  split <;> rfl

theorem stored_of_get? {a : Attribute} (h : c.attributes.get? attr = some a) :
    c.stored attr v = { a with value := v } := by
  rw [stored, h]

theorem store_eq (c : Cluster) (attr : UInt16) (v : AttributeValue) :
    c.store attr v = { c with attributes := c.attributes.insert attr (c.stored attr v) } := by
  unfold store stored
  cases c.attributes.get? attr <;> rfl

theorem storeChanges_eq_false_iff :
    c.storeChanges attr v = false ↔ (c.attributes.get? attr).map (·.value) = some v := by
  simp [storeChanges]

/-- A value changes nothing just if the attribute with the value is the one that is there. -/
theorem storeChanges_eq_false_iff_stored :
    c.storeChanges attr v = false ↔ c.attributes.get? attr = some (c.stored attr v) := by
  rw [storeChanges_eq_false_iff]
  constructor
  · intro hsame
    obtain ⟨a, ha, rfl⟩ := Option.map_eq_some_iff.1 hsame
    rw [ha, stored_of_get? ha]
  · intro hthere
    rw [hthere, Option.map_some, value_stored]

/-- What a cluster does when a value is stored in one of its attributes. The attribute has the value
then, whatever its type was; if there was such an attribute, it keeps its number and stays as
reportable as it was. All other attributes, and all else that is said of the cluster, are as before.
It is told whether the value is another one than before, which is whether anything changed. -/
structure Stores (c : Cluster) (attr : UInt16) (v : AttributeValue) (after : Cluster)
    (changed : Bool) : Prop where
  value_eq : (after.attributes.get? attr).map (·.value) = some v
  known : ∀ a, c.attributes.get? attr = some a →
    after.attributes.get? attr = some { a with value := v }
  others : ∀ k, k ≠ attr → after.attributes.get? k = c.attributes.get? k
  bare_eq : after.bare = c.bare
  changed_iff : changed = true ↔ ∀ a, c.attributes.get? attr = some a → a.value ≠ v
  unchanged_iff : changed = false ↔ after = c

theorem stores (c : Cluster) (attr : UInt16) (v : AttributeValue) :
    c.Stores attr v (c.store attr v) (c.storeChanges attr v) := by
  have hself : (c.store attr v).attributes.get? attr = some (c.stored attr v) := by
    rw [store_eq]
    exact Table.get?_insert_self ..
  have hothers : ∀ k, k ≠ attr → (c.store attr v).attributes.get? k = c.attributes.get? k := by
    intro k hk
    rw [store_eq]
    exact Table.get?_insert_of_ne _ _ hk
  refine ⟨?_, fun a ha ↦ ?_, hothers, rfl, ?_, fun h ↦ ?_, fun h ↦ ?_⟩
  · rw [value_store, if_pos rfl]
  · rw [hself, stored_of_get? ha]
  · simp [storeChanges]
  · refine eq_of_bare rfl fun k ↦ ?_
    by_cases hk : k = attr
    · rw [hk, hself, storeChanges_eq_false_iff_stored.1 h]
    · exact hothers k hk
  · rw [h] at hself
    exact storeChanges_eq_false_iff_stored.2 hself

end Cluster

/-! ### Storing a value in a registry -/

namespace Registry

variable {r : Registry} {p : AttributePath} {v : AttributeValue} {node : Node} {e : Endpoint}
  {c : Cluster}

/-- Whatever is made of the cluster at the end of the way is put in its place. -/
theorem Leads.updateCluster_eq (h : r.Leads p node e c) {changed : Cluster} {reply : RegistryReply}
    {f : Cluster → Except Fault (Cluster × RegistryReply)} (hf : f c = .ok (changed, reply)) :
    r.updateCluster p f = some (r.withCluster p node e changed, .ok reply) := by
  simp only [updateCluster, updateEndpoint, updateNode, find?, h.node_eq, h.endpoint_eq,
    h.cluster_eq, hf, Option.bind_eq_bind, Option.bind_some, Option.map_some]
  rfl

/-- What a registry does when a value is stored at a path whose cluster exists. The attribute there
is read as the value, and keeps its number and stays as reportable as it was if it was there before;
all else is as before. It is told whether anything changed. -/
structure Stores (r : Registry) (p : AttributePath) (v : AttributeValue) (after : Registry)
    (changed : Bool) : Prop where
  read : ∀ q, after.attribute? q = if q = p then some v else r.attribute? q
  puts : ∃ a, (∀ old, r.attributeAt? p = some old → a = { old with value := v }) ∧ r.Puts p a after
  changed_iff : changed = true ↔ r.attribute? p ≠ some v
  unchanged_iff : changed = false ↔ after = r

theorem exists_stores (hc : r.cluster? p.device p.endpoint p.cluster = some c) (now : Int64)
    (v : AttributeValue) :
    ∃ after, r.perform now (.store p v) = some (after, .ok (.flag (c.storeChanges p.attr v))) ∧
      r.Stores p v after (c.storeChanges p.attr v) := by
  obtain ⟨node, e, hway⟩ := exists_leads_of_cluster? hc
  have hputs : r.Puts p (c.stored p.attr v) (r.withCluster p node e (c.store p.attr v)) :=
    hway.puts rfl (by rw [Cluster.store_eq])
  have hperform : r.perform now (.store p v) =
      some (r.withCluster p node e (c.store p.attr v), .ok (.flag (c.storeChanges p.attr v))) :=
    hway.updateCluster_eq rfl
  have hvalue : r.attribute? p = (c.attributes.get? p.attr).map (·.value) :=
    congrArg (Option.map Attribute.value) hway.attributeAt?_eq
  refine ⟨_, hperform, fun q ↦ ?_, ⟨_, fun old hold ↦ ?_, hputs⟩, ?_, fun h ↦ ?_, fun h ↦ ?_⟩
  · rw [hputs.attribute?_eq_ite, Cluster.value_stored]
  · exact Cluster.stored_of_get? (hway.attributeAt?_eq.symm.trans hold)
  · rw [hvalue, Ne, ← Cluster.storeChanges_eq_false_iff, Bool.not_eq_false]
  · have hthere := hway.attributeAt?_eq.trans (Cluster.storeChanges_eq_false_iff_stored.1 h)
    exact hputs.unique (puts_self hthere)
  · have hthere := hputs.attributeAt?_self
    rw [h, hway.attributeAt?_eq] at hthere
    exact Cluster.storeChanges_eq_false_iff_stored.2 hthere

/-! ### Both ways to write -/

/-- Whatever is in a registry, each of the two ways to write an attribute changes that attribute
only. Setting it is done just if it exists and has the type of the value, and changes nothing
otherwise. Storing in a cluster is always done, and tells whether the value is a new one; for the
clusters of a registry it is so seen from the registry, too. -/
theorem writes_in_place (r : Registry) (now : Int64) (p : AttributePath) (v : AttributeValue) :
    (∃ after reply, r.perform now (.setAttribute p v) = some (after, reply) ∧
      r.Sets p v after reply) ∧
    (∀ c : Cluster, ∀ attr, c.Stores attr v (c.store attr v) (c.storeChanges attr v)) ∧
    ∀ c, r.cluster? p.device p.endpoint p.cluster = some c →
      ∃ after, r.perform now (.store p v) = some (after, .ok (.flag (c.storeChanges p.attr v))) ∧
        r.Stores p v after (c.storeChanges p.attr v) :=
  ⟨r.exists_sets now p v, fun c attr ↦ c.stores attr v, fun _ hc ↦ exists_stores hc now v⟩

/-- A light with one attribute, its brightness, which it does not report. -/
def dimmableLight : Registry :=
  let level : Cluster := ⟨8, true, .ofList [(0, ⟨0, .u8 10, false⟩)]⟩
  let light : Endpoint := ⟨1, homeAutomationProfile, 0x0101, .ofList [(8, level)]⟩
  let node : Node := ⟨⟨1⟩, 5, "", "", true, 0, .ofList [(1, light)]⟩
  ⟨.ofList [(⟨1⟩, node)], .ofList [(5, ⟨1⟩)]⟩

/-- A brightness of another type cannot be set, but is stored when it is reported. -/
theorem writes_in_place_retyped :
    ∃ c, dimmableLight.cluster? ⟨1⟩ 1 8 = some c ∧
      (∃ f, dimmableLight.perform 0 (.setAttribute ⟨⟨1⟩, 1, 8, 0⟩ (.u16 300)) =
        some (dimmableLight, .error f)) ∧
      ∃ after, dimmableLight.perform 0 (.store ⟨⟨1⟩, 1, 8, 0⟩ (.u16 300)) =
        some (after, .ok (.flag true)) ∧ after.attribute? ⟨⟨1⟩, 1, 8, 0⟩ = some (.u16 300) := by
  obtain ⟨⟨after, reply, hperform, hsets⟩, -, hstores⟩ :=
    writes_in_place dimmableLight 0 ⟨⟨1⟩, 1, 8, 0⟩ (.u16 300)
  have hvalue : dimmableLight.attribute? ⟨⟨1⟩, 1, 8, 0⟩ = some (.u8 10) := by decide
  have hrefused : reply ≠ .ok .done := by
    rw [Ne, hsets.done_iff, hvalue]
    rintro ⟨old, hold, htype⟩
    cases hold
    cases htype
  obtain ⟨⟨f, rfl⟩, rfl⟩ := hsets.refused hrefused
  obtain ⟨c, hc⟩ : ∃ c, dimmableLight.cluster? ⟨1⟩ 1 8 = some c :=
    Option.isSome_iff_exists.1 (by decide)
  obtain ⟨stored, hstore, hstored⟩ := hstores c hc
  rw [hstored.changed_iff.2 (by decide)] at hstore
  refine ⟨c, hc, ⟨f, hperform⟩, stored, hstore, ?_⟩
  rw [hstored.read, if_pos rfl]

end Registry

end MeshBridge
