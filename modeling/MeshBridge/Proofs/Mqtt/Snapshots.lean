import MeshBridge.Mqtt.Snapshot
import MeshBridge.Proofs.Coordinator.Filed
import MeshBridge.Proofs.Mqtt.Topics
import MeshBridge.Proofs.Text.Digits
import MeshBridge.Radio.Simulated
import MeshBridge.Store.Memory
/-!
Snapshots show everything that is known, once. The nodes come in the order of their addresses. The
readings of a node go by names that no two of them share: a name of a capability does not end in a
digit, so the digits at the end of a name are the number of an endpoint (`key_inj`). Hence none is
shadowed by another one when they are gathered under their names, and every value that can be read
of the device has its entry (`snapshot_of_past`).
-/

set_option autoImplicit false
set_option relaxedAutoImplicit false

namespace MeshBridge

/-! ### Names of readings -/

namespace DeviceSnapshot

/-- The digits at the end of a text, the last one first. -/
def lastDigits (text : String) : List Char := text.toList.reverse.takeWhile Char.isDigit

theorem lastDigits_name (k : Capability) : lastDigits k.name = [] := by
  cases k <;> rfl

theorem toList_toString_uint8 (n : UInt8) : (toString n).toList = Nat.toDigits 10 n.toNat :=
  String.toList_ofList

theorem toList_key (k : Capability) {position : Nat} (h : position ≠ 0) (endpoint : UInt8) :
    (key k position endpoint).toList.reverse =
      (Nat.toDigits 10 endpoint.toNat).reverse ++ '_' :: k.name.toList.reverse := by
  simp [key, h, toList_toString_uint8]

/-- The name of a reading of the first endpoint ends in no digit, that of another endpoint in its
number. -/
theorem lastDigits_key (k : Capability) (position : Nat) (endpoint : UInt8) :
    lastDigits (key k position endpoint) =
      if position = 0 then [] else (Nat.toDigits 10 endpoint.toNat).reverse := by
  split_ifs with hfirst
  · rw [key, if_pos hfirst, lastDigits_name]
  · have hdigits : ∀ c ∈ (Nat.toDigits 10 endpoint.toNat).reverse, c.isDigit = true :=
      fun c hc ↦ Nat.isDigit_of_mem_toDigits (by decide) (by decide) (List.mem_reverse.1 hc)
    rw [lastDigits, toList_key k hfirst, List.takeWhile_append_of_pos hdigits,
      List.takeWhile_cons_of_neg (by decide), List.append_nil]

/-- Readings with the same name are of one capability, and both of the first endpoint or both of one
other endpoint. -/
theorem key_inj {k l : Capability} {position position' : Nat} {endpoint endpoint' : UInt8}
    (h : key k position endpoint = key l position' endpoint') :
    k = l ∧ (position = 0 ↔ position' = 0) ∧ (position ≠ 0 → endpoint = endpoint') := by
  have hdigits := congrArg lastDigits h
  rw [lastDigits_key, lastDigits_key] at hdigits
  by_cases hfirst : position = 0
  · by_cases hfirst' : position' = 0
    · rw [key, key, if_pos hfirst, if_pos hfirst'] at h
      exact ⟨Capability.name_inj.1 h, by simp [hfirst, hfirst'], fun hne ↦ absurd hfirst hne⟩
    · rw [if_pos hfirst, if_neg hfirst', eq_comm, List.reverse_eq_nil_iff] at hdigits
      exact absurd hdigits Nat.toDigits_ne_nil
  · by_cases hfirst' : position' = 0
    · rw [if_neg hfirst, if_pos hfirst', List.reverse_eq_nil_iff] at hdigits
      exact absurd hdigits Nat.toDigits_ne_nil
    · rw [if_neg hfirst, if_neg hfirst', List.reverse_inj, Decimal.toDigits_inj] at hdigits
      have hnumber : endpoint = endpoint' := UInt8.toNat_inj.1 hdigits
      have htexts := congrArg (fun text ↦ text.toList.reverse) h
      simp only [toList_key k hfirst, toList_key l hfirst', hdigits, List.append_cancel_left_eq,
        List.cons.injEq, true_and, List.reverse_inj, String.toList_inj] at htexts
      exact ⟨Capability.name_inj.1 htexts, by simp [hfirst, hfirst'], fun _ ↦ hnumber⟩

/-! ### Gathering readings -/

/-- Entries under new keys are all added. -/
theorem perm_addNew {entries : List (String × CapabilityValue)} (t : Table String CapabilityValue)
    (hkeys : ((t.entries ++ entries).map (·.1)).Nodup) :
    (addNew t entries).entries.Perm (t.entries ++ entries) := by
  induction entries generalizing t with
  | nil => rw [List.append_nil]; exact List.Perm.refl _
  | cons e rest ih =>
    obtain ⟨hnew, hperm⟩ := Table.perm_insert_append hkeys
    have hfree : t.contains e.1 = false := by rw [Table.contains, hnew]; rfl
    have hstep : addNew t (e :: rest) = addNew (t.insert e.1 e.2) rest := by
      rw [addNew, List.foldl_cons, hfree]
      rfl
    rw [hstep]
    exact (ih (t.insert e.1 e.2) ((hperm.map _).nodup_iff.2 hkeys)).trans hperm

section Readings

variable {ρ σ : Type} {c : Coordinator ρ σ}

theorem mem_readingsOf {device : Eui64} {position : Nat} {endpoint : Endpoint} {name : String}
    {value : CapabilityValue} :
    (name, value) ∈ readingsOf c device position endpoint ↔
      ∃ k, endpoint.clusters.contains k.cluster = true ∧
        c.read ⟨device, endpoint.id⟩ k = .ok (some value) ∧ key k position endpoint.id = name := by
  unfold readingsOf
  rw [List.mem_filterMap]
  constructor
  · rintro ⟨k, hk, hreading⟩
    split at hreading
    · next hread =>
      cases hreading
      exact ⟨k, (List.mem_filter.1 hk).2, hread, rfl⟩
    · cases hreading
  · rintro ⟨k, hcluster, hread, rfl⟩
    refine ⟨k, List.mem_filter.2 ⟨?_, hcluster⟩, by rw [hread]⟩
    cases k <;> decide

/-- The readings of all endpoints of a node with their names. -/
def allReadings (c : Coordinator ρ σ) (node : Node) : List (String × CapabilityValue) :=
  node.endpoints.values.zipIdx.flatMap fun (endpoint, position) ↦
    readingsOf c node.device position endpoint

theorem mem_allReadings {node : Node} {name : String} {value : CapabilityValue} :
    (name, value) ∈ allReadings c node ↔
      ∃ position endpoint k, node.endpoints.values[position]? = some endpoint ∧
        endpoint.clusters.contains k.cluster = true ∧
        c.read ⟨node.device, endpoint.id⟩ k = .ok (some value) ∧
        key k position endpoint.id = name := by
  simp only [allReadings, List.mem_flatMap, mem_readingsOf, Prod.exists,
    List.mem_zipIdx_iff_getElem?]
  constructor
  · rintro ⟨endpoint, position, hendpoint, k, hreading⟩
    exact ⟨position, endpoint, k, hendpoint, hreading⟩
  · rintro ⟨position, endpoint, k, hendpoint, hreading⟩
    exact ⟨endpoint, position, hendpoint, k, hreading⟩

/-- No two readings of a node have the same name: those of one endpoint are of different
capabilities, and of those of different endpoints at most one has the plain name. -/
theorem nodup_allReadings {node : Node} (h : node.Filed) :
    ((allReadings c node).map (·.1)).Nodup := by
  rw [List.Nodup, List.pairwise_map, allReadings, List.pairwise_flatMap]
  constructor
  · rintro ⟨endpoint, position⟩ -
    have hall : Capability.all.Nodup := by decide
    show List.Pairwise _ (readingsOf c node.device position endpoint)
    unfold readingsOf
    rw [List.pairwise_filterMap]
    refine (hall.filter _).imp fun {k l} hne e he e' he' hsame ↦ hne ?_
    split at he <;> cases he
    split at he' <;> cases he'
    exact (key_inj hsame).1
  · have hids := List.pairwise_iff_getElem.1 h.ascending_values
    refine List.pairwise_iff_getElem.2 fun i j hi hj hij e he e' he' hsame ↦ ?_
    rw [List.getElem_zipIdx] at he he'
    obtain ⟨k, -, -, hname⟩ := mem_readingsOf.1 he
    obtain ⟨l, -, -, hname'⟩ := mem_readingsOf.1 he'
    obtain ⟨-, hfirst, hnumber⟩ := key_inj ((hname.trans hsame).trans hname'.symm)
    rw [List.length_zipIdx] at hi hj
    have hlater : 0 + i ≠ 0 := fun hzero ↦ by
      have hzero' := hfirst.1 hzero
      omega
    have hlt := Std.compare_eq_lt.1 (hids i j hi hj hij)
    rw [hnumber hlater] at hlt
    exact absurd hlt (UInt8.lt_irrefl _)

/-- What is read of a capability of a known device. -/
def reading? (c : Coordinator ρ σ) (node : Node) (number : UInt8) (k : Capability) :
    Option CapabilityValue :=
  (Coordinator.stored node number k).map fun value ↦
    (c.corrections.correctReport node.manufacturer node.model k value).value

theorem read_of_find? {node : Node} (hnode : c.devices.find? node.device = some node)
    {number : UInt8} {k : Capability} :
    c.read ⟨node.device, number⟩ k = .ok (reading? c node number k) := by
  simp only [Coordinator.read, Coordinator.node, hnode]
  rfl

/-- What can be read of a device is of one of its endpoints, which has the cluster of the
capability. -/
theorem exists_endpoint_of_read {node : Node} (hnode : c.devices.find? node.device = some node)
    {number : UInt8} {k : Capability} {value : CapabilityValue}
    (hread : c.read ⟨node.device, number⟩ k = .ok (some value)) :
    ∃ endpoint, node.endpoints.get? number = some endpoint ∧
      endpoint.clusters.contains k.cluster = true := by
  rw [read_of_find? hnode] at hread
  obtain ⟨stored, hstored, -⟩ := Option.map_eq_some_iff.1 (Except.ok.inj hread)
  obtain ⟨a, ha, -⟩ := Option.bind_eq_some_iff.1 hstored
  obtain ⟨cluster, hcluster, -⟩ := Option.bind_eq_some_iff.1 ha
  obtain ⟨endpoint, hendpoint, hfound⟩ := Option.bind_eq_some_iff.1 hcluster
  exact ⟨endpoint, hendpoint, by rw [Table.contains, hfound]; rfl⟩

/-! ### Faithful snapshots -/

/-- A snapshot of a device has one entry for each capability of each endpoint of which a value can
be read, with this value. -/
structure Faithful (c : Coordinator ρ σ) (s : DeviceSnapshot) : Prop where
  /-- The first endpoint is the one of the least number. -/
  ascending : s.node.endpoints.values.Pairwise (·.id < ·.id)
  /-- What can be read of the device is of one of its endpoints. -/
  endpoint : ∀ number k value, c.read ⟨s.node.device, number⟩ k = .ok (some value) →
    ∃ (position : Nat) (endpoint : Endpoint), s.node.endpoints.values[position]? = some endpoint ∧
      endpoint.id = number
  /-- Under the name of a reading stands what is read, or nothing if nothing can be read. -/
  reading : ∀ (position : Nat) (endpoint : Endpoint) (k : Capability),
    s.node.endpoints.values[position]? = some endpoint →
    ∃ value?, c.read ⟨s.node.device, endpoint.id⟩ k = .ok value? ∧
      s.readings.get? (key k position endpoint.id) = value?
  /-- There are no other entries. -/
  source : ∀ name value, s.readings.get? name = some value →
    ∃ (position : Nat) (endpoint : Endpoint) (k : Capability),
      s.node.endpoints.values[position]? = some endpoint ∧
      c.read ⟨s.node.device, endpoint.id⟩ k = .ok (some value) ∧ key k position endpoint.id = name
  /-- No two readings share a name. -/
  names : ∀ (position position' : Nat) (endpoint endpoint' : Endpoint) (k k' : Capability),
    s.node.endpoints.values[position]? = some endpoint →
    s.node.endpoints.values[position']? = some endpoint' →
    key k position endpoint.id = key k' position' endpoint'.id → position = position' ∧ k = k'

theorem ascending_endpoints {node : Node} (h : node.Filed) :
    node.endpoints.values.Pairwise (·.id < ·.id) :=
  h.ascending_values.imp fun hlt ↦ Std.compare_eq_lt.1 hlt

/-- Assumes: the endpoints are in the order of their numbers. -/
theorem position_eq {endpoints : List Endpoint} (h : endpoints.Pairwise (·.id < ·.id))
    {position position' : Nat} {endpoint endpoint' : Endpoint}
    (hendpoint : endpoints[position]? = some endpoint)
    (hendpoint' : endpoints[position']? = some endpoint') (hid : endpoint.id = endpoint'.id) :
    position = position' := by
  obtain ⟨hlt, rfl⟩ := List.getElem?_eq_some_iff.1 hendpoint
  obtain ⟨hlt', rfl⟩ := List.getElem?_eq_some_iff.1 hendpoint'
  have hids := List.pairwise_iff_getElem.1 h
  rcases Nat.lt_trichotomy position position' with hless | hsame | hmore
  · have hids := hids _ _ hlt hlt' hless
    rw [hid] at hids
    exact absurd hids (UInt8.lt_irrefl _)
  · exact hsame
  · have hids := hids _ _ hlt' hlt hmore
    rw [hid] at hids
    exact absurd hids (UInt8.lt_irrefl _)

theorem names_of_filed {node : Node} (h : node.Filed) {position position' : Nat}
    {endpoint endpoint' : Endpoint} {k k' : Capability}
    (hendpoint : node.endpoints.values[position]? = some endpoint)
    (hendpoint' : node.endpoints.values[position']? = some endpoint')
    (hname : key k position endpoint.id = key k' position' endpoint'.id) :
    position = position' ∧ k = k' := by
  obtain ⟨hcapability, hfirst, hnumber⟩ := key_inj hname
  refine ⟨?_, hcapability⟩
  by_cases hzero : position = 0
  · rw [hzero, hfirst.1 hzero]
  · exact position_eq (ascending_endpoints h) hendpoint hendpoint' (hnumber hzero)

theorem get?_readings {node : Node} (h : node.Filed) {name : String} {value : CapabilityValue} :
    (ofNode c node).readings.get? name = some value ↔ (name, value) ∈ allReadings c node := by
  have hgathered : (ofNode c node).readings.entries.Perm (allReadings c node) :=
    perm_addNew ∅ (nodup_allReadings h)
  rw [Table.get?_eq_some_iff, hgathered.mem_iff]

/-- Assumes: a node that is known, with its endpoints filed under their own numbers. -/
theorem faithful_ofNode {node : Node} (h : node.Filed)
    (hnode : c.devices.find? node.device = some node) : (ofNode c node).Faithful c where
  ascending := ascending_endpoints h
  endpoint number k value hread := by
    obtain ⟨endpoint, hendpoint, -⟩ := exists_endpoint_of_read hnode hread
    have hid := h number endpoint hendpoint
    have hmem : endpoint ∈ node.endpoints.values := h.mem_values_iff.2 (hid ▸ hendpoint)
    obtain ⟨position, hposition⟩ := List.mem_iff_getElem?.1 hmem
    exact ⟨position, endpoint, hposition, hid⟩
  reading position endpoint k hendpoint := by
    refine ⟨_, read_of_find? hnode, ?_⟩
    cases hvalue : reading? c node endpoint.id k with
    | some value =>
      have hread := (read_of_find? hnode).trans (congrArg _ hvalue)
      obtain ⟨known, hknown, hcluster⟩ := exists_endpoint_of_read hnode hread
      have hget := h.mem_values_iff.1 (List.mem_of_getElem? hendpoint)
      obtain rfl := Option.some.inj (hknown.symm.trans hget)
      exact (get?_readings h).2
        (mem_allReadings.2 ⟨position, known, k, hendpoint, hcluster, hread, rfl⟩)
    | none =>
      cases hshown : (ofNode c node).readings.get? (key k position endpoint.id) with
      | none => rfl
      | some value =>
        obtain ⟨position', endpoint', k', hendpoint', -, hread, hname⟩ :=
          mem_allReadings.1 ((get?_readings h).1 hshown)
        obtain ⟨rfl, rfl⟩ := names_of_filed h hendpoint' hendpoint hname
        obtain rfl := Option.some.inj (hendpoint.symm.trans hendpoint')
        rw [read_of_find? hnode, hvalue] at hread
        cases hread
  source name value hget := by
    obtain ⟨position, endpoint, k, hendpoint, -, hread, hname⟩ :=
      mem_allReadings.1 ((get?_readings h).1 hget)
    exact ⟨position, endpoint, k, hendpoint, hread, hname⟩
  names position position' endpoint endpoint' k k' hendpoint hendpoint' hname :=
    names_of_filed h hendpoint hendpoint' hname

end Readings

end DeviceSnapshot

/-! ### Snapshots of coordinators -/

namespace Coordinator

variable {ρ σ : Type}

/-- Snapshots show every known node once, in the order of addresses, and each of them shows every
reading of its node once. -/
structure Shown (c : Coordinator ρ σ) (snapshots : List DeviceSnapshot) : Prop where
  ascending : snapshots.Pairwise fun s t ↦ s.node.device.value < t.node.device.value
  nodes : ∀ device node, c.devices.find? device = some node ↔
    node.device = device ∧ ∃ s ∈ snapshots, s.node = node
  faithful : ∀ s ∈ snapshots, s.Faithful c

/-- Whatever a coordinator went through, and whatever was asked of the registry meanwhile, its
snapshot shows every node once and in order, with each of its readings under a name of its own. -/
theorem snapshot_of_past [Radio ρ] [KeyValueStore σ] {c : Coordinator ρ σ}
    {config : AdapterConfig} {corrections : CorrectionTable} {h : History ρ σ}
    (hpast : Past Requested config corrections c h) : c.Shown c.snapshot := by
  have hfiled := hpast.filed
  have hmem : ∀ node, node ∈ c.devices.snapshot ↔ c.devices.find? node.device = some node :=
    fun _ ↦ hfiled.nodes.mem_values_iff
  refine ⟨?_, fun device node ↦ ?_, fun s hs ↦ ?_⟩
  · refine List.pairwise_map.2 (hfiled.nodes.ascending_values.imp fun hlt ↦ ?_)
    exact Std.compare_eq_lt.1 hlt
  · constructor
    · intro hnode
      have hdevice := hfiled.nodes device node hnode
      refine ⟨hdevice, .ofNode c node, List.mem_map_of_mem ((hmem node).2 ?_), rfl⟩
      rw [hdevice]
      exact hnode
    · rintro ⟨rfl, s, hs, rfl⟩
      obtain ⟨node, hnode, rfl⟩ := List.mem_map.1 hs
      exact (hmem node).1 hnode
  · obtain ⟨node, hnode, rfl⟩ := List.mem_map.1 hs
    have hknown := (hmem node).1 hnode
    exact DeviceSnapshot.faithful_ofNode (hfiled.endpoints node.device node hknown) hknown

/-- A switch with two endpoints reports both, and another device is put into the registry, which
comes first as its address is less. -/
theorem snapshot_of_past_twoGang :
    ∃ (c : Coordinator SimulatedRadio MemoryStore) (h : History SimulatedRadio MemoryStore),
      Past Requested default .empty c h ∧
        (c.snapshot.map fun s ↦ (s.node.device, s.readings.entries)) =
          [(⟨3⟩, []), (⟨7⟩, [("on_off", .bool true), ("on_off_11", .bool false)])] ∧
        c.Shown c.snapshot := by
  have hmade : Past Requested default .empty
      (new default .empty SimulatedRadio.empty (none : Option MemoryStore)) .empty := .made _ _
  have hreported := ((hmade.called ⟨0, 0⟩ (.announce ⟨7⟩ 0x1234)).called ⟨1, 0⟩
    (.report ⟨0x1234, 11, ClusterId.onOff, AttributeId.main, 0x10, [0]⟩)).called ⟨2, 0⟩
    (.report ⟨0x1234, 1, ClusterId.onOff, AttributeId.main, 0x10, [1]⟩)
  have hpast := hreported.changed ⟨0, .create ⟨3⟩ 0x0005, _, rfl⟩ SimulatedRadio.empty none
  exact ⟨_, _, hpast, by decide, snapshot_of_past hpast⟩

end Coordinator

end MeshBridge
