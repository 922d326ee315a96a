import MeshBridge.Proofs.Coordinator.Addresses
import MeshBridge.Proofs.Coordinator.Turns
import MeshBridge.Proofs.Device.Registry
/-!
The devices in reach are known twice: in the cache, which routes frames and reports, and in the
registry, as the nodes that are online. A coordinator is coherent when the two agree. `Shift` lists
what a call can do to the devices in reach together with what it tells of it, `shift_perform` says
that every call does one of these, and each of them leaves a coherent coordinator
(`Shift.coherent`). So the cache and the registry agree at every point of a run (`coherent_run`).
-/

set_option autoImplicit false
set_option relaxedAutoImplicit false

namespace MeshBridge.Coordinator

open AddressCache (Given)
open Registry (Lost)

variable {ρ σ : Type}

/-! ### Devices that lose their address -/

/-- The device that lost its address is out of reach. -/
theorem lost_takeOffline (devices : Registry) (entry : CacheEntry) :
    Lost devices entry.device (takeOffline devices (some entry)).1 := by
  unfold takeOffline
  cases hnode : devices.find? entry.device with
  | none =>
    have hnone : devices.reached? entry.device = none := by
      rw [Registry.reached?, ← Registry.find?, hnode]
      rfl
    simp only [hnode]
    exact Registry.lost_of_reached?_eq_none hnone
  | some node =>
    simp only [hnode]
    cases honline : node.online with
    | true =>
      have hknown : devices.nodes.get? entry.device = some node := hnode
      simp only [if_true, Registry.modify?, hknown, Option.map_some, Option.getD_some]
      exact Registry.lost_insert_offline rfl
    | false =>
      have hnone : devices.reached? entry.device = none := by
        rw [Registry.reached?, ← Registry.find?, hnode, Option.bind_some, honline]
        rfl
      exact Registry.lost_of_reached?_eq_none hnone

/-- A device that was in reach is told to have left when it loses its address. -/
theorem takeOffline_events {devices : Registry} {entry : CacheEntry} {address : NetworkAddress}
    (h : devices.reached? entry.device = some address) :
    (takeOffline devices (some entry)).2 = [.deviceLeft entry.device] := by
  obtain ⟨node, hnode, honline, -⟩ := Registry.reached?_eq_some_iff.1 h
  simp only [takeOffline, hnode, honline, if_true]

/-- After another device lost the address, the devices in reach are those that were before, but for
that one. -/
theorem reached?_takeOffline (devices : Registry) (displaced : Option CacheEntry) (d : Eui64) :
    (takeOffline devices displaced).1.reached? d =
      if displaced.any (·.device = d) then none else devices.reached? d := by
  cases displaced with
  | none => rfl
  | some entry =>
    rw [(lost_takeOffline devices entry).reached?_eq]
    by_cases hd : d = entry.device
    · rw [if_pos hd, if_pos (by simp [hd])]
    · rw [if_neg hd, if_neg (by simpa using Ne.symm hd)]

/-! ### What a call does to the devices in reach -/

/-- What a call does to the devices in reach, and the events by which it tells. -/
inductive Shift (c after : Coordinator ρ σ) (events : List Event) : Prop
  | stays (hcache : after.cache = c.cache)
      (hreached : ∀ d, after.devices.reached? d = c.devices.reached? d)
      (hholders : after.devices.holders = c.devices.holders)
      (hevents : ∀ e ∈ events, e.kind ≠ .deviceJoined ∧ e.kind ≠ .deviceLeft)
  /-- A device joins, and the one that had its address before goes out of reach. -/
  | joins (device : Eui64) (address : NetworkAddress) (now : Int64) (displaced : Option CacheEntry)
      (hgiven : Given c.cache device address after.cache displaced)
      (hdevices : after.devices = (takeOffline c.devices displaced).1.upsert device address now)
      (hevents : events = (takeOffline c.devices displaced).2 ++ [.deviceJoined device address])
  /-- A device leaves. This is told of a device that was out of reach too, or not at all. -/
  | leaves (device : Eui64) (hcache : after.cache = c.cache.without device)
      (hlost : Lost c.devices device after.devices)
      (hevents : events = [.deviceLeft device] ∨ events = [] ∧ c.devices.reached? device = none)

/-- The cache and the registry of a coordinator agree on the devices in reach. -/
structure Coherent (c : Coordinator ρ σ) : Prop where
  proper : c.cache.Proper
  capacity : c.cache.capacity = c.config.maxDevices
  reached : ∀ d, c.cache.at? d = c.devices.reached? d
  held : c.devices.Held

theorem coherent_new (config : AdapterConfig) (corrections : CorrectionTable) (radio : ρ)
    (store : Option σ) : (new config corrections radio store).Coherent where
  proper := AddressCache.proper_empty config.maxDevices
  capacity := rfl
  reached := fun _ ↦ rfl
  held := Registry.held_empty

/-- Assumes: a coherent coordinator. Once another device was taken offline, no other device is in
reach at the address that a device was given. -/
theorem Coherent.free_of_given {c : Coordinator ρ σ} (h : c.Coherent) {device : Eui64}
    {address : NetworkAddress} {after : AddressCache} {displaced : Option CacheEntry}
    (hgiven : Given c.cache device address after displaced) {d : Eui64}
    (hreached : (takeOffline c.devices displaced).1.reached? d = some address) : d = device := by
  by_contra hd
  have hafter : after.at? d = some address := by
    rw [hgiven.at?_eq, if_neg hd, h.reached, ← hreached, reached?_takeOffline]
  have hown : after.at? device = some address := by
    rw [hgiven.at?_eq, if_pos rfl]
  exact hd (hgiven.proper.device_eq hafter hown)

/-- Assumes: a coherent coordinator. Whatever a call does to the devices in reach, it leaves a
coherent coordinator. -/
theorem Shift.coherent {c after : Coordinator ρ σ} {events : List Event}
    (hshift : Shift c after events) (h : c.Coherent) (hconfig : after.config = c.config) :
    after.Coherent := by
  cases hshift with
  | stays hcache hreached hholders hevents =>
    refine ⟨?_, ?_, ?_, ?_⟩
    · rw [hcache]
      exact h.proper
    · rw [hcache, hconfig, h.capacity]
    · intro d
      rw [hcache, hreached, h.reached]
    · intro d a hat
      rw [hreached] at hat
      rw [hholders]
      exact h.held d a hat
  | joins device address now displaced hgiven hdevices hevents =>
    have hheld : (takeOffline c.devices displaced).1.Held := by
      cases displaced with
      | none => exact h.held
      | some entry => exact (lost_takeOffline c.devices entry).held h.held
    refine ⟨hgiven.proper, ?_, ?_, ?_⟩
    · rw [hgiven.capacity, hconfig, h.capacity]
    · intro d
      rw [hdevices, Registry.reached?_upsert, hgiven.at?_eq, reached?_takeOffline, h.reached]
    · rw [hdevices]
      exact hheld.upsert (fun d hreached ↦ h.free_of_given hgiven hreached) now
  | leaves device hcache hlost hevents =>
    refine ⟨?_, ?_, ?_, hlost.held h.held⟩
    · rw [hcache]
      exact h.proper.without device
    · rw [hcache, AddressCache.capacity_without, hconfig, h.capacity]
    · intro d
      rw [hcache, h.proper.at?_without, hlost.reached?_eq, h.reached]

/-- A call that changes neither cache nor registry and tells of no device. -/
theorem Shift.of_same {c after : Coordinator ρ σ} {events : List Event}
    (hcache : after.cache = c.cache) (hdevices : after.devices = c.devices)
    (hevents : ∀ e ∈ events, e.kind ≠ .deviceJoined ∧ e.kind ≠ .deviceLeft) :
    Shift c after events :=
  .stays hcache (fun _ ↦ by rw [hdevices]) (by rw [hdevices]) hevents

theorem shift_refuse {α : Type} (c : Coordinator ρ σ) (f : Fault) :
    Shift c (c.refuse f : Step ρ σ α).after (c.refuse f : Step ρ σ α).events :=
  .of_same rfl rfl (by simp [refuse])

/-- Assumes: a proper cache. -/
theorem shift_announce {c : Coordinator ρ σ} (h : c.cache.Proper) (now : Moment) (device : Eui64)
    (address : NetworkAddress) :
    Shift c (c.announce now device address).after (c.announce now device address).events := by
  unfold announce
  split
  · exact shift_refuse c _
  · split
    · next hput =>
      rw [(h.put_error hput).1]
      exact .of_same rfl rfl (by simp)
    · next displaced hput =>
      exact .joins device address now.civil displaced (h.put_ok hput) rfl rfl

theorem shift_leave (c : Coordinator ρ σ) (device : Eui64) :
    Shift c (c.leave device).after (c.leave device).events := by
  unfold leave
  split
  · exact shift_refuse c _
  · split
    · exact shift_refuse c _
    · next hremove hoffline =>
      refine .leaves device ?_ (Registry.lost_of_setOnline hoffline) (Or.inl rfl)
      exact (AddressCache.without_of_remove_ok hremove).symm
    · next hremove hoffline =>
      refine .leaves device ?_ ?_ (Or.inl rfl)
      · exact (AddressCache.without_of_remove_ok hremove).symm
      · exact Registry.lost_of_reached?_eq_none (Registry.reached?_of_setOnline_error hoffline)
    · next hremove hoffline =>
      refine .leaves device ?_ (Registry.lost_of_setOnline hoffline) (Or.inl rfl)
      exact (AddressCache.without_of_remove_error hremove).symm

theorem shift_remove (c : Coordinator ρ σ) (device : Eui64) :
    Shift c (c.remove device).after (c.remove device).events := by
  unfold remove
  split
  · exact shift_refuse c _
  · split
    · exact shift_refuse c _
    · next hremove hdelete =>
      have hnone := Registry.reached?_of_delete_error hdelete
      refine .leaves device ?_ (Registry.lost_of_reached?_eq_none hnone) (Or.inr ⟨rfl, hnone⟩)
      exact (AddressCache.without_of_remove_ok hremove).symm
    · next devices node hdelete =>
      have hreached := Registry.reached?_of_delete hdelete
      refine .leaves device ?_ (Registry.lost_of_delete hdelete) ?_
      · rfl
      · cases honline : node.online with
        | true => exact Or.inl rfl
        | false =>
          rw [honline] at hreached
          exact Or.inr ⟨rfl, hreached⟩

/-! ### Reports -/

@[simp] theorem record_address (node : Node) (now : Moment) (r : Report) (v : AttributeValue) :
    (record node now r v).address = node.address := by
  show (identify node r.cluster r.attr v).address = node.address
  unfold identify
  split
  · split_ifs <;> rfl
  · rfl

@[simp] theorem record_online (node : Node) (now : Moment) (r : Report) (v : AttributeValue) :
    (record node now r v).online = true := rfl

/-- Assumes: a proper cache. It is as it was after its entry was refreshed, so a report is for the
device at its address. -/
theorem reporter_eq {c : Coordinator ρ σ} (h : c.cache.Proper) (address : NetworkAddress) :
    c.reporter address =
      match c.cache.lookupByAddress address with
      | none => (c.cache, .error (Registry.unknownAddress address))
      | some entry => (c.cache, .ok entry.device) := by
  unfold reporter
  cases hlookup : c.cache.lookupByAddress address with
  | none => rfl
  | some entry =>
    have hat := (h.lookupByAddress_eq_some_iff.1 hlookup).1
    simp only [h.put_self hat]

theorem Coherent.reporter_eq {c : Coordinator ρ σ} (h : c.Coherent) (address : NetworkAddress) :
    c.reporter address =
      match c.cache.lookupByAddress address with
      | none => (c.cache, .error (Registry.unknownAddress address))
      | some entry => (c.cache, .ok entry.device) :=
  Coordinator.reporter_eq h.proper address

/-- Assumes: a coherent coordinator. -/
theorem shift_report {c : Coordinator ρ σ} (h : c.Coherent) (now : Moment) (r : Report) :
    Shift c (c.report now r).after (c.report now r).events := by
  unfold report
  split
  · exact shift_refuse c _
  · split
    · exact shift_refuse c _
    · rw [h.reporter_eq]
      cases hlookup : c.cache.lookupByAddress r.address with
      | none => exact .of_same rfl rfl (by simp)
      | some entry =>
        have hat := (h.proper.lookupByAddress_eq_some_iff.1 hlookup).1
        rw [h.reached] at hat
        obtain ⟨node, hnode, honline, haddress⟩ := Registry.reached?_eq_some_iff.1 hat
        simp only [hnode]
        split_ifs
        · exact .of_same rfl rfl (by simp)
        · refine .stays rfl ?_ rfl (by simp [Event.kind])
          intro d
          show Registry.reached? ⟨c.devices.nodes.insert entry.device _, c.devices.holders⟩ d = _
          rw [Registry.reached?_insert, record_online, record_address, if_pos rfl]
          split_ifs with hd
          · rw [hd, hat, haddress]
          · rfl

/-- Assumes: a proper cache. Every call but a report does to the devices in reach one of what
`Shift` lists, even where the registry does not agree with the cache. -/
theorem shift_of_not_report [Radio ρ] [KeyValueStore σ] {c : Coordinator ρ σ} (h : c.cache.Proper)
    (now : Moment) {call : Call} (hcall : ∀ r, call ≠ .report r) :
    Shift c (c.perform now call).after (c.perform now call).events := by
  have hother (hstill : call.movesDevices = false)
      (hkinds : ∀ kind ∈ call.kinds, kind ≠ .deviceJoined ∧ kind ≠ .deviceLeft) :
      Shift c (c.perform now call).after (c.perform now call).events := by
    obtain ⟨hcache, hdevices⟩ := (c.framed_perform now call).devices hstill
    exact .of_same hcache hdevices fun e he ↦ hkinds _ (kind_mem_kinds he)
  cases call with
  | announce device address => exact shift_announce h now device address
  | leave device => exact shift_leave c device
  | report r => exact absurd rfl (hcall r)
  | remove device => exact shift_remove c device
  | _ => exact hother rfl (by simp [Call.kinds])

/-- Assumes: a coherent coordinator. Every call does to the devices in reach one of what `Shift`
lists. -/
theorem shift_perform [Radio ρ] [KeyValueStore σ] {c : Coordinator ρ σ} (h : c.Coherent)
    (now : Moment) (call : Call) :
    Shift c (c.perform now call).after (c.perform now call).events := by
  by_cases hreport : ∃ r, call = .report r
  · obtain ⟨r, rfl⟩ := hreport
    exact shift_report h now r
  · exact shift_of_not_report h.proper now fun r hcall ↦ hreport ⟨r, hcall⟩

/-- Every call leaves a coherent coordinator. -/
theorem coherent_perform [Radio ρ] [KeyValueStore σ] {c : Coordinator ρ σ} (h : c.Coherent)
    (now : Moment) (call : Call) : (c.perform now call).after.Coherent :=
  (shift_perform h now call).coherent h (c.framed_perform now call).config

/-! ### The cache by itself

Others may change the registry so that it no longer agrees with the cache. What holds of the cache
alone does not depend on that. -/

theorem announce_cache {c : Coordinator ρ σ} (h : c.cache.Proper) (now : Moment) (device : Eui64)
    (address : NetworkAddress) :
    (c.announce now device address).after.cache = c.cache ∨
      ∃ displaced, Given c.cache device address (c.announce now device address).after.cache
        displaced := by
  unfold announce
  split
  · exact Or.inl rfl
  · split
    · next hput => exact Or.inl (h.put_error hput).1
    · next displaced hput => exact Or.inr ⟨displaced, h.put_ok hput⟩

theorem leave_cache (c : Coordinator ρ σ) (device : Eui64) :
    (c.leave device).after.cache = c.cache ∨
      (c.leave device).after.cache = c.cache.without device := by
  unfold leave
  split
  · exact Or.inl rfl
  · split
    · exact Or.inl rfl
    · next hremove _ => exact Or.inr (AddressCache.without_of_remove_ok hremove).symm
    · next hremove _ => exact Or.inr (AddressCache.without_of_remove_ok hremove).symm
    · exact Or.inl rfl

theorem remove_cache (c : Coordinator ρ σ) (device : Eui64) :
    (c.remove device).after.cache = c.cache ∨
      (c.remove device).after.cache = c.cache.without device := by
  unfold remove
  split
  · exact Or.inl rfl
  · split
    · exact Or.inl rfl
    · next hremove _ => exact Or.inr (AddressCache.without_of_remove_ok hremove).symm
    · exact Or.inr rfl

/-- A report leaves the cache as it was, whether it is stored, dropped or refused. -/
theorem report_cache {c : Coordinator ρ σ} (h : c.cache.Proper) (now : Moment) (r : Report) :
    (c.report now r).after.cache = c.cache := by
  unfold report
  rw [reporter_eq h]
  split
  · rfl
  · split
    · rfl
    · cases c.cache.lookupByAddress r.address with
      | none => rfl
      | some entry =>
        dsimp only
        split
        · rfl
        · split_ifs <;> rfl

/-- Every call leaves a proper cache of the same capacity. -/
theorem proper_perform [Radio ρ] [KeyValueStore σ] {c : Coordinator ρ σ} (h : c.cache.Proper)
    (now : Moment) (call : Call) :
    (c.perform now call).after.cache.Proper ∧
      (c.perform now call).after.cache.capacity = c.cache.capacity := by
  have hsame {after : AddressCache} (hcache : after = c.cache) :
      after.Proper ∧ after.capacity = c.cache.capacity := by
    rw [hcache]
    exact ⟨h, rfl⟩
  have hwithout {after : AddressCache} {device : Eui64}
      (hcache : after = c.cache ∨ after = c.cache.without device) :
      after.Proper ∧ after.capacity = c.cache.capacity := by
    rcases hcache with hcache | hcache
    · exact hsame hcache
    · rw [hcache]
      exact ⟨h.without device, AddressCache.capacity_without ..⟩
  cases call with
  | announce device address =>
    rcases announce_cache h now device address with hcache | ⟨displaced, hgiven⟩
    · exact hsame hcache
    · exact ⟨hgiven.proper, hgiven.capacity⟩
  | leave device => exact hwithout (c.leave_cache device)
  | remove device => exact hwithout (c.remove_cache device)
  | report r => exact hsame (report_cache h now r)
  | _ => exact hsame ((c.framed_perform now _).devices rfl).1

/-! ### Pasts -/

section Past

variable [Radio ρ] [KeyValueStore σ] {others : Registry → Registry → Prop} {config : AdapterConfig}
  {corrections : CorrectionTable} {c : Coordinator ρ σ} {h : History ρ σ}

/-- The cache stays proper and has the capacity that was set, whatever others do to the registry. -/
theorem Past.proper (hpast : Past others config corrections c h) :
    c.cache.Proper ∧ c.cache.capacity = config.maxDevices := by
  refine hpast.preserves (P := fun c ↦ c.cache.Proper ∧ c.cache.capacity = config.maxDevices)
    (fun _ _ ↦ ⟨AddressCache.proper_empty _, rfl⟩) ?_ (fun _ _ _ _ _ hproper ↦ hproper)
  intro c now call hproper
  have hsame := proper_perform hproper.1 now call
  exact ⟨hsame.1, hsame.2.trans hproper.2⟩

/-- Where nobody else changes the registry, it agrees with the cache at every point. -/
theorem Past.coherent (hpast : Past Eq config corrections c h) : c.Coherent := by
  refine hpast.preserves (P := Coherent) (fun radio store ↦ coherent_new config _ radio store)
    (fun _ now call hcoherent ↦ coherent_perform hcoherent now call) ?_
  intro c devices radio store hdevices hcoherent
  subst hdevices
  exact ⟨hcoherent.proper, hcoherent.capacity, hcoherent.reached, hcoherent.held⟩

end Past

/-! ### Runs -/

section Run

variable [Radio ρ] [KeyValueStore σ] (config : AdapterConfig) (corrections : CorrectionTable)
  (radio : ρ) (store : Option σ)

theorem config_run (calls : List (Moment × Call)) :
    ((new config corrections radio store).run calls).config = config := by
  obtain ⟨_, hpast, -⟩ := past_run Eq config corrections radio store calls
  exact hpast.config_eq.1

/-- At every point of a run the cache and the registry agree. -/
theorem coherent_run (calls : List (Moment × Call)) :
    ((new config corrections radio store).run calls).Coherent := by
  obtain ⟨_, hpast, -⟩ := past_run Eq config corrections radio store calls
  exact hpast.coherent

end Run

/-- The cache of a coordinator holds the devices that are online, at the addresses they have and
hold in the registry. -/
structure Agreeing (config : AdapterConfig) (c : Coordinator ρ σ) : Prop where
  cached_iff : ∀ device, (c.cache.lookup device).isSome ↔
    ∃ node, c.devices.find? device = some node ∧ node.online = true
  node_of_cached : ∀ device entry, c.cache.lookup device = some entry →
    ∃ node, c.devices.find? device = some node ∧ entry.address = node.address ∧
      c.devices.findByAddress? entry.address = some node
  /-- No device is in the cache twice. -/
  nodup : (c.cache.entries.map (·.device)).Nodup
  /-- No two devices are in the cache with one address. -/
  device_eq : ∀ first second entry other, c.cache.lookup first = some entry →
    c.cache.lookup second = some other → entry.address = other.address → first = second
  size_le : c.cache.size ≤ config.maxDevices

/-- Whatever devices and stack report and whatever is asked of a coordinator, its cache and its
registry agree after every call. -/
theorem agreeing_run [Radio ρ] [KeyValueStore σ] (config : AdapterConfig)
    (corrections : CorrectionTable) (radio : ρ) (store : Option σ)
    (calls : List (Moment × Call)) :
    Agreeing config ((new config corrections radio store).run calls) := by
  have h := coherent_run config corrections radio store calls
  have hconfig := config_run config corrections radio store calls
  generalize (new config corrections radio store).run calls = c at h hconfig
  have hat {device : Eui64} {entry : CacheEntry} (hlookup : c.cache.lookup device = some entry) :
      c.cache.at? device = some entry.address := by
    rw [AddressCache.at?, hlookup]
    rfl
  refine ⟨?_, ?_, h.proper.devices, ?_, ?_⟩
  · intro device
    have hsome : (c.cache.lookup device).isSome = (c.cache.at? device).isSome := by
      rw [AddressCache.at?, Option.isSome_map]
    rw [hsome, h.reached, Option.isSome_iff_exists]
    simp only [Registry.reached?_eq_some_iff]
    constructor
    · rintro ⟨address, node, hnode, honline, -⟩
      exact ⟨node, hnode, honline⟩
    · rintro ⟨node, hnode, honline⟩
      exact ⟨node.address, node, hnode, honline, rfl⟩
  · intro device entry hlookup
    have hreached := (h.reached device).symm.trans (hat hlookup)
    obtain ⟨node, hnode, -, haddress⟩ := Registry.reached?_eq_some_iff.1 hreached
    refine ⟨node, hnode, haddress.symm, ?_⟩
    rw [h.held.findByAddress?_eq hreached, hnode]
  · intro first second entry other hfirst hsecond hsame
    have hother := hat hsecond
    rw [← hsame] at hother
    exact h.proper.device_eq (hat hfirst) hother
  · rw [← hconfig, ← h.capacity]
    exact h.proper.size_le

end MeshBridge.Coordinator
