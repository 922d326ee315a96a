import MeshBridge.Proofs.Coordinator.Reach
import MeshBridge.Radio.Simulated
import MeshBridge.Store.Memory
/-!
Devices that announce themselves in either order. What an announcement does to the cache and the
registry, times set aside, is a function of what they hold (`Announced.picture`), and for different
devices at different addresses these functions commute (`Picture.announce_comm`): a device that is
displaced and comes back in one order just moves in the other, and which addresses it gives up on
the way depends on who holds them then, but the outcome does not. So coordinators that took two
announcements in either order agree on the devices (`agrees_of_announced`). That both orders succeed
has to be assumed, as a full cache may take the one and refuse the other.
-/

set_option autoImplicit false
set_option relaxedAutoImplicit false

namespace MeshBridge

/-- The node without the time at which it was last heard of. -/
def Node.timeless (n : Node) : Node := { n with lastSeen := 0 }

/-- The node as it is known once its address went to another device. -/
def Node.offline (n : Node) : Node := { n with online := false }

/-- The node of a device that joined, new or as it was known before. -/
def Node.joined (device : Eui64) (address : NetworkAddress) (known : Option Node) : Node :=
  match known with
  | some node => { node with device, address, online := true }
  | none => .new device address 0

/-! ### The registry when a device joins -/

namespace Registry

theorem find?_upsert (r : Registry) (device : Eui64) (address : NetworkAddress) (now : Int64)
    (d : Eui64) :
    ((r.upsert device address now).find? d).map Node.timeless =
      if d = device then some (.joined device address ((r.find? d).map Node.timeless))
      else (r.find? d).map Node.timeless := by
  have hset (node : Node) (hnode : node.device = device) :
      ((r.claim device address).setNode node).find? d =
        if d = device then some node else r.find? d := by
    rw [find?, setNode, Table.get?_insert, hnode]
    rfl
  unfold upsert
  cases hknown : r.nodes.get? device with
  | none =>
    rw [hset _ rfl]
    split_ifs with hd
    · rw [hd, find?, hknown]
      rfl
    · rfl
  | some node =>
    rw [hset _ rfl]
    split_ifs with hd
    · rw [hd, find?, hknown]
      rfl
    · rfl

/-- A device that joins takes the address it announced, and gives up the one it had if it still
holds it. -/
theorem get?_holders_upsert (r : Registry) (device : Eui64) (address : NetworkAddress) (now : Int64)
    (a : NetworkAddress) :
    (r.upsert device address now).holders.get? a =
      if a = address then some device
      else if r.holders.get? a = some device ∧ (r.find? device).map (·.address) = some a then none
      else r.holders.get? a := by
  show ((r.claim device address).holders.get? a) = _
  unfold claim find?
  rw [Table.get?_insert]
  refine if_congr Iff.rfl rfl ?_
  cases r.nodes.get? device with
  | none => simp
  | some node => simp [get?_release_eq]

end Registry

namespace Coordinator

open AddressCache (Given)

variable {ρ σ : Type} {c : Coordinator ρ σ} {device : Eui64} {address : NetworkAddress}

theorem find?_takeOffline (devices : Registry) (displaced : Option CacheEntry) (d : Eui64) :
    (takeOffline devices displaced).1.find? d =
      if displaced.any (·.device = d) then (devices.find? d).map Node.offline
      else devices.find? d := by
  cases displaced with
  | none => rfl
  | some entry =>
    simp only [takeOffline, Option.any_some, decide_eq_true_eq]
    cases hnode : devices.find? entry.device with
    | none =>
      by_cases hd : entry.device = d
      · simp [← hd, hnode]
      · simp [hd]
    | some node =>
      dsimp only
      cases honline : node.online with
      | true =>
        have hknown : devices.nodes.get? entry.device = some node := hnode
        simp only [if_true, Registry.modify?, hknown, Option.map_some, Option.getD_some]
        rw [Registry.find?, Table.get?_insert]
        by_cases hd : entry.device = d
        · rw [if_pos hd.symm, if_pos hd, ← hd, hnode]
          rfl
        · rw [if_neg (Ne.symm hd), if_neg hd]
          rfl
      | false =>
        have hoffline : node.offline = node := by
          rw [Node.offline, ← honline]
        simp only [Bool.false_eq_true, if_false]
        by_cases hd : entry.device = d
        · simp [← hd, hnode, hoffline]
        · simp [hd]

theorem holders_takeOffline (devices : Registry) (displaced : Option CacheEntry) :
    (takeOffline devices displaced).1.holders = devices.holders := by
  unfold takeOffline
  split
  · rfl
  · next entry =>
    split
    · split_ifs
      · unfold Registry.modify?
        cases devices.nodes.get? entry.device <;> rfl
      · rfl
    · rfl

/-! ### What is known of the devices -/

/-- What the cache and the registry hold, times set aside. -/
@[ext]
structure Picture where
  at? : Eui64 → Option NetworkAddress
  node? : Eui64 → Option Node
  holder? : NetworkAddress → Option Eui64

def picture (c : Coordinator ρ σ) : Picture where
  at? := c.cache.at?
  node? d := (c.devices.find? d).map Node.timeless
  holder? := c.devices.holders.get?

namespace Picture

/-- What is known after a device announced itself, if there was room for it. -/
def announce (p : Picture) (device : Eui64) (address : NetworkAddress) : Picture where
  at? d :=
    if d = device then some address
    else if p.at? d = some address then none
    else p.at? d
  node? d :=
    if d = device then some (.joined device address (p.node? d))
    else if p.at? d = some address then (p.node? d).map Node.offline
    else p.node? d
  holder? a :=
    if a = address then some device
    else if p.holder? a = some device ∧ (p.node? device).map (·.address) = some a then none
    else p.holder? a

variable {i j : Eui64} {n m : NetworkAddress}

/-- Each of the two devices ends at its own address, and any other device is displaced or not in
both orders alike. -/
theorem at?_announce_comm (p : Picture) (hdevices : i ≠ j) (haddresses : n ≠ m) (d : Eui64) :
    ((p.announce i n).announce j m).at? d = ((p.announce j m).announce i n).at? d := by
  by_cases hi : d = i
  · subst hi
    simp [announce, hdevices, haddresses]
  · by_cases hj : d = j
    · subst hj
      simp [announce, hi, haddresses.symm]
    · simp only [announce, if_neg hi, if_neg hj]
      by_cases hn : p.at? d = some n <;> by_cases hm : p.at? d = some m <;> simp [hn, hm]

/-- A device that was displaced before it joined is known as if it had not been. -/
theorem joined_map_offline (device : Eui64) (address : NetworkAddress) (known : Option Node) :
    Node.joined device address (known.map Node.offline) = Node.joined device address known := by
  cases known <;> rfl

theorem node?_announce_comm (p : Picture) (hdevices : i ≠ j) (haddresses : n ≠ m) (d : Eui64) :
    ((p.announce i n).announce j m).node? d = ((p.announce j m).announce i n).node? d := by
  by_cases hi : d = i
  · subst hi
    by_cases hm : p.at? d = some m <;>
      simp [announce, hdevices, haddresses, hm, joined_map_offline]
  · by_cases hj : d = j
    · subst hj
      by_cases hn : p.at? d = some n <;>
        simp [announce, hi, haddresses.symm, hn, joined_map_offline]
    · simp only [announce, if_neg hi, if_neg hj]
      by_cases hn : p.at? d = some n
      · simp [hn, haddresses]
      · by_cases hm : p.at? d = some m <;> simp [hn, hm, haddresses.symm]

/-- What a device is displaced by does not change the address that it gives up. -/
theorem address_node?_announce (p : Picture) (hdevices : i ≠ j) :
    ((p.announce i n).node? j).map (·.address) = (p.node? j).map (·.address) := by
  simp only [announce, if_neg hdevices.symm]
  split_ifs
  · cases p.node? j <;> rfl
  · rfl

/-- At most one of the two devices held the address before. -/
theorem holder?_announce_comm (p : Picture) (hdevices : i ≠ j) (haddresses : n ≠ m)
    (a : NetworkAddress) :
    ((p.announce i n).announce j m).holder? a = ((p.announce j m).announce i n).holder? a := by
  have hkept (p : Picture) {i j : Eui64} {n m : NetworkAddress} (hdevices : i ≠ j) :
      ((p.announce i n).announce j m).holder? a =
        if a = m then some j
        else if (p.announce i n).holder? a = some j ∧ (p.node? j).map (·.address) = some a then none
        else (p.announce i n).holder? a := by
    rw [← p.address_node?_announce hdevices]
    rfl
  rw [hkept p hdevices, hkept p hdevices.symm]
  by_cases hn : a = n
  · subst hn
    simp [announce, haddresses, hdevices]
  · by_cases hm : a = m
    · subst hm
      simp [announce, hn, hdevices.symm]
    · simp only [announce, if_neg hn, if_neg hm]
      by_cases hi : p.holder? a = some i
      · simp [hi, hdevices]
      · by_cases hj : p.holder? a = some j <;> simp [hi, hj, hdevices.symm]

theorem announce_comm (p : Picture) (hdevices : i ≠ j) (haddresses : n ≠ m) :
    (p.announce i n).announce j m = (p.announce j m).announce i n := by
  apply Picture.ext
  · funext d
    exact p.at?_announce_comm hdevices haddresses d
  · funext d
    exact p.node?_announce_comm hdevices haddresses d
  · funext a
    exact p.holder?_announce_comm hdevices haddresses a

end Picture

/-! ### Announcements -/

/-- Assumes: a device that was given an address in the cache. Another device lost it just if it had
it. -/
theorem any_displaced_iff {after : AddressCache} {displaced : Option CacheEntry}
    (hgiven : Given c.cache device address after displaced) {d : Eui64} (hd : d ≠ device) :
    displaced.any (·.device = d) = true ↔ c.cache.at? d = some address := by
  constructor
  · intro hany
    cases displaced with
    | none => cases hany
    | some old =>
      obtain rfl : old.device = d := of_decide_eq_true hany
      exact (hgiven.displaced_eq old rfl).2
  · intro hat
    by_contra hkept
    have hother : after.at? d = some address := by
      rw [hgiven.at?_eq, if_neg hd, if_neg hkept, hat]
    have hown : after.at? device = some address := by
      rw [hgiven.at?_eq, if_pos rfl]
    exact hd (hgiven.proper.device_eq hother hown)

/-- The device that is given an address does not lose it. -/
theorem find?_takeOffline_self {after : AddressCache} {displaced : Option CacheEntry}
    (hgiven : Given c.cache device address after displaced) :
    (takeOffline c.devices displaced).1.find? device = c.devices.find? device := by
  rw [find?_takeOffline, if_neg]
  cases displaced with
  | none => exact Bool.false_ne_true
  | some old => simpa using (hgiven.displaced_eq old rfl).1

/-- What the cache and the registry hold after a device was given an address, another one was taken
offline, and the device was brought online. -/
theorem picture_of_given {after : Coordinator ρ σ} {displaced : Option CacheEntry} {now : Int64}
    (hgiven : Given c.cache device address after.cache displaced)
    (hdevices : after.devices = (takeOffline c.devices displaced).1.upsert device address now) :
    after.picture = c.picture.announce device address := by
  have hself := find?_takeOffline_self hgiven
  apply Picture.ext
  · funext d
    show after.cache.at? d = if d = device then some address
      else if c.cache.at? d = some address then none else c.cache.at? d
    rw [hgiven.at?_eq]
    by_cases hd : d = device
    · rw [if_pos hd, if_pos hd]
    · rw [if_neg hd, if_neg hd]
      exact if_congr (any_displaced_iff hgiven hd) rfl rfl
  · funext d
    show (after.devices.find? d).map Node.timeless = if d = device
      then some (.joined device address ((c.devices.find? d).map Node.timeless))
      else if c.cache.at? d = some address
        then ((c.devices.find? d).map Node.timeless).map Node.offline
        else (c.devices.find? d).map Node.timeless
    rw [hdevices, Registry.find?_upsert]
    by_cases hd : d = device
    · rw [if_pos hd, if_pos hd, hd, hself]
    · rw [if_neg hd, if_neg hd, find?_takeOffline]
      by_cases hat : c.cache.at? d = some address
      · rw [if_pos ((any_displaced_iff hgiven hd).2 hat), if_pos hat]
        cases c.devices.find? d <;> rfl
      · rw [if_neg fun hany ↦ hat ((any_displaced_iff hgiven hd).1 hany), if_neg hat]
  · funext a
    show after.devices.holders.get? a = if a = address then some device
      else if c.devices.holders.get? a = some device ∧
          (((c.devices.find? device).map Node.timeless).map (·.address)) = some a then none
        else c.devices.holders.get? a
    rw [hdevices, Registry.get?_holders_upsert, holders_takeOffline, hself, Option.map_map]
    rfl

/-- A device announced itself with success. -/
def Announced (c : Coordinator ρ σ) (device : Eui64) (address : NetworkAddress)
    (after : Coordinator ρ σ) : Prop :=
  ∃ now, (c.announce now device address).result = .ok () ∧
    (c.announce now device address).after = after

variable {after : Coordinator ρ σ}

/-- Assumes: a proper cache. A successful announcement changes the cache and the registry only, and
what they hold as a function of what they held. -/
theorem Announced.picture (h : c.cache.Proper) (hannounced : c.Announced device address after) :
    after.cache.Proper ∧ after.picture = c.picture.announce device address ∧
      after = { c with cache := after.cache, devices := after.devices } := by
  obtain ⟨now, hok, rfl⟩ := hannounced
  cases halive : c.requireAlive with
  | error f =>
    simp only [announce, halive, refuse] at hok
    cases hok
  | ok _ =>
    cases hput : c.cache.put device address with
    | mk cache result =>
      cases result with
      | error f =>
        simp only [announce, halive, hput] at hok
        cases hok
      | ok displaced =>
        have hgiven := h.put_ok hput
        simp only [announce, halive, hput]
        exact ⟨hgiven.proper, picture_of_given hgiven rfl, trivial⟩

/-- Two coordinators agree on the devices, times set aside, and on all else. -/
structure Agrees (c c' : Coordinator ρ σ) : Prop where
  /-- The caches have the same entries, in whatever order. -/
  entries : c.cache.entries.Perm c'.cache.entries
  lookup : ∀ device, c.cache.lookup device = c'.cache.lookup device
  lookupByAddress : ∀ address, c.cache.lookupByAddress address = c'.cache.lookupByAddress address
  /-- The registries have the same nodes, with all below them. -/
  nodes : ∀ device, (c.devices.find? device).map Node.timeless =
    (c'.devices.find? device).map Node.timeless
  /-- Each address leads to the same node. -/
  nodesByAddress : ∀ address, (c.devices.findByAddress? address).map Node.timeless =
    (c'.devices.findByAddress? address).map Node.timeless
  others : { c with cache := c'.cache, devices := c'.devices } = c'

/-- Assumes: proper caches. Two coordinators that hold the same of the devices agree on them. -/
theorem agrees_of_picture {c c' : Coordinator ρ σ} (h : c.cache.Proper) (h' : c'.cache.Proper)
    (hpicture : c.picture = c'.picture)
    (hothers : { c with cache := c'.cache, devices := c'.devices } = c') : c.Agrees c' := by
  have hat (d : Eui64) : c.cache.at? d = c'.cache.at? d :=
    congrFun (congrArg Picture.at? hpicture) d
  have hnode (d : Eui64) : (c.devices.find? d).map Node.timeless =
      (c'.devices.find? d).map Node.timeless :=
    congrFun (congrArg Picture.node? hpicture) d
  have hholder (a : NetworkAddress) : c.devices.holders.get? a = c'.devices.holders.get? a :=
    congrFun (congrArg Picture.holder? hpicture) a
  have hmem (e : CacheEntry) : e ∈ c.cache.entries ↔ e ∈ c'.cache.entries := by
    rw [← AddressCache.at?_eq_some_iff h.devices, ← AddressCache.at?_eq_some_iff h'.devices, hat]
  refine ⟨?_, ?_, ?_, hnode, ?_, hothers⟩
  · exact (List.perm_ext_iff_of_nodup (List.Nodup.of_map _ h.devices)
      (List.Nodup.of_map _ h'.devices)).2 hmem
  · intro d
    ext e
    rw [AddressCache.lookup_eq_some_iff h.devices, AddressCache.lookup_eq_some_iff h'.devices, hmem]
  · intro a
    ext e
    rw [h.lookupByAddress_eq_some_iff, h'.lookupByAddress_eq_some_iff, hat]
  · intro a
    rw [Registry.findByAddress?, Registry.findByAddress?, hholder]
    cases c'.devices.holders.get? a with
    | none => rfl
    | some d => exact hnode d

section Past

variable [Radio ρ] [KeyValueStore σ] {others : Registry → Registry → Prop} {config : AdapterConfig}
  {corrections : CorrectionTable} {h : History ρ σ} {i j : Eui64} {n m : NetworkAddress}
  {first second after' : Coordinator ρ σ}

/-- Whatever the coordinator went through and whenever the devices announced themselves: where both
orders succeed, they lead to coordinators that agree. -/
theorem agrees_of_announced (hpast : Past others config corrections c h) (hdevices : i ≠ j)
    (haddresses : n ≠ m) (hfirst : c.Announced i n first) (hafter : first.Announced j m after)
    (hsecond : c.Announced j m second) (hafter' : second.Announced i n after') :
    after.Agrees after' := by
  obtain ⟨hproperFirst, hpictureFirst, hframeFirst⟩ := hfirst.picture hpast.proper.1
  obtain ⟨hproperSecond, hpictureSecond, hframeSecond⟩ := hsecond.picture hpast.proper.1
  obtain ⟨hproper, hpicture, hframe⟩ := hafter.picture hproperFirst
  obtain ⟨hproper', hpicture', hframe'⟩ := hafter'.picture hproperSecond
  apply agrees_of_picture hproper hproper'
  · rw [hpicture, hpictureFirst, hpicture', hpictureSecond]
    exact c.picture.announce_comm hdevices haddresses
  · rw [hframe, hframeFirst, hframe', hframeSecond]

end Past

/-- A coordinator in reach of two devices. -/
def neighbors : Coordinator SimulatedRadio MemoryStore :=
  (new default .empty SimulatedRadio.empty none).run
    [(⟨0, 0⟩, .announce ⟨7⟩ 5), (⟨1, 1⟩, .announce ⟨8⟩ 6)]

/-- The two swap their addresses. Whoever goes first displaces the other. -/
theorem agrees_of_announced_neighbors :
    ∃ first second after after' : Coordinator SimulatedRadio MemoryStore,
      neighbors.Announced ⟨7⟩ 6 first ∧ first.cache.at? ⟨8⟩ = none ∧ first.Announced ⟨8⟩ 5 after ∧
        neighbors.Announced ⟨8⟩ 5 second ∧ second.cache.at? ⟨7⟩ = none ∧
          second.Announced ⟨7⟩ 6 after' ∧ after.Agrees after' := by
  obtain ⟨h, hpast, -⟩ := past_run Eq default .empty SimulatedRadio.empty
    (none : Option MemoryStore) [(⟨0, 0⟩, .announce ⟨7⟩ 5), (⟨1, 1⟩, .announce ⟨8⟩ 6)]
  have hfirst : neighbors.Announced ⟨7⟩ 6 (neighbors.announce ⟨2, 2⟩ ⟨7⟩ 6).after :=
    ⟨⟨2, 2⟩, by decide, rfl⟩
  have hafter : (neighbors.announce ⟨2, 2⟩ ⟨7⟩ 6).after.Announced ⟨8⟩ 5 _ :=
    ⟨⟨3, 3⟩, by decide, rfl⟩
  have hsecond : neighbors.Announced ⟨8⟩ 5 (neighbors.announce ⟨4, 4⟩ ⟨8⟩ 5).after :=
    ⟨⟨4, 4⟩, by decide, rfl⟩
  have hafter' : (neighbors.announce ⟨4, 4⟩ ⟨8⟩ 5).after.Announced ⟨7⟩ 6 _ :=
    ⟨⟨5, 5⟩, by decide, rfl⟩
  exact ⟨_, _, _, _, hfirst, by decide, hafter, hsecond, by decide, hafter',
    agrees_of_announced hpast (by decide) (by decide) hfirst hafter hsecond hafter'⟩

end Coordinator

end MeshBridge
