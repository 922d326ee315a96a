import MeshBridge.Device.Registry
import Mathlib.Tactic.SplitIfs
/-!
Which devices a registry has in reach, and at which addresses. A device in reach holds its address
(`Held`), so no two devices are in reach at one address; a device out of reach may have lost its
address to another one and still have it as a stale field. Every operation is described by what it
does to `reached?`, and is shown to leave a held registry.
-/

set_option autoImplicit false
set_option relaxedAutoImplicit false

namespace MeshBridge.Registry

variable {r after : Registry} {device : Eui64} {address : NetworkAddress}

/-- The address at which a device is in reach. -/
def reached? (r : Registry) (device : Eui64) : Option NetworkAddress :=
  (r.nodes.get? device).bind fun node ↦ if node.online then some node.address else none

/-- Every device in reach holds its address. -/
def Held (r : Registry) : Prop :=
  ∀ device address, r.reached? device = some address → r.holders.get? address = some device

theorem held_empty : empty.Held := by
  intro device address h
  cases h

/-- A device in reach is known as online at its address. -/
theorem reached?_eq_some_iff :
    r.reached? device = some address ↔
      ∃ node, r.find? device = some node ∧ node.online = true ∧ node.address = address := by
  simp only [reached?, find?, Option.bind_eq_some_iff]
  constructor
  · rintro ⟨node, hnode, haddress⟩
    split_ifs at haddress with honline
    exact ⟨node, hnode, honline, Option.some.inj haddress⟩
  · rintro ⟨node, hnode, honline, haddress⟩
    exact ⟨node, hnode, by rw [if_pos honline, haddress]⟩

/-- The node found at the address of a device in reach is that of the device. -/
theorem Held.findByAddress?_eq (h : r.Held) (hreached : r.reached? device = some address) :
    r.findByAddress? address = r.find? device := by
  rw [findByAddress?, h device address hreached]
  rfl

/-- Putting a node changes what is known of its device only. -/
theorem reached?_insert (nodes : Table Eui64 Node) (holders : Table NetworkAddress Eui64)
    (node : Node) (d : Eui64) :
    reached? ⟨nodes.insert device node, holders⟩ d =
      if d = device then (if node.online then some node.address else none)
      else reached? ⟨nodes, holders⟩ d := by
  simp only [reached?, Table.get?_insert]
  by_cases hd : d = device
  · rw [if_pos hd, if_pos hd]
    rfl
  · rw [if_neg hd, if_neg hd]

/-- A device that gives up an address has it no longer, and no other holder is touched. -/
theorem get?_release_eq (holders : Table NetworkAddress Eui64) (device : Eui64)
    (given a : NetworkAddress) :
    (release holders device given).get? a =
      if holders.get? a = some device ∧ given = a then none else holders.get? a := by
  unfold release
  by_cases ha : given = a
  · subst ha
    by_cases hheld : holders.get? given = some device <;> simp [hheld]
  · have hother : ¬ (holders.get? a = some device ∧ given = a) := fun hheld ↦ ha hheld.2
    rw [if_neg hother]
    by_cases hheld : holders.get? given = some device
    · rw [if_pos hheld, Table.get?_erase, if_neg (Ne.symm ha)]
    · rw [if_neg hheld]

/-- An address is given up by the device that holds it only. -/
theorem get?_release {holders : Table NetworkAddress Eui64} {given : NetworkAddress} {d : Eui64}
    (hother : d ≠ device) (hheld : holders.get? address = some d) :
    (release holders device given).get? address = some d := by
  rw [get?_release_eq, if_neg, hheld]
  rintro ⟨hdevice, -⟩
  rw [hheld] at hdevice
  exact hother (Option.some.inj hdevice)

/-! ### Joining -/

theorem reached?_upsert (r : Registry) (device : Eui64) (address : NetworkAddress) (now : Int64)
    (d : Eui64) :
    (r.upsert device address now).reached? d =
      if d = device then some address else r.reached? d := by
  unfold upsert
  cases r.nodes.get? device with
  | none => exact reached?_insert r.nodes _ _ d
  | some node => exact reached?_insert r.nodes _ _ d

/-- A device that joins holds its address, and any other address that is held by another device
stays so. -/
theorem holders_upsert (r : Registry) (device : Eui64) (address : NetworkAddress) (now : Int64) :
    (r.upsert device address now).holders.get? address = some device ∧
      ∀ d a, d ≠ device → a ≠ address → r.holders.get? a = some d →
        (r.upsert device address now).holders.get? a = some d := by
  constructor
  · exact Table.get?_insert_self ..
  · intro d a hd ha hheld
    show (((r.claim device address).holders).get? a) = some d
    unfold claim
    rw [Table.get?_insert_of_ne _ _ ha]
    cases r.nodes.get? device with
    | none => exact hheld
    | some node => exact get?_release hd hheld

/-- Assumes: no other device is in reach at the address. A registry stays held when a device
joins. -/
theorem Held.upsert (h : r.Held) (hfree : ∀ d, r.reached? d = some address → d = device)
    (now : Int64) : (r.upsert device address now).Held := by
  obtain ⟨hself, hothers⟩ := holders_upsert r device address now
  intro d a hreached
  rw [reached?_upsert] at hreached
  split_ifs at hreached with hd
  · cases hreached
    rw [hd]
    exact hself
  · refine hothers d a hd ?_ (h d a hreached)
    rintro rfl
    exact hd (hfree d hreached)

/-! ### Going out of reach -/

/-- The registry after a device went out of reach. -/
structure Lost (r : Registry) (device : Eui64) (after : Registry) : Prop where
  reached?_eq : ∀ d, after.reached? d = if d = device then none else r.reached? d
  holders : ∀ d a, d ≠ device → r.holders.get? a = some d → after.holders.get? a = some d

theorem Lost.held (hlost : Lost r device after) (h : r.Held) : after.Held := by
  intro d a hreached
  rw [hlost.reached?_eq] at hreached
  split_ifs at hreached with hd
  exact hlost.holders d a hd (h d a hreached)

/-- A device that is not in reach need not be taken out of it. -/
theorem lost_of_reached?_eq_none (h : r.reached? device = none) : Lost r device r where
  reached?_eq := by
    intro d
    split_ifs with hd
    · rw [hd, h]
    · rfl
  holders := fun _ _ _ hheld ↦ hheld

/-- A device that is known to be offline is out of reach. -/
theorem lost_insert_offline {node : Node} (hoffline : node.online = false) :
    Lost r device { r with nodes := r.nodes.insert device node } where
  reached?_eq := by
    intro d
    rw [reached?_insert, hoffline]
    rfl
  holders := fun _ _ _ hheld ↦ hheld

theorem lost_of_setOnline (h : r.setOnline device false = .ok after) : Lost r device after := by
  unfold setOnline modify? at h
  cases hnode : r.nodes.get? device with
  | none => rw [hnode] at h; cases h
  | some node =>
    rw [hnode] at h
    cases h
    exact lost_insert_offline rfl

theorem reached?_of_setOnline_error {f : Fault} {online : Bool}
    (h : r.setOnline device online = .error f) : r.reached? device = none := by
  unfold setOnline modify? at h
  cases hnode : r.nodes.get? device with
  | none => rw [reached?, hnode]; rfl
  | some node => rw [hnode] at h; cases h

theorem lost_of_delete {node : Node} (h : r.delete device = .ok (after, node)) :
    Lost r device after := by
  unfold delete at h
  cases hnode : r.nodes.get? device with
  | none => rw [hnode] at h; cases h
  | some known =>
    rw [hnode] at h
    cases h
    constructor
    · intro d
      simp only [reached?, Table.get?_erase]
      split_ifs <;> rfl
    · intro d a hd hheld
      exact get?_release hd hheld

/-- A device that was deleted was in reach just if its node was online. -/
theorem reached?_of_delete {node : Node} (h : r.delete device = .ok (after, node)) :
    r.reached? device = if node.online then some node.address else none := by
  unfold delete at h
  cases hnode : r.nodes.get? device with
  | none => rw [hnode] at h; cases h
  | some known =>
    rw [hnode] at h
    cases h
    rw [reached?, hnode]
    rfl

theorem reached?_of_delete_error {f : Fault} (h : r.delete device = .error f) :
    r.reached? device = none := by
  unfold delete at h
  cases hnode : r.nodes.get? device with
  | none => rw [reached?, hnode]; rfl
  | some node => rw [hnode] at h; cases h

end MeshBridge.Registry
