import MeshBridge.Capability.Basic
import MeshBridge.Mqtt.Message
import MeshBridge.Proofs.Address.Grammar
/-!
Topics do not collide. The digits of an address give the address back, as there are always sixteen
of them, so devices with the same topic are the same (`availability_inj`), and so are capabilities
(`capabilityState_inj`). What is said of a device's availability is said on no topic of another
sort.
-/

set_option autoImplicit false
set_option relaxedAutoImplicit false

namespace MeshBridge

/-! ### Names of capabilities -/

/-- No two capabilities have the same name. -/
theorem Capability.name_inj {c k : Capability} : c.name = k.name ↔ c = k := by
  refine ⟨fun hsame ↦ ?_, congrArg _⟩
  have hfound (c : Capability) : Capability.ofName? c.name = some c := by cases c <;> rfl
  have hboth := congrArg Capability.ofName? hsame
  rw [hfound, hfound] at hboth
  exact Option.some.inj hboth

namespace Topic

theorem toList_below (base suffix : String) :
    (below base suffix).toList = base.toList ++ '/' :: suffix.toList := by
  simp [below]

theorem below_inj (base : String) {first second : String} :
    below base first = below base second ↔ first = second := by
  refine ⟨fun hsame ↦ ?_, congrArg _⟩
  have htexts := congrArg String.toList hsame
  rw [toList_below, toList_below] at htexts
  exact String.toList_inj.1 (List.cons.inj (List.append_cancel_left htexts)).2

/-- Each device has an availability topic of its own. -/
theorem availability_inj (base : String) {d e : Eui64} :
    availability base d = availability base e ↔ d = e := by
  refine ⟨fun hsame ↦ ?_, congrArg _⟩
  have htexts := congrArg String.toList ((below_inj base).1 hsame)
  rw [String.toList_append, String.toList_append] at htexts
  exact Eui64.hex_inj.1 (String.toList_inj.1 (List.append_cancel_right htexts))

/-- Each capability of each device has a state topic of its own. -/
theorem capabilityState_inj (base : String) {d e : Eui64} {c k : Capability} :
    capabilityState base d c.name = capabilityState base e k.name ↔ d = e ∧ c = k := by
  constructor
  · intro hsame
    have htexts := congrArg String.toList ((below_inj base).1 hsame)
    simp only [String.toList_append, List.append_assoc] at htexts
    obtain ⟨hdevice, hrest⟩ :=
      List.append_inj htexts (by rw [Eui64.length_hex, Eui64.length_hex])
    have hname := List.append_cancel_right (List.append_cancel_left hrest)
    exact ⟨Eui64.hex_inj.1 (String.toList_inj.1 hdevice),
      Capability.name_inj.1 (String.toList_inj.1 hname)⟩
  · rintro ⟨rfl, rfl⟩
    rfl

/-- A topic ends as the last part of it does. -/
theorem getLast?_below (base head : String) {ending : String} {last : Char}
    (h : ending.toList.getLast? = some last) :
    (below base (head ++ ending)).toList.getLast? = some last := by
  rw [toList_below, String.toList_append, ← List.cons_append, ← List.append_assoc,
    List.getLast?_append, h, Option.some_or]

theorem getLast?_availability (base : String) (d : Eui64) :
    (availability base d).toList.getLast? = some 'y' :=
  getLast?_below base d.hex rfl

theorem getLast?_capabilityState (base : String) (d : Eui64) (capability : String) :
    (capabilityState base d capability).toList.getLast? = some 'e' :=
  getLast?_below base (d.hex ++ "/" ++ capability) rfl

theorem getLast?_bridgeState (base : String) :
    (bridgeState base).toList.getLast? = some 'e' := by
  have hsplit : "bridge/state" = "bridge" ++ "/state" := by decide
  rw [bridgeState, hsplit]
  exact getLast?_below base "bridge" rfl

theorem getLast?_bridgeDevices (base : String) :
    (bridgeDevices base).toList.getLast? = some 's' := by
  have hsplit : "bridge/devices" = "bridge" ++ "/devices" := by decide
  rw [bridgeDevices, hsplit]
  exact getLast?_below base "bridge" rfl

/-- The topics of states end otherwise than those of availability. -/
theorem capabilityState_ne_availability (base : String) (d e : Eui64) (capability : String) :
    capabilityState base d capability ≠ availability base e := by
  intro hsame
  have hlast := getLast?_capabilityState base d capability
  rw [hsame, getLast?_availability] at hlast
  cases hlast

theorem bridgeState_ne_availability (base : String) (d : Eui64) :
    bridgeState base ≠ availability base d := by
  intro hsame
  have hlast := getLast?_bridgeState base
  rw [hsame, getLast?_availability] at hlast
  cases hlast

end Topic

end MeshBridge
