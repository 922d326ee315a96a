import MeshBridge.Proofs.Coordinator.Past
import MeshBridge.Proofs.Device.Filed
/-!
The registry of a coordinator has everything filed under its own key, whatever calls were made on
the coordinator and whatever was asked of the registry between them (`Past.filed`).
-/

set_option autoImplicit false
set_option relaxedAutoImplicit false

namespace MeshBridge.Coordinator

open Registry (Filed)

variable {ρ σ : Type} {c : Coordinator ρ σ}

theorem filed_takeOffline {devices : Registry} (h : devices.Filed)
    (displaced : Option CacheEntry) : (takeOffline devices displaced).1.Filed := by
  cases displaced with
  | none => exact h
  | some entry =>
    simp only [takeOffline]
    split
    · split_ifs
      · cases hmodify : devices.modify? entry.device fun node ↦ { node with online := false } with
        | none => exact h
        | some after =>
          refine h.modify (f := fun node ↦ { node with online := false }) ?_ hmodify
          exact fun node hnode ↦ ⟨rfl, h.endpoints entry.device node hnode⟩
      · exact h
    · exact h

theorem filed_announce (h : c.devices.Filed) (now : Moment) (device : Eui64)
    (address : NetworkAddress) : (c.announce now device address).after.devices.Filed := by
  unfold announce
  split
  · exact h
  · split
    · exact h
    · exact (filed_takeOffline h _).upsert device address now.civil

theorem filed_leave (h : c.devices.Filed) (device : Eui64) :
    (c.leave device).after.devices.Filed := by
  unfold leave
  split
  · exact h
  · split
    · exact h
    · next hoffline => exact h.setOnline hoffline
    · exact h
    · next hoffline => exact h.setOnline hoffline

/-- What a device says about itself changes its names only. -/
theorem identify_eq (node : Node) (cluster attr : UInt16) (v : AttributeValue) :
    ∃ manufacturer model, identify node cluster attr v = { node with manufacturer, model } := by
  unfold identify
  split
  · split_ifs <;> exact ⟨_, _, rfl⟩
  · exact ⟨_, _, rfl⟩

theorem filed_report (h : c.devices.Filed) (now : Moment) (r : Report) :
    (c.report now r).after.devices.Filed := by
  unfold report
  split
  · exact h
  · next value _ =>
    split
    · exact h
    · split
      · exact h
      · next device _ =>
        split
        · exact h
        · next node hnode =>
          split_ifs
          · exact h
          · obtain ⟨manufacturer, model, hnamed⟩ := identify_eq node r.cluster r.attr value
            have hfiled : Node.Filed
                { identify node r.cluster r.attr value with
                  online := true, lastSeen := now.civil } := by
              rw [hnamed]
              exact h.endpoints device node hnode
            refine h.putNode ?_ (hfiled.store r.endpoint r.cluster r.attr value) _
            show (identify node r.cluster r.attr value).device = device
            rw [hnamed]
            exact h.nodes device node hnode

theorem filed_remove (h : c.devices.Filed) (device : Eui64) :
    (c.remove device).after.devices.Filed := by
  unfold remove
  split
  · exact h
  · split
    · exact h
    · exact h
    · next hdelete => exact h.delete hdelete

variable [Radio ρ] [KeyValueStore σ]

/-- Every call leaves everything filed under its own key. -/
theorem filed_perform (h : c.devices.Filed) (now : Moment) (call : Call) :
    (c.perform now call).after.devices.Filed := by
  cases hmoves : call.movesDevices with
  | false =>
    rw [((c.framed_perform now call).devices hmoves).2]
    exact h
  | true =>
    cases call with
    | announce device address => exact filed_announce h now device address
    | leave device => exact filed_leave h device
    | report r => exact filed_report h now r
    | remove device => exact filed_remove h device
    | _ => cases hmoves

/-- One registry is another one after something was asked of it. -/
def Requested (before after : Registry) : Prop :=
  ∃ now request reply, before.perform now request = some (after, reply)

/-- Whatever is asked of the registry between the calls, everything in it is filed under its own
key. -/
theorem Past.filed {config : AdapterConfig} {corrections : CorrectionTable} {h : History ρ σ}
    (hpast : Past Requested config corrections c h) : c.devices.Filed := by
  refine hpast.preserves (P := fun c ↦ c.devices.Filed) (fun _ _ ↦ Registry.filed_empty)
    (fun c now call hfiled ↦ filed_perform hfiled now call) ?_
  rintro c devices radio store ⟨now, request, reply, hperform⟩ hfiled
  exact Registry.Filed.perform hfiled hperform

end MeshBridge.Coordinator
