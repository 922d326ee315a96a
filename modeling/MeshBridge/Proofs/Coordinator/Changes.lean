import MeshBridge.Proofs.Coordinator.Outcomes
import MeshBridge.Proofs.Coordinator.Reported
import MeshBridge.Proofs.Coordinator.Stages
/-!
Changes and the events that tell of them. A call that brings a device within reach or puts it out of
reach, that stores what a device reported, that ends a command, or that starts or stops the stack
tells so (`Turn.candid`): whatever else was done to the registry before, there is no such change
without its event. What has no event of its own is that the stack begins to be set up, that a
command is under way, and that a device out of reach is forgotten.
-/

set_option autoImplicit false
set_option relaxedAutoImplicit false

namespace MeshBridge.Coordinator

variable {ρ σ : Type} {c after : Coordinator ρ σ} {events : List Event} {d : Eui64}
  {a : NetworkAddress}

/-! ### Devices in reach -/

/-- Assumes: a proper cache. -/
theorem Shift.deviceJoined_mem (hshift : Shift c after events) (h : c.cache.Proper)
    (hafter : after.cache.at? d = some a) (hbefore : c.cache.at? d ≠ some a) :
    .deviceJoined d a ∈ events := by
  cases hshift with
  | stays hcache hreached hholders hevents =>
    rw [hcache] at hafter
    exact absurd hafter hbefore
  | joins device address now displaced hgiven hdevices hevents =>
    rw [hgiven.at?_eq] at hafter
    split_ifs at hafter with hd hdisplaced
    · cases hafter
      rw [hevents, hd]
      exact List.mem_append_right _ (List.mem_singleton_self _)
    · exact absurd hafter hbefore
  | leaves device hcache hlost hevents =>
    rw [hcache, h.at?_without] at hafter
    split_ifs at hafter
    exact absurd hafter hbefore

theorem Shift.deviceLeft_mem (hshift : Shift c after events)
    (hbefore : c.devices.reached? d = some a) (hafter : after.devices.reached? d = none) :
    .deviceLeft d ∈ events := by
  cases hshift with
  | stays hcache hreached hholders hevents =>
    rw [hreached, hbefore] at hafter
    cases hafter
  | joins device address now displaced hgiven hdevices hevents =>
    rw [hdevices, Registry.reached?_upsert] at hafter
    split_ifs at hafter
    rw [reached?_takeOffline, hbefore] at hafter
    split_ifs at hafter with hdisplaced
    obtain ⟨entry, hentry, hd⟩ := (Option.any_eq_true _ _).1 hdisplaced
    have hsame : entry.device = d := of_decide_eq_true hd
    rw [hevents, hentry, takeOffline_events (hsame ▸ hbefore), hsame]
    exact List.mem_append_left _ (List.mem_singleton_self _)
  | leaves device hcache hlost hevents =>
    rw [hlost.reached?_eq, hbefore] at hafter
    split_ifs at hafter with hd
    rcases hevents with htold | ⟨-, hnone⟩
    · rw [htold, hd]
      exact List.mem_singleton_self _
    · rw [← hd, hbefore] at hnone
      cases hnone

theorem Shift.deviceJoined_mem_of_reached (hshift : Shift c after events)
    (hafter : after.devices.reached? d = some a) (hbefore : c.devices.reached? d ≠ some a) :
    .deviceJoined d a ∈ events := by
  cases hshift with
  | stays hcache hreached hholders hevents =>
    rw [hreached] at hafter
    exact absurd hafter hbefore
  | joins device address now displaced hgiven hdevices hevents =>
    rw [hdevices, Registry.reached?_upsert] at hafter
    split_ifs at hafter with hd
    · cases hafter
      rw [hevents, hd]
      exact List.mem_append_right _ (List.mem_singleton_self _)
    · rw [reached?_takeOffline] at hafter
      split_ifs at hafter
      exact absurd hafter hbefore
  | leaves device hcache hlost hevents =>
    rw [hlost.reached?_eq] at hafter
    split_ifs at hafter
    exact absurd hafter hbefore

/-- A report puts no device out of reach. One that is stored has its device online, which is a
change only if others took it offline. -/
theorem report_reached (c : Coordinator ρ σ) (now : Moment) (r : Report) :
    (∀ d, (c.report now r).after.devices.reached? d = c.devices.reached? d) ∨
      ∃ device address v,
        (∀ d, (c.report now r).after.devices.reached? d =
          if d = device then some address else c.devices.reached? d) ∧
        (c.report now r).events = [.attributeChanged device r.endpoint r.cluster r.attr v] := by
  unfold report
  split
  · exact Or.inl fun _ ↦ rfl
  · next value _ =>
    split
    · exact Or.inl fun _ ↦ rfl
    · split
      · exact Or.inl fun _ ↦ rfl
      · next cache device _ =>
        split
        · exact Or.inl fun _ ↦ rfl
        · next node _ =>
          split_ifs
          · exact Or.inl fun _ ↦ rfl
          · refine Or.inr ⟨device, (record node now r value).address, value, ?_, rfl⟩
            intro d
            exact Registry.reached?_insert c.devices.nodes c.devices.holders _ d

/-! ### Calls that make no secret of what they change -/

/-- Every change that a call makes is told by one of its events. -/
structure Turn.Candid [Radio ρ] [KeyValueStore σ] (t : Turn ρ σ) : Prop where
  /-- A device came within reach, or moved to another address. -/
  joined : ∀ d a, t.after.cache.at? d = some a → t.before.cache.at? d ≠ some a →
    .deviceJoined d a ∈ t.events
  /-- A device that was not online there is so now. Of one that others took offline this is told
  when it joins again or reports. -/
  reached : ∀ d a, t.after.devices.reached? d = some a → t.before.devices.reached? d ≠ some a →
    .deviceJoined d a ∈ t.events ∨
      ∃ endpoint cluster attr v, .attributeChanged d endpoint cluster attr v ∈ t.events
  /-- A device that was online is so no more, or was forgotten. -/
  left : ∀ d a, t.before.devices.reached? d = some a → t.after.devices.reached? d = none →
    .deviceLeft d ∈ t.events
  /-- A value was stored. -/
  stored : ∀ p v, t.after.devices.attribute? p = some v → t.before.devices.attribute? p ≠ some v →
    .attributeChanged p.device p.endpoint p.cluster p.attr v ∈ t.events
  /-- A command that was under way, or was handed to the radio just now, is so no more. -/
  ended : ∀ id, t.after.pending.holding id < t.before.pending.holding id + t.handed.count id →
    ∃ e ∈ t.events, e.command? = some id
  /-- A network was formed. -/
  risen : t.after.lifecycle = .ready → t.before.lifecycle ≠ .ready →
    ∃ info, t.after.network = some info ∧ .stackUp info.panId info.channel ∈ t.events
  /-- The stack failed for good. -/
  fallen : t.after.lifecycle = .error → t.before.lifecycle ≠ .error →
    ∃ reason, .stackDown reason ∈ t.events

section Candid

variable [Radio ρ] [KeyValueStore σ] {t : Turn ρ σ}

/-- Assumes: a proper cache. -/
theorem Turn.deviceJoined_mem (h : t.before.cache.Proper) (hafter : t.after.cache.at? d = some a)
    (hbefore : t.before.cache.at? d ≠ some a) : .deviceJoined d a ∈ t.events := by
  obtain ⟨c, now, call⟩ := t
  by_cases hreport : ∃ r, call = .report r
  · obtain ⟨r, rfl⟩ := hreport
    have hsame : (c.report now r).after.cache.at? d = some a := hafter
    rw [report_cache h] at hsame
    exact absurd hsame hbefore
  · have hshift := shift_of_not_report h now fun r hcall ↦ hreport ⟨r, hcall⟩
    exact hshift.deviceJoined_mem h hafter hbefore

/-- Assumes: a proper cache. -/
theorem Turn.deviceLeft_mem (h : t.before.cache.Proper)
    (hbefore : t.before.devices.reached? d = some a) (hafter : t.after.devices.reached? d = none) :
    .deviceLeft d ∈ t.events := by
  obtain ⟨c, now, call⟩ := t
  by_cases hreport : ∃ r, call = .report r
  · obtain ⟨r, rfl⟩ := hreport
    have hnone : (c.report now r).after.devices.reached? d = none := hafter
    rcases c.report_reached now r with hsame | ⟨device, address, v, hset, -⟩
    · rw [hsame, hbefore] at hnone
      cases hnone
    · rw [hset, hbefore] at hnone
      split_ifs at hnone
  · have hshift := shift_of_not_report h now fun r hcall ↦ hreport ⟨r, hcall⟩
    exact hshift.deviceLeft_mem hbefore hafter

/-- Assumes: a proper cache. -/
theorem Turn.told_of_reached (h : t.before.cache.Proper)
    (hafter : t.after.devices.reached? d = some a)
    (hbefore : t.before.devices.reached? d ≠ some a) :
    .deviceJoined d a ∈ t.events ∨
      ∃ endpoint cluster attr v, .attributeChanged d endpoint cluster attr v ∈ t.events := by
  obtain ⟨c, now, call⟩ := t
  by_cases hreport : ∃ r, call = .report r
  · obtain ⟨r, rfl⟩ := hreport
    have hsome : (c.report now r).after.devices.reached? d = some a := hafter
    rcases c.report_reached now r with hsame | ⟨device, address, v, hset, hevents⟩
    · rw [hsame] at hsome
      exact absurd hsome hbefore
    · rw [hset] at hsome
      split_ifs at hsome with hd
      · have htold : (Turn.mk c now (.report r)).events =
          [.attributeChanged device r.endpoint r.cluster r.attr v] := hevents
        refine Or.inr ⟨r.endpoint, r.cluster, r.attr, v, ?_⟩
        rw [htold, hd]
        exact List.mem_singleton_self _
      · exact absurd hsome hbefore
  · have hshift := shift_of_not_report h now fun r hcall ↦ hreport ⟨r, hcall⟩
    exact Or.inl (hshift.deviceJoined_mem_of_reached hafter hbefore)

theorem Turn.attributeChanged_mem {p : AttributePath} {v : AttributeValue}
    (hafter : t.after.devices.attribute? p = some v)
    (hbefore : t.before.devices.attribute? p ≠ some v) :
    .attributeChanged p.device p.endpoint p.cluster p.attr v ∈ t.events := by
  rw [Registry.attribute?_eq] at hafter hbefore
  cases t.learning with
  | kept hforgets hprofile hevents =>
    rw [hprofile] at hafter
    exact absurd hafter hbefore
  | forgot device hforgets hprofile hevents =>
    rw [hprofile] at hafter
    split_ifs at hafter
    · cases hafter
    · exact absurd hafter hbefore
  | learned device endpoint cluster attr value hforgets hprofile hevents =>
    rw [hprofile] at hafter
    split_ifs at hafter with hdevice
    · rw [hdevice] at hbefore
      have hlearned :
          (if p.endpoint = endpoint ∧ p.cluster = cluster ∧ p.attr = attr then some value
            else (t.before.devices.profile device).value? p.endpoint p.cluster p.attr) = some v :=
        hafter
      split_ifs at hlearned with hpath
      · obtain ⟨hendpoint, hcluster, hattr⟩ := hpath
        rw [hevents, hdevice, hendpoint, hcluster, hattr, Option.some.inj hlearned]
        exact List.mem_singleton_self _
      · exact absurd hlearned hbefore
    · exact absurd hafter hbefore

/-- Assumes: a settled table of pending commands. What is in a slot no more was told of. -/
theorem Turn.exists_outcome (h : t.before.pending.Settled) {id : CorrelationId}
    (hended : t.after.pending.holding id < t.before.pending.holding id + t.handed.count id) :
    ∃ e ∈ t.events, e.command? = some id := by
  have hbalance := t.balance h id
  have hpos : 0 < (outcomes id t.events).length := by omega
  obtain ⟨e, he⟩ := List.exists_mem_of_length_pos hpos
  exact ⟨e, mem_outcomes_iff.1 he⟩

/-- Assumes: a proper cache and a settled table of pending commands. -/
theorem Turn.candid (hcache : t.before.cache.Proper) (hpending : t.before.pending.Settled) :
    t.Candid where
  joined _ _ := deviceJoined_mem hcache
  reached _ _ := told_of_reached hcache
  left _ _ := deviceLeft_mem hcache
  stored _ _ := attributeChanged_mem
  ended _ := exists_outcome hpending
  risen hready hother := by
    obtain ⟨c, now, call⟩ := t
    cases progress_perform c now call with
    | stays hlifecycle => exact absurd (hlifecycle.symm.trans hready) hother
    | begins _ hlifecycle => cases hlifecycle.symm.trans hready
    | rises info _ _ hnetwork hevents =>
      have htold : (Turn.mk c now call).events = [.stackUp info.panId info.channel] := hevents
      exact ⟨info, hnetwork, by rw [htold]; exact List.mem_singleton_self _⟩
    | falls _ _ hlifecycle => cases hlifecycle.symm.trans hready
  fallen herror hother := by
    obtain ⟨c, now, call⟩ := t
    cases progress_perform c now call with
    | stays hlifecycle => exact absurd (hlifecycle.symm.trans herror) hother
    | begins _ hlifecycle => cases hlifecycle.symm.trans herror
    | rises _ _ hlifecycle => cases hlifecycle.symm.trans herror
    | falls reason _ _ _ hevents =>
      have htold : (Turn.mk c now call).events = [.stackDown reason] := hevents
      exact ⟨reason, by rw [htold]; exact List.mem_singleton_self _⟩

end Candid

end MeshBridge.Coordinator
