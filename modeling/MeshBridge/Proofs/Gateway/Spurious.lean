import MeshBridge.Proofs.Attribute.Wire
import MeshBridge.Proofs.Capability.Readings
import MeshBridge.Proofs.Coordinator.Reported
import MeshBridge.Proofs.Correction.Evaluation
import MeshBridge.Proofs.Gateway.Activity
import MeshBridge.Radio.Simulated
import MeshBridge.Store.Memory
/-!
Reports that a correction says to drop. One that says something of its capability is dropped: the
gateway is as it was, so no handler is called, no message reaches the broker, and the value stored
before is still the one that is read. One that says nothing of its capability is not looked at by
the correction: it is stored and told like any other, takes the place of the value stored before,
and from then on nothing is read (`dropped_or_overwritten_of_past`).
-/

set_option autoImplicit false
set_option relaxedAutoImplicit false

namespace MeshBridge

/-! ### Reports to a coordinator -/

namespace Coordinator

variable {ρ σ : Type} {c : Coordinator ρ σ} {device : Eui64} {node : Node} {r : Report}
  {v : AttributeValue} {capability : Capability}

/-- A report is spurious just if it says something of a capability and the first entry for its
device drops what is reported of that capability. -/
theorem isSpurious_iff {corrections : CorrectionTable} {cluster attr : UInt16} :
    isSpurious corrections node cluster attr v = true ↔
      ∃ capability e, cluster = capability.cluster ∧ attr = capability.attr ∧
        capability.Readable v ∧ corrections.find? node.manufacturer node.model = some e ∧
        .ignoreSpurious capability ∈ e.actions := by
  constructor
  · intro hspurious
    obtain ⟨corrected, hcorrected, hignored⟩ := (Option.any_eq_true _ _).1 hspurious
    obtain ⟨capability, hcapability, hsome⟩ := Option.bind_eq_some_iff.1 hcorrected
    obtain ⟨value, hvalue, hsame⟩ := Option.bind_eq_some_iff.1 hsome
    cases hsame
    obtain ⟨hcluster, hattr⟩ := Capability.ofAttributeId?_eq_some_iff.1 hcapability
    have hreadable := (capability.isSome_ofAttribute_iff v).1 (by rw [hvalue]; rfl)
    obtain ⟨e, hentry, hdrops⟩ := (corrections.correctReport_ignored_iff ..).1 hignored
    exact ⟨capability, e, hcluster, hattr, hreadable, hentry, hdrops⟩
  · rintro ⟨capability, e, hcluster, hattr, hreadable, hentry, hdrops⟩
    have hcapability := Capability.ofAttributeId?_eq_some_iff.2 ⟨hcluster, hattr⟩
    obtain ⟨value, hvalue⟩ :=
      Option.isSome_iff_exists.1 ((capability.isSome_ofAttribute_iff v).2 hreadable)
    have hignored := (corrections.correctReport_ignored_iff node.manufacturer node.model capability
      value).2 ⟨e, hentry, hdrops⟩
    simp [isSpurious, hcapability, hvalue, hignored]

/-- A value that says nothing of the capability of its attribute is never spurious: the attribute
backs one capability only, so no entry drops the report on behalf of another. -/
theorem not_isSpurious_of_not_readable (corrections : CorrectionTable) (node : Node)
    (hreadable : ¬ capability.Readable v) :
    isSpurious corrections node capability.cluster capability.attr v = false := by
  rw [Bool.eq_false_iff]
  intro hspurious
  obtain ⟨other, -, hcluster, hattr, hother, -⟩ := isSpurious_iff.1 hspurious
  cases Capability.eq_of_attr hcluster hattr
  exact hreadable hother

/-- Assumes: a proper cache. The address of a device in reach leads back to it. -/
theorem reporter_of_address (h : c.cache.Proper) {address : NetworkAddress}
    (haddress : c.address? device = some address) :
    c.reporter address = (c.cache, .ok device) := by
  have hentry : c.cache.lookupByAddress address = some ⟨device, address⟩ :=
    h.lookupByAddress_eq_some_iff.2 ⟨haddress, rfl⟩
  rw [reporter_eq h, hentry]

/-- Assumes: a proper cache. What becomes of a report from the address of a known device that can be
decoded. -/
theorem report_of_decoded (h : c.cache.Proper) (halive : c.lifecycle ≠ .error)
    (hdecoded : Wire.decode r.typeId r.raw = .ok v) (haddress : c.address? device = some r.address)
    (hnode : c.devices.find? device = some node) (now : Moment) :
    c.report now r =
      if isSpurious c.corrections node r.cluster r.attr v then ⟨c, [], .ok ()⟩
      else ⟨{ c with devices :=
          { c.devices with nodes := c.devices.nodes.insert device (record node now r v) } },
        [.attributeChanged device r.endpoint r.cluster r.attr v], .ok ()⟩ := by
  unfold report
  rw [hdecoded, requireAlive_of_ne_error halive, reporter_of_address h haddress]
  simp only [hnode]

/-- The value read is made from the value stored for the attribute of the capability. -/
theorem stored_eq (node : Node) (endpoint : UInt8) (capability : Capability) :
    stored node endpoint capability =
      (node.value? endpoint capability.cluster capability.attr).bind capability.ofAttribute := by
  rw [stored, Node.value?, Option.bind_map]
  rfl

/-- A report that a correction says to drop: it can be decoded, it comes from the address of a
device, it is about the attribute of a capability, and the first entry for what the device said it
is drops what is reported of that capability. -/
structure Unwanted (c : Coordinator ρ σ) (r : Report) (device : Eui64) (capability : Capability)
    (v : AttributeValue) : Prop where
  decoded : Wire.decode r.typeId r.raw = .ok v
  address : c.address? device = some r.address
  cluster : r.cluster = capability.cluster
  attr : r.attr = capability.attr
  entry : ∃ node e, c.devices.find? device = some node ∧
    c.corrections.find? node.manufacturer node.model = some e ∧
      .ignoreSpurious capability ∈ e.actions

/-- Assumes: a proper cache. An unwanted report that says something of its capability is dropped. -/
theorem Unwanted.report_of_readable (hunwanted : Unwanted c r device capability v)
    (h : c.cache.Proper) (hreadable : capability.Readable v) (halive : c.lifecycle ≠ .error)
    (now : Moment) : c.report now r = ⟨c, [], .ok ()⟩ := by
  obtain ⟨node, e, hnode, hentry, hdrops⟩ := hunwanted.entry
  have hspurious : isSpurious c.corrections node r.cluster r.attr v = true :=
    isSpurious_iff.2
      ⟨capability, e, hunwanted.cluster, hunwanted.attr, hreadable, hentry, hdrops⟩
  rw [report_of_decoded h halive hunwanted.decoded hunwanted.address hnode, if_pos hspurious]

/-- Assumes: a proper cache. A report that says nothing of the capability it is about is stored and
told, whatever corrections there are. -/
theorem Unwanted.report_of_not_readable (hunwanted : Unwanted c r device capability v)
    (h : c.cache.Proper) (hreadable : ¬ capability.Readable v) (halive : c.lifecycle ≠ .error)
    (now : Moment) :
    ∃ node, c.devices.find? device = some node ∧
      c.report now r =
        ⟨{ c with devices :=
            { c.devices with nodes := c.devices.nodes.insert device (record node now r v) } },
          [.attributeChanged device r.endpoint r.cluster r.attr v], .ok ()⟩ := by
  obtain ⟨node, -, hnode, -⟩ := hunwanted.entry
  have hkept : isSpurious c.corrections node r.cluster r.attr v = false := by
    rw [hunwanted.cluster, hunwanted.attr]
    exact not_isSpurious_of_not_readable c.corrections node hreadable
  refine ⟨node, hnode, ?_⟩
  rw [report_of_decoded h halive hunwanted.decoded hunwanted.address hnode, hkept,
    if_neg Bool.false_ne_true]

/-- What becomes of a report that says nothing of its capability: it is stored and told like any
other, no other attribute changes, and nothing is read of its capability any more. -/
structure Overwritten (c : Coordinator ρ σ) (s : Step ρ σ Unit) (p : AttributePath)
    (capability : Capability) (v : AttributeValue) : Prop where
  told : s.events = [.attributeChanged p.device p.endpoint p.cluster p.attr v]
  stored : s.after.devices.attribute? p = some v
  elsewhere : ∀ q, q ≠ p → s.after.devices.attribute? q = c.devices.attribute? q
  unread : s.after.read ⟨p.device, p.endpoint⟩ capability = .ok none

/-- Assumes: a proper cache. -/
theorem Unwanted.overwritten (hunwanted : Unwanted c r device capability v) (h : c.cache.Proper)
    (hreadable : ¬ capability.Readable v) (halive : c.lifecycle ≠ .error) (now : Moment) :
    Overwritten c (c.report now r) ⟨device, r.endpoint, r.cluster, r.attr⟩ capability v := by
  obtain ⟨node, hnode, hreport⟩ := hunwanted.report_of_not_readable h hreadable halive now
  have hprofile (d : Eui64) : (c.report now r).after.devices.profile d =
      if d = device then (record node now r v).profile else c.devices.profile d := by
    rw [hreport]
    exact Registry.profile_insert _ _ device _ d
  refine ⟨?_, ?_, ?_, ?_⟩
  · rw [hreport]
  · rw [Registry.attribute?_eq, hprofile, if_pos rfl]
    exact (value?_record ..).trans (if_pos ⟨rfl, rfl, rfl⟩)
  · intro q hq
    rw [Registry.attribute?_eq, Registry.attribute?_eq, hprofile]
    split_ifs with hdevice
    · rw [hdevice, Registry.profile_of_find? hnode]
      refine (value?_record ..).trans (if_neg ?_)
      rintro ⟨hendpoint, hcluster, hattr⟩
      obtain ⟨d, e, k, a⟩ := q
      subst hdevice hendpoint hcluster hattr
      exact hq rfl
    · rfl
  · have hnone : stored (record node now r v) r.endpoint capability = none := by
      rw [stored_eq, value?_record,
        if_pos ⟨rfl, hunwanted.cluster.symm, hunwanted.attr.symm⟩, Option.bind_some]
      exact (capability.ofAttribute_eq_none_iff v).2 hreadable
    simp [hreport, Coordinator.read, Coordinator.node, Registry.find?, hnone, Except.map]

end Coordinator

/-- The bridge has no message for an attribute of whose capability nothing is read. -/
theorem MqttBridge.message?_of_unread {ρ σ : Type} (b : MqttBridge) {c : Coordinator ρ σ}
    {device : Eui64} {endpoint : UInt8} {cluster attr : UInt16} {capability : Capability}
    (hcluster : cluster = capability.cluster) (hattr : attr = capability.attr)
    (hunread : c.read ⟨device, endpoint⟩ capability = .ok none) (v : AttributeValue) :
    b.message? c (.attributeChanged device endpoint cluster attr v) = none := by
  have hcapability := Capability.ofAttributeId?_eq_some_iff.2 ⟨hcluster, hattr⟩
  simp [message?, hcapability, hunread, Except.toOption]

/-! ### Reports to a gateway -/

namespace Gateway

open Coordinator (Past History Unwanted Overwritten)

variable {ρ σ : Type} {g : Gateway ρ σ} {device : Eui64} {r : Report} {v : AttributeValue}
  {capability : Capability}

variable [Radio ρ] [KeyValueStore σ] {others : Registry → Registry → Prop}
  {config : AdapterConfig} {corrections : CorrectionTable} {h : History ρ σ}

/-- Of the reports that a correction says to drop, those that say something of their capability are
dropped without a trace, and so are all once the stack has failed. The others are not: they take the
place of the value that was stored before, and the bridge has nothing to tell of them. -/
theorem dropped_or_overwritten_of_past (hpast : Past others config corrections g.coordinator h)
    (hunwanted : Unwanted g.coordinator r device capability v) :
    (capability.Readable v ∨ g.coordinator.lifecycle = .error →
      ∀ publish, (g.act publish (.call (.report r))).1 = g) ∧
    (¬ capability.Readable v → g.coordinator.lifecycle ≠ .error →
      Overwritten g.coordinator (g.coordinator.report g.now r)
          ⟨device, r.endpoint, r.cluster, r.attr⟩ capability v ∧
        ∀ e ∈ (g.coordinator.report g.now r).events,
          g.broker.message? (g.coordinator.report g.now r).after e = none) := by
  constructor
  · intro hcase publish
    have hquiet : (g.coordinator.report g.now r).after = g.coordinator ∧
        (g.coordinator.report g.now r).events = [] := by
      by_cases hfailed : g.coordinator.lifecycle = .error
      · unfold Coordinator.report
        rw [hunwanted.decoded, Coordinator.requireAlive_of_error hfailed]
        exact ⟨rfl, rfl⟩
      · have hreadable := hcase.resolve_right hfailed
        rw [hunwanted.report_of_readable hpast.proper.1 hreadable hfailed]
        exact ⟨rfl, rfl⟩
    exact settle_of_quiet publish hquiet.1 hquiet.2
  · intro hreadable halive
    have hoverwritten := hunwanted.overwritten hpast.proper.1 hreadable halive g.now
    refine ⟨hoverwritten, ?_⟩
    intro e he
    rw [hoverwritten.told, List.mem_singleton] at he
    rw [he]
    exact g.broker.message?_of_unread hunwanted.cluster hunwanted.attr hoverwritten.unread v

/-- A gateway to which a motion sensor told that its battery is half full, and then what it is. -/
def motionSensor : Gateway SimulatedRadio MemoryStore :=
  let parts : Parts SimulatedRadio MemoryStore :=
    ⟨default, default, default, .builtin, SimulatedRadio.empty, none⟩
  { ofParts parts with
    coordinator := (ofParts parts).coordinator.run
      [(⟨0, 0⟩, .announce ⟨7⟩ 0x1234),
        (⟨1, 0⟩, .report ⟨0x1234, 1, 0x0001, 0x0021, 0x20, [100]⟩),
        (⟨2, 0⟩, .report ⟨0x1234, 1, 0x0000, 0x0004, 0x42, [4, 76, 85, 77, 73]⟩),
        (⟨3, 0⟩, .report ⟨0x1234, 1, 0x0000, 0x0005, 0x42,
          [18, 108, 117, 109, 105, 46, 115, 101, 110, 115, 111, 114, 95, 109, 111, 116, 105, 111,
            110]⟩)] }

/-- What the sensor reports of its battery is to be dropped, whatever it is. -/
theorem unwanted_motionSensor (level : UInt8) :
    Unwanted motionSensor.coordinator ⟨0x1234, 1, 0x0001, 0x0021, 0x20, [level]⟩ ⟨7⟩ .battery
      (.u8 level) where
  decoded := Wire.decode_uint8 level
  address := by
    show motionSensor.coordinator.address? ⟨7⟩ = some 0x1234
    decide
  cluster := rfl
  attr := rfl
  entry := by
    have hnames : (motionSensor.coordinator.devices.find? ⟨7⟩).map
        (fun node ↦ (node.manufacturer, node.model)) = some ("LUMI", "lumi.sensor_motion") := by
      decide
    obtain ⟨node, hnode, hsame⟩ := Option.map_eq_some_iff.1 hnames
    obtain ⟨hmanufacturer, hmodel⟩ := Prod.mk.inj hsame
    refine ⟨node, ⟨"LUMI", "lumi.sensor_motion", .leading, [.ignoreSpurious .battery]⟩, hnode, ?_,
      List.mem_singleton_self _⟩
    rw [hmanufacturer, hmodel]
    decide

/-- A report that the battery is nearly empty is dropped. One that the battery was not measured is
not, and it was half full for all that is known. -/
theorem dropped_or_overwritten_of_past_motionSensor :
    ∃ h : History SimulatedRadio MemoryStore,
      Past Eq default .builtin motionSensor.coordinator h ∧
        motionSensor.coordinator.read ⟨⟨7⟩, 1⟩ .battery = .ok (some (.int 50)) ∧
        (∀ publish, (motionSensor.act publish
          (.call (.report ⟨0x1234, 1, 0x0001, 0x0021, 0x20, [10]⟩))).1 = motionSensor) ∧
        Overwritten motionSensor.coordinator
          (motionSensor.coordinator.report motionSensor.now
            ⟨0x1234, 1, 0x0001, 0x0021, 0x20, [0xFF]⟩)
          ⟨⟨7⟩, 1, 0x0001, 0x0021⟩ .battery (.u8 0xFF) := by
  obtain ⟨h, hpast, -⟩ := Coordinator.past_run Eq default .builtin SimulatedRadio.empty
    (none : Option MemoryStore) _
  have hdropped := dropped_or_overwritten_of_past hpast (unwanted_motionSensor 10)
  have hoverwritten := dropped_or_overwritten_of_past hpast (unwanted_motionSensor 0xFF)
  exact ⟨h, hpast, by decide, hdropped.1 (Or.inl (by decide)),
    (hoverwritten.2 (by decide) (by decide)).1⟩

end Gateway

end MeshBridge
