import MeshBridge.Proofs.Gateway.Spurious
/-!
Values that a coordinator hears. A report of a capability from a device that is known and in reach
becomes what is known of that capability, or the entry for the device drops it. Whichever it is, the
other capabilities are known as before, and the device is heard and corrected as before
(`Hears.report`). So reports may come in any order and any number: if all that are of one capability
tell the same of it, that is what is known in the end (`Hears.run`).
-/

set_option autoImplicit false
set_option relaxedAutoImplicit false

namespace MeshBridge

/-- A report tells a value of a capability of an endpoint. -/
structure Report.Tells (r : Report) (address : NetworkAddress) (endpoint : UInt8)
    (capability : Capability) (v : AttributeValue) : Prop where
  address : r.address = address
  endpoint : r.endpoint = endpoint
  cluster : r.cluster = capability.cluster
  attr : r.attr = capability.attr
  decoded : Wire.decode r.typeId r.raw = .ok v

/-- A report of a capability in one byte. -/
def Report.byte (address : NetworkAddress) (endpoint : UInt8) (capability : Capability)
    (n : UInt8) : Report :=
  ⟨address, endpoint, capability.cluster, capability.attr, Wire.Format.uint8.code, [n]⟩

theorem Report.tells_byte (address : NetworkAddress) (endpoint : UInt8) (capability : Capability)
    (n : UInt8) : (byte address endpoint capability n).Tells address endpoint capability (.u8 n) :=
  ⟨rfl, rfl, rfl, rfl, Wire.decode_uint8 n⟩

theorem Capability.cluster_ne_basic (c : Capability) : c.cluster ≠ ClusterId.basic := by
  cases c <;> decide

namespace Coordinator

variable {ρ σ : Type} {c after : Coordinator ρ σ} {target : Target} {node : Node}
  {address : NetworkAddress} {capability other : Capability} {r : Report} {v : AttributeValue}

/-- The entry for a device, as it is known. -/
def correction? (c : Coordinator ρ σ) (device : Eui64) : Option Correction.Entry :=
  (c.devices.find? device).bind fun node ↦ c.corrections.find? node.manufacturer node.model

theorem correction?_of_find? (hnode : c.devices.find? target.device = some node) :
    c.correction? target.device = c.corrections.find? node.manufacturer node.model := by
  rw [correction?, hnode, Option.bind_some]

/-- What a device told of a capability last, before any correction. -/
def known? (c : Coordinator ρ σ) (target : Target) (capability : Capability) :
    Option CapabilityValue :=
  (c.devices.find? target.device).bind fun node ↦ stored node target.endpoint capability

theorem known?_of_find? (hnode : c.devices.find? target.device = some node) :
    c.known? target capability = stored node target.endpoint capability := by
  rw [known?, hnode, Option.bind_some]

/-- The actions on a capability of a device, in order. -/
def actionsOn (c : Coordinator ρ σ) (device : Eui64) (capability : Capability) :
    List Correction.Action :=
  (c.correction? device).elim [] (·.actionsOn capability)

/-- What a value of a capability of a device becomes. -/
def revised (c : Coordinator ρ σ) (device : Eui64) (capability : Capability)
    (value : CapabilityValue) : CapabilityValue :=
  (c.actionsOn device capability).foldl (Correction.Action.revise capability) value

theorem revised_eq_elim (c : Coordinator ρ σ) (device : Eui64) (capability : Capability)
    (value : CapabilityValue) :
    c.revised device capability value = (c.correction? device).elim value
      fun e ↦ (e.actionsOn capability).foldl (Correction.Action.revise capability) value := by
  rw [revised, actionsOn]
  cases c.correction? device <;> rfl

/-- Where the entry for a device is the same, it makes the same of all values. -/
theorem revised_congr {device : Eui64} (hentry : after.correction? device = c.correction? device)
    (capability : Capability) : after.revised device capability = c.revised device capability := by
  funext value
  rw [revised_eq_elim, hentry, revised_eq_elim]

/-- What is read is what becomes of what is known. -/
theorem read_eq (hnode : c.devices.find? target.device = some node) (capability : Capability) :
    c.read target capability =
      .ok ((c.known? target capability).map (c.revised target.device capability)) := by
  have hrevised (value : CapabilityValue) :
      (c.corrections.correctReport node.manufacturer node.model capability value).value =
        c.revised target.device capability value := by
    rw [revised_eq_elim, correction?_of_find? hnode]
    exact c.corrections.value_eq_elim .inbound node.manufacturer node.model capability value
  rw [known?_of_find? hnode]
  simp only [Coordinator.read, Coordinator.node, hnode, Except.map, hrevised]

/-- What is held of a color is what becomes of what is known, or of zero. -/
theorem heldComponent_eq (hnode : c.devices.find? target.device = some node)
    (capability : Capability) :
    c.heldComponent target capability =
      .ok (c.revised target.device capability ((c.known? target capability).getD (.int 0))) := by
  have hrevised (value : CapabilityValue) :
      (c.corrections.correctCommand node.manufacturer node.model capability value).value =
        c.revised target.device capability value := by
    rw [revised_eq_elim, correction?_of_find? hnode]
    exact c.corrections.value_eq_elim .outbound node.manufacturer node.model capability value
  rw [known?_of_find? hnode]
  simp only [heldComponent, Coordinator.node, hnode, Except.map, hrevised]

/-- The entry for a device drops what is reported of a capability. -/
def Drops (c : Coordinator ρ σ) (device : Eui64) (capability : Capability) : Prop :=
  ∃ e, c.correction? device = some e ∧ .ignoreSpurious capability ∈ e.actions

/-- A moment at which a device is heard: it is known and in reach, and the stack has not failed. -/
structure Hears (c : Coordinator ρ σ) (device : Eui64) (address : NetworkAddress) : Prop where
  alive : c.lifecycle ≠ .error
  known : (c.devices.find? device).isSome
  reached : c.address? device = some address

/-! ### One report -/

/-- The one capability that an attribute backs decides whether a report of it is dropped. -/
theorem isSpurious_backing_iff (hnode : c.devices.find? target.device = some node) :
    isSpurious c.corrections node capability.cluster capability.attr v = true ↔
      capability.Readable v ∧ c.Drops target.device capability := by
  rw [isSpurious_iff, Drops, correction?_of_find? hnode]
  constructor
  · rintro ⟨other, e, hcluster, hattr, hreadable, hentry, hdrops⟩
    cases Capability.eq_of_attr hcluster hattr
    exact ⟨hreadable, e, hentry, hdrops⟩
  · rintro ⟨hreadable, e, hentry, hdrops⟩
    exact ⟨capability, e, rfl, rfl, hreadable, hentry, hdrops⟩

/-- What a node told of itself is not changed by what it tells of its capabilities. -/
theorem names_record (hcluster : r.cluster ≠ ClusterId.basic) (node : Node) (now : Moment)
    (v : AttributeValue) :
    (record node now r v).manufacturer = node.manufacturer ∧
      (record node now r v).model = node.model := by
  have hprofile := profile_record node now r v
  have hnone (name : UInt16) : Profile.named? name r.cluster r.attr v = none := by
    rw [Profile.named?, if_neg fun h ↦ hcluster h.1]
  constructor
  · have hmanufacturer := congrArg Profile.manufacturer hprofile
    rwa [Profile.learn, hnone, hnone] at hmanufacturer
  · have hmodel := congrArg Profile.model hprofile
    rwa [Profile.learn, hnone, hnone] at hmodel

/-- What is known of the capabilities of an endpoint once a value of one of them was stored. -/
theorem stored_record (htells : r.Tells address target.endpoint capability v) (node : Node)
    (now : Moment) (other : Capability) :
    stored (record node now r v) target.endpoint other =
      if other = capability then capability.ofAttribute v
      else stored node target.endpoint other := by
  rw [stored_eq, value?_record, htells.endpoint, htells.cluster, htells.attr]
  split_ifs with hpath hother hother
  · rw [hother, Option.bind_some]
  · exact absurd (Capability.eq_of_attr hpath.2.1 hpath.2.2) hother
  · exact absurd ⟨rfl, by rw [hother], by rw [hother]⟩ hpath
  · rw [stored_eq]

/-- What reports of the capabilities of an endpoint leave as it was, and what they make known of one
of them if all that are of it tell the same. -/
structure Hearkens (c after : Coordinator ρ σ) (target : Target) (address : NetworkAddress)
    (capability : Capability) (v : AttributeValue) (heard : Prop) : Prop where
  hears : after.Hears target.device address
  cache : after.cache = c.cache
  config : after.config = c.config
  entry : after.correction? target.device = c.correction? target.device
  dropped : capability.Readable v ∧ c.Drops target.device capability →
    after.known? target capability = c.known? target capability
  told : ¬ (capability.Readable v ∧ c.Drops target.device capability) →
    c.known? target capability = capability.ofAttribute v ∨ heard →
      after.known? target capability = capability.ofAttribute v

namespace Hearkens

variable {middle : Coordinator ρ σ} {heard later : Prop}

theorem refl (hhears : c.Hears target.device address) :
    Hearkens c c target address capability v False :=
  ⟨hhears, rfl, rfl, rfl, fun _ ↦ rfl, fun _ hknown ↦ hknown.resolve_right id⟩

theorem trans (hfirst : Hearkens c middle target address capability v heard)
    (hsecond : Hearkens middle after target address capability v later) :
    Hearkens c after target address capability v (heard ∨ later) := by
  have hdrops : middle.Drops target.device capability ↔ c.Drops target.device capability := by
    rw [Drops, hfirst.entry, Drops]
  obtain ⟨hears, hcache, hconfig, hentry, hdropped, htold⟩ := hsecond
  rw [hdrops] at hdropped htold
  refine ⟨hears, hcache.trans hfirst.cache, hconfig.trans hfirst.config,
    hentry.trans hfirst.entry, ?_, ?_⟩
  · intro hdrop
    exact (hdropped hdrop).trans (hfirst.dropped hdrop)
  · rintro hkeep (hknown | hheard | hlater)
    · exact htold hkeep (Or.inl (hfirst.told hkeep (Or.inl hknown)))
    · exact htold hkeep (Or.inl (hfirst.told hkeep (Or.inr hheard)))
    · exact htold hkeep (Or.inr hlater)

theorem mono (h : Hearkens c after target address capability v heard) (hless : later → heard) :
    Hearkens c after target address capability v later :=
  { h with told := fun hkeep hcase ↦ h.told hkeep (hcase.imp_right hless) }

end Hearkens

/-- Assumes: a proper cache. A report that is heard becomes what is known of its capability, unless
the entry for the device drops it. -/
theorem Hears.report (hhears : c.Hears target.device address) (h : c.cache.Proper)
    (capability : Capability) {v w : AttributeValue}
    (htells : r.Tells address target.endpoint other w) (hsame : other = capability → w = v)
    (now : Moment) :
    (c.report now r).result = .ok () ∧
      Hearkens c (c.report now r).after target address capability v (other = capability) := by
  obtain ⟨node, hnode⟩ := Option.isSome_iff_exists.1 hhears.known
  have hreport := report_of_decoded h hhears.alive htells.decoded
    (hhears.reached.trans (congrArg some htells.address.symm)) hnode now
  rw [htells.cluster, htells.attr] at hreport
  by_cases hspurious : isSpurious c.corrections node other.cluster other.attr w = true
  · rw [if_pos hspurious] at hreport
    rw [hreport]
    refine ⟨rfl, hhears, rfl, rfl, rfl, fun _ ↦ rfl, ?_⟩
    rintro hkeep (hknown | hheard)
    · exact hknown
    · subst hheard
      rw [hsame rfl] at hspurious
      exact absurd ((isSpurious_backing_iff hnode).1 hspurious) hkeep
  · rw [if_neg hspurious] at hreport
    refine ⟨by rw [hreport], ?_⟩
    set after := (c.report now r).after with hafter
    have hfind : after.devices.find? target.device = some (record node now r w) := by
      rw [hafter, hreport, Registry.find?, Table.get?_insert, if_pos rfl]
    have hbasic : r.cluster ≠ ClusterId.basic := by
      rw [htells.cluster]
      exact other.cluster_ne_basic
    obtain ⟨hmanufacturer, hmodel⟩ := names_record hbasic node now w
    have hcorrections : after.corrections = c.corrections := by rw [hafter, hreport]
    have hknown : after.known? target capability =
        if capability = other then other.ofAttribute w else c.known? target capability := by
      rw [known?_of_find? hfind, stored_record htells, known?_of_find? hnode]
    exact {
      hears := ⟨by rw [hafter, hreport]; exact hhears.alive, by rw [hfind]; rfl,
        by rw [hafter, hreport]; exact hhears.reached⟩
      cache := by rw [hafter, hreport]
      config := by rw [hafter, hreport]
      entry := by
        rw [correction?_of_find? hfind, correction?_of_find? hnode, hmanufacturer, hmodel,
          hcorrections]
      dropped := by
        intro hdrop
        rw [hknown, if_neg]
        rintro rfl
        rw [hsame rfl] at hspurious
        exact hspurious ((isSpurious_backing_iff hnode).2 hdrop)
      told := by
        intro _ hcase
        rw [hknown]
        split_ifs with hheard
        · rw [hheard, hsame hheard.symm]
        · exact hcase.resolve_right fun hother ↦ hheard hother.symm }

/-- Assumes: a proper cache. What a report tells is read, as it is corrected for the device, unless
the entry drops it. -/
theorem Hears.read_report (hhears : c.Hears target.device address) (h : c.cache.Proper)
    (htells : r.Tells address target.endpoint capability v)
    (hkept : ¬ c.Drops target.device capability) (now : Moment) :
    (c.report now r).result = .ok () ∧
      (c.report now r).after.read target capability =
        .ok ((capability.ofAttribute v).map (c.revised target.device capability)) := by
  obtain ⟨hresult, hheard⟩ := hhears.report h capability htells (fun _ ↦ rfl) now
  obtain ⟨node, hnode⟩ := Option.isSome_iff_exists.1 hheard.hears.known
  have hknown := hheard.told (fun hdropped ↦ hkept hdropped.2) (Or.inr rfl)
  rw [read_eq hnode, hknown, revised_congr hheard.entry]
  exact ⟨hresult, rfl⟩

/-! ### Reports in a row -/

/-- The calls by which reports arrive. -/
def arrivals (reports : List (Moment × Report)) : List (Moment × Call) :=
  reports.map fun item ↦ (item.1, .report item.2)

/-- Assumes: a proper cache. By induction on the reports. Each is of a capability of the endpoint,
and those that are of the one capability tell the same of it. -/
theorem Hears.run [Radio ρ] [KeyValueStore σ] {reports : List (Moment × Report)}
    (hhears : c.Hears target.device address) (h : c.cache.Proper) (capability : Capability)
    (v : AttributeValue)
    (hreports : ∀ item ∈ reports, ∃ other w, item.2.Tells address target.endpoint other w ∧
      (other = capability → w = v)) :
    Hearkens c (c.run (arrivals reports)) target address capability v
      (∃ item ∈ reports, item.2.Tells address target.endpoint capability v) := by
  induction reports generalizing c with
  | nil => exact (Hearkens.refl hhears).mono (by simp)
  | cons item rest ih =>
    obtain ⟨⟨other, w, htells, hsame⟩, hrest⟩ := List.forall_mem_cons.1 hreports
    obtain ⟨-, hfirst⟩ := hhears.report h capability htells hsame item.1
    have hlater := ih (c := (c.report item.1 item.2).after) hfirst.hears
      (by rwa [hfirst.cache]) hrest
    refine (hfirst.trans hlater).mono ?_
    rintro ⟨found, hfound, hfoundTells⟩
    rcases List.mem_cons.1 hfound with rfl | hmem
    · exact Or.inl (Capability.eq_of_attr (htells.cluster.symm.trans hfoundTells.cluster)
        (htells.attr.symm.trans hfoundTells.attr))
    · exact Or.inr ⟨found, hmem, hfoundTells⟩

end Coordinator

end MeshBridge
