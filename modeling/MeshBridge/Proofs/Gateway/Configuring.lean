import MeshBridge.Proofs.Correction.Overrides
import MeshBridge.Proofs.Gateway.Writing
/-!
Telling devices how to report. For a known device there is an answer at any time: the interval of
the last override in the entry for it, or else the default. Whether its bounds are in order is
checked only when it is about to be sent, as registration let it pass whatever they are. So if they
are not, the device cannot be told to report the capability at all, and nothing is sent; if they
are, the command goes out as any other does (`configures_of_past`).
-/

set_option autoImplicit false
set_option relaxedAutoImplicit false

namespace MeshBridge

/-- The interval may be sent just if its bounds are in order. -/
theorem Request.check_configureReporting (cluster attr : UInt16) (r : Reporting) :
    (Request.configureReporting cluster attr r).check =
      if r.Ordered then .ok ()
      else .error (.invalidArgument ("reporting interval " ++ toString r.minInterval ++ "s > " ++
        toString r.maxInterval ++ "s")) := by
  rw [Request.check, ← ite_not]
  exact if_congr UInt16.not_lt rfl rfl

namespace Coordinator

variable {ρ σ : Type} {c : Coordinator ρ σ} {target : Target} {capability : Capability}
  {node : Node} {r : Reporting}

theorem resolve_configure (h : c.reportingFor target.device capability = .ok r) :
    c.resolve target (.configure capability) =
      .ok (.configureReporting capability.cluster capability.attr r) := by
  rw [resolve, h]
  rfl

/-- A device that is known is to report as its entry says, or else by default. -/
theorem reportingFor_of_find? (hnode : c.devices.find? target.device = some node) :
    c.reportingFor target.device capability = .ok
      (((c.correction? target.device).bind (·.reporting? capability)).getD
        capability.defaultReporting) := by
  rw [reportingFor, Coordinator.node, hnode, correction?_of_find? hnode]
  rfl

/-- The last override in the entry for a device counts. -/
theorem eq_of_override {e : Correction.Entry} {before later : List Correction.Action}
    {other : Reporting} (h : c.reportingFor target.device capability = .ok r)
    (hnode : c.devices.find? target.device = some node)
    (hentry : c.correction? target.device = some e)
    (hactions : e.actions = before ++ .overrideReporting capability other :: later)
    (hlast : ∀ last, .overrideReporting capability last ∉ later) : r = other := by
  have hoverride := Correction.Entry.reporting?_eq_some_iff.2 ⟨before, later, hactions, hlast⟩
  rw [reportingFor_of_find? hnode, hentry, Option.bind_some, hoverride, Option.getD_some] at h
  exact (Except.ok.inj h).symm

/-- Without an override a device is to report by default. -/
theorem eq_default (h : c.reportingFor target.device capability = .ok r)
    (hnode : c.devices.find? target.device = some node)
    (hnone : ∀ e, c.correction? target.device = some e →
      ∀ other, .overrideReporting capability other ∉ e.actions) :
    r = capability.defaultReporting := by
  have hdefault : (c.correction? target.device).bind (·.reporting? capability) = none :=
    Option.bind_eq_none_iff.2 fun e hentry ↦
      Correction.Entry.reporting?_eq_none_iff.2 (hnone e hentry)
  rw [reportingFor_of_find? hnode, hdefault, Option.getD_none] at h
  exact (Except.ok.inj h).symm

/-- The defaults have their bounds in order, so only an override can have them reversed. -/
theorem ordered_of_orderly (h : c.reportingFor target.device capability = .ok r)
    (hnode : c.devices.find? target.device = some node) (horderly : c.corrections.Orderly) :
    r.Ordered := by
  rw [reportingFor_of_find? hnode, correction?_of_find? hnode] at h
  cases hoverride : (c.corrections.find? node.manufacturer node.model).bind
      (·.reporting? capability) with
  | none =>
    rw [hoverride, Option.getD_none] at h
    rw [← Except.ok.inj h]
    exact capability.ordered_defaultReporting
  | some other =>
    rw [hoverride, Option.getD_some] at h
    rw [← Except.ok.inj h]
    exact horderly.ordered hoverride

theorem target_ne_invalidArgument (c : Coordinator ρ σ) (device : Eui64) (detail : String) :
    c.target device ≠ .error (.invalidArgument detail) := by
  unfold Coordinator.target requireReady
  split_ifs <;> cases c.address? device <;> simp [unknownDevice]

variable [Radio ρ] [KeyValueStore σ]

/-- Assumes: a settled table. Only the check of a request calls it invalid. -/
theorem send_ne_invalidArgument (h : c.pending.Settled) (now : Moment) (device : Eui64)
    (endpoint : UInt8) {request : Request} (hcheck : request.check = .ok ()) (detail : String) :
    (c.send now device endpoint request).result ≠ .error (.invalidArgument detail) := by
  intro hrefused
  have hend := sendEnd h now device endpoint request
  generalize (Turn.mk c now (.send device endpoint request)).exchanges = exchanges at hend
  generalize c.send now device endpoint request = s at hend hrefused
  cases hend with
  | unfit hunfit => cases hcheck.symm.trans hunfit
  | untargeted _ htarget =>
    cases hrefused
    exact c.target_ne_invalidArgument device detail htarget
  | full _ _ halloc =>
    cases hrefused
    unfold PendingTable.alloc at halloc
    split at halloc <;> cases halloc
  | rejected | accepted => cases hrefused

end Coordinator

namespace Gateway

open Coordinator (Past History)

variable {ρ σ : Type} [Radio ρ] [KeyValueStore σ] {others : Registry → Registry → Prop}
  {config : AdapterConfig} {corrections : CorrectionTable} {g : Gateway ρ σ} {h : History ρ σ}
  {target : Target} {intent : Intent} {node : Node}

omit [KeyValueStore σ] in
theorem step_of_resolved {request : Request}
    (hrequest : g.coordinator.resolve target intent = .ok request) :
    (g.attempt (target, intent)).step =
      g.coordinator.send g.now target.device target.endpoint request := by
  show g.coordinator.carryOut g.now target intent = _
  rw [Coordinator.carryOut, hrequest]

/-- A request that must not be sent changes nothing and asks nothing of the radio. -/
theorem carryOut_of_unfit {request : Request} {f : Fault}
    (hrequest : g.coordinator.resolve target intent = .ok request)
    (hcheck : request.check = .error f) :
    g.perform (.carryOut target intent) = (g, .error (.fault f)) ∧
      g.exchanges (.carryOut target intent) = [] := by
  have hstep : (g.attempt (target, intent)).step = g.coordinator.refuse f := by
    rw [step_of_resolved hrequest, Coordinator.send, hcheck]
  have hafter : (g.attempt (target, intent)).after = g :=
    settle_of_quiet publish (by rw [hstep]; rfl) (by rw [hstep]; rfl)
  have hown : (g.attempt (target, intent)).own = [] := by
    show ((g.coordinator.watched []).carryOut g.now target intent).after.radio.exchanges = []
    rw [Coordinator.carryOut, Coordinator.resolve_watched, hrequest]
    show ((g.coordinator.watched []).send g.now target.device target.endpoint
      request).after.radio.exchanges = []
    rw [Coordinator.send, hcheck]
    rfl
  constructor
  · rw [perform_carryOut, hafter, hstep]
    rfl
  · rw [exchanges_carryOut, hown, Attempt.meanwhile_of_quiet (by rw [hstep]; rfl)]
    rfl

omit [Radio ρ] [KeyValueStore σ] in
theorem plain_eq_fault_iff {α : Type} {reply : α → Reply} {result : Except Fault α} {f : Fault} :
    plain reply result = .error (.fault f) ↔ result = .error f := by
  cases result <;> simp [plain]

/-- What comes of telling a device how to report a capability, if `r` is how it is to do so. -/
structure Configures (g : Gateway ρ σ) (target : Target) (capability : Capability)
    (r : Reporting) : Prop where
  answered : g.coordinator.reportingFor target.device capability = .ok r
  /-- The last override in the entry for the device counts. -/
  overridden : ∀ e before later other, g.coordinator.correction? target.device = some e →
    e.actions = before ++ .overrideReporting capability other :: later →
    (∀ last, .overrideReporting capability last ∉ later) → r = other
  /-- Without one it is the default. -/
  usual : (∀ e, g.coordinator.correction? target.device = some e →
    ∀ other, .overrideReporting capability other ∉ e.actions) → r = capability.defaultReporting
  /-- The bounds are in order if they are so wherever the table sets some. -/
  ordered : g.coordinator.corrections.Orderly → r.Ordered
  /-- So they are if all that was registered has its bounds in order, whether or not the table holds
  the known devices. -/
  registered : ∀ registrations, g.coordinator.corrections.MadeBy registrations →
    (∀ registration ∈ registrations, ∀ e, .ok e ∈ registration.offers → e.Orderly) → r.Ordered
  /-- If they are not, nothing is changed and nothing sent. -/
  refused : ¬ r.Ordered →
    g.perform (.carryOut target (.configure capability)) =
      (g, .error (.fault (.invalidArgument ("reporting interval " ++ toString r.minInterval ++
        "s > " ++ toString r.maxInterval ++ "s")))) ∧
      g.exchanges (.carryOut target (.configure capability)) = []
  /-- There is no other argument that is not valid. -/
  refused_iff : (∃ detail, (g.perform (.carryOut target (.configure capability))).2 =
    .error (.fault (.invalidArgument detail))) ↔ ¬ r.Ordered
  /-- Besides that the command succeeds if it can be sent now. -/
  accepted_iff :
    (∃ id, (g.perform (.carryOut target (.configure capability))).2 = .ok (.issued id)) ↔
      r.Ordered ∧ g.coordinator.lifecycle = .ready ∧ ∃ address,
        g.coordinator.address? target.device = some address ∧
          g.coordinator.pending.inUse < g.coordinator.config.maxPending ∧ ∃ seq,
            (Radio.send ⟨address, target.endpoint,
              .configureReporting capability.cluster capability.attr r⟩
                g.coordinator.radio).2 = .ok seq

/-- Whatever the coordinator of a gateway went through, whatever the corrections and for any known
device. -/
theorem configures_of_past (hpast : Past others config corrections g.coordinator h)
    (hnode : g.coordinator.devices.find? target.device = some node) (capability : Capability) :
    ∃ r, Configures g target capability r := by
  obtain ⟨r, hanswer⟩ : ∃ r, g.coordinator.reportingFor target.device capability = .ok r :=
    ⟨_, Coordinator.reportingFor_of_find? hnode⟩
  have hrequest := Coordinator.resolve_configure hanswer
  have hcheck := Request.check_configureReporting capability.cluster capability.attr r
  have hfit (hordered : r.Ordered) := hcheck.trans (if_pos hordered)
  have hrefused (hreversed : ¬ r.Ordered) :=
    carryOut_of_unfit hrequest (hcheck.trans (if_neg hreversed))
  have hordered := Coordinator.ordered_of_orderly hanswer hnode
  refine ⟨r, hanswer, ?_, ?_, hordered, ?_, hrefused, ?_, ?_⟩
  · intro e before later other hentry hactions hlast
    exact Coordinator.eq_of_override hanswer hnode hentry hactions hlast
  · exact Coordinator.eq_default hanswer hnode
  · intro registrations hmade hoffers
    exact hordered (CorrectionTable.orderly_of_madeBy hmade hoffers)
  · constructor
    · rintro ⟨detail, hinvalid⟩ hordered
      rw [perform_carryOut, plain_eq_fault_iff, step_of_resolved hrequest] at hinvalid
      exact Coordinator.send_ne_invalidArgument hpast.settled g.now target.device target.endpoint
        (hfit hordered) detail hinvalid
    · intro hreversed
      exact ⟨_, by rw [(hrefused hreversed).1]⟩
  · by_cases hordered : r.Ordered
    · have hroom : g.coordinator.pending.capacity = g.coordinator.config.maxPending := by
        rw [hpast.dimensions.1, hpast.config_eq.1]
      rw [exists_issued_iff_of_resolved hpast.settled hrequest (hfit hordered), hroom,
        and_iff_right hordered]
    · refine iff_of_false ?_ fun hready ↦ hordered hready.1
      rintro ⟨id, hissued⟩
      rw [(hrefused hordered).1] at hissued
      cases hissued

/-- Has temperatures reported no more often than every ten minutes and no less often than every five
seconds. -/
def reversed : Correction.Entry :=
  ⟨"A", "B", .exact, [.overrideReporting .temperature ⟨600, 5, 1⟩]⟩

/-- The entry is registered, and a device that it is for cannot be told to report. -/
theorem configures_of_past_reversed :
    CorrectionTable.empty.register reversed = .ok ⟨[reversed]⟩ ∧
      Configures (introduced ⟨[reversed]⟩ [65] [66]) ⟨⟨7⟩, 1⟩ .temperature ⟨600, 5, 1⟩ ∧
      ¬ (⟨600, 5, 1⟩ : Reporting).Ordered := by
  obtain ⟨h, hpast⟩ := past_introduced ⟨[reversed]⟩ [65] [66]
  obtain ⟨node, hnode⟩ : ∃ node,
      (introduced ⟨[reversed]⟩ [65] [66]).coordinator.devices.find? ⟨7⟩ = some node :=
    Option.isSome_iff_exists.1 (by decide)
  obtain ⟨r, hr⟩ : ∃ r, Configures (introduced ⟨[reversed]⟩ [65] [66]) ⟨⟨7⟩, 1⟩ .temperature r :=
    configures_of_past hpast hnode .temperature
  have hanswer : (introduced ⟨[reversed]⟩ [65] [66]).coordinator.reportingFor ⟨7⟩ .temperature =
      .ok ⟨600, 5, 1⟩ := by
    decide
  cases hanswer.symm.trans hr.answered
  exact ⟨by decide, hr, by decide⟩

end Gateway

end MeshBridge
