import MeshBridge.Proofs.Correction.Inversion
import MeshBridge.Proofs.Gateway.Heard
import MeshBridge.Proofs.Gateway.Series
/-!
On and off, as commanded and as read back. What is sent for an on/off value and what is read from
the report of the device go through the corrections separately, each in its own direction. Both turn
the value around alike, so whatever entry there is for the device, a device that reports what it was
told is read as what it was asked to be (`switches_of_accepted`). The entry must only leave on and
off where they are (`Correction.Entry.KeepsSwitch`): a value written to another capability sends
another frame or none, and a report that is dropped is never read.
-/

set_option autoImplicit false
set_option relaxedAutoImplicit false

namespace MeshBridge

/-- The entry writes no on/off value to another capability and drops no report of one. -/
structure Correction.Entry.KeepsSwitch (e : Correction.Entry) : Prop where
  stays : ∀ other, .remapAttribute .onOff other ∈ e.actions → other = .onOff
  heard : .ignoreSpurious .onOff ∉ e.actions

/-- An endpoint tells that it is on or off. -/
def Report.switched (address : NetworkAddress) (endpoint : UInt8) (on : Bool) : Report :=
  ⟨address, endpoint, ClusterId.onOff, AttributeId.main, Wire.Format.boolean.code,
    [if on then 1 else 0]⟩

theorem Report.tells_switched (address : NetworkAddress) (endpoint : UInt8) (on : Bool) :
    (switched address endpoint on).Tells address endpoint .onOff (.bool on) := by
  refine ⟨rfl, rfl, rfl, rfl, ?_⟩
  show Wire.decode Wire.Format.boolean.code [if on then 1 else 0] = .ok (.bool on)
  cases on <;> decide

namespace Coordinator

variable {ρ σ : Type} {c : Coordinator ρ σ} {target : Target} {node : Node} {b on : Bool}

/-- Whether on and off are turned around for a device. -/
def inverts (c : Coordinator ρ σ) (device : Eui64) : Bool :=
  (c.correction? device).any (·.inverts .onOff)

theorem inverts_of_find? (hnode : c.devices.find? target.device = some node) :
    c.inverts target.device = c.corrections.inverts node.manufacturer node.model .onOff := by
  rw [inverts, correction?_of_find? hnode, CorrectionTable.inverts]

/-- What cannot be resolved for a device that is not known. -/
theorem resolve_write_of_unknown (hnode : c.devices.find? target.device = none)
    (capability : Capability) (value : CapabilityValue) :
    c.resolve target (.write capability value) = .error (unknownDevice target.device) := by
  simp only [resolve, correct, Coordinator.node, hnode, Except.map]
  rfl

/-- The request for an on/off value that stays one. -/
theorem resolve_write_onOff (hnode : c.devices.find? target.device = some node)
    (hkeeps : ∀ e, c.correction? target.device = some e → e.KeepsSwitch) (b : Bool) :
    c.resolve target (.write .onOff (.bool b)) =
      .ok (.onOff (if b ^^ c.inverts target.device then .on else .off)) := by
  set corrected := c.corrections.correctCommand node.manufacturer node.model .onOff (.bool b)
    with hcorrected
  have hcorrect : c.correct target.device .onOff (.bool b) = .ok corrected := by
    rw [correct, Coordinator.node, hnode]
    rfl
  have htarget : corrected.target = .onOff := by
    refine CorrectionTable.target_correct ?_ .outbound (.bool b)
    intro e he
    exact (hkeeps e ((correction?_of_find? hnode).trans he)).stays
  have hvalue : corrected.value = .bool (b ^^ c.inverts target.device) := by
    rw [inverts_of_find? hnode]
    exact c.corrections.value_correct_bool .outbound node.manufacturer node.model .onOff b
  calc c.resolve target (.write .onOff (.bool b))
      = c.requestFor target corrected.target corrected.value := by rw [resolve, hcorrect]; rfl
    _ = _ := by rw [htarget, hvalue]; rfl

/-- A truth value of on and off is turned around or not. -/
theorem revised_onOff (c : Coordinator ρ σ) (device : Eui64) (on : Bool) :
    c.revised device .onOff (.bool on) = .bool (on ^^ c.inverts device) := by
  rw [revised, Correction.foldl_revise_bool, actionsOn, inverts]
  cases c.correction? device <;> rfl

/-- Lights and switches give what is read. -/
theorem measure_state_of_read (h : c.read target .onOff = .ok (some (.bool b))) :
    c.measure target .state = .ok (some (.flag b)) := by
  rw [measure, Reading.capability, h]
  rfl

/-- After a step, on and off of an endpoint are read as `b` in every way there is to read them. -/
structure Reads (s : Step ρ σ Unit) (target : Target) (b : Bool) : Prop where
  result : s.result = .ok ()
  read : s.after.read target .onOff = .ok (some (.bool b))
  state : s.after.measure target .state = .ok (some (.flag b))

/-- Assumes: a proper cache. An endpoint that is heard to tell that it is on or off is read so, but
for the inversion of its entry. -/
theorem Hears.reads {address : NetworkAddress} (hhears : c.Hears target.device address)
    (h : c.cache.Proper) (hkeeps : ∀ e, c.correction? target.device = some e → e.KeepsSwitch)
    (now : Moment) (on : Bool) :
    Reads (c.report now (.switched address target.endpoint on)) target
      (on ^^ c.inverts target.device) := by
  have hkept : ¬ c.Drops target.device .onOff :=
    fun ⟨e, hentry, hdrops⟩ ↦ (hkeeps e hentry).heard hdrops
  obtain ⟨hresult, hread⟩ :=
    hhears.read_report h (Report.tells_switched address target.endpoint on) hkept now
  have htold : Capability.onOff.ofAttribute (.bool on) = some (.bool on) := rfl
  rw [htold, Option.map_some, revised_onOff] at hread
  exact ⟨hresult, hread, measure_state_of_read hread⟩

end Coordinator

namespace Gateway

open Coordinator (Past History Hears Reads)

variable {ρ σ : Type} [Radio ρ] [KeyValueStore σ] {others : Registry → Registry → Prop}
  {config : AdapterConfig} {corrections : CorrectionTable} {g : Gateway ρ σ} {h : History ρ σ}
  {target : Target} {b : Bool} {id : CorrelationId}

/-- What comes of asking an endpoint to be on or off: one frame goes to it, and from then on,
whenever the device is heard to tell what that frame said and is corrected as it was, the endpoint
is read as what it was asked to be. -/
structure Switches (others : Registry → Registry → Prop) (config : AdapterConfig)
    (corrections : CorrectionTable) (a : Attempt ρ σ) (b on : Bool) : Prop where
  sent : ∃ address seq, a.before.coordinator.address? a.target.device = some address ∧
    a.own = [.send ⟨address, a.target.endpoint, .onOff (if on then .on else .off)⟩ (.ok seq)]
  /-- The frame says the opposite just if the entry for the device inverts on and off. -/
  polarity : on = (b ^^ a.before.coordinator.inverts a.target.device)
  reads : ∀ (c : Coordinator ρ σ) (h : History ρ σ), Past others config corrections c h →
    c.correction? a.target.device = a.before.coordinator.correction? a.target.device →
      ∀ address, c.Hears a.target.device address →
        ∀ now, Reads (c.report now (.switched address a.target.endpoint on)) a.target b

/-- Whatever the corrections, in whatever order and however often they invert: an endpoint that was
asked to be on or off and tells what it was told is read as what it was asked to be. -/
theorem switches_of_accepted (hpast : Past others config corrections g.coordinator h)
    (hkeeps : ∀ e, g.coordinator.correction? target.device = some e → e.KeepsSwitch)
    (haccepted : (g.attempt (target, .write .onOff (.bool b))).step.result = .ok id) :
    ∃ on,
      Switches others config corrections (g.attempt (target, .write .onOff (.bool b))) b on := by
  set a := g.attempt (target, .write .onOff (.bool b)) with ha
  obtain ⟨s, hs⟩ := Attempt.delivers_of_ok (a := a) hpast.settled haccepted
  have hrequest : g.coordinator.resolve target (.write .onOff (.bool b)) = .ok s.frame.request :=
    hs.request
  obtain ⟨node, hnode⟩ : ∃ node, g.coordinator.devices.find? target.device = some node := by
    cases hfind : g.coordinator.devices.find? target.device with
    | some node => exact ⟨node, rfl⟩
    | none =>
      rw [Coordinator.resolve_write_of_unknown hfind] at hrequest
      cases hrequest
  rw [Coordinator.resolve_write_onOff hnode hkeeps b] at hrequest
  refine ⟨b ^^ g.coordinator.inverts target.device, ?_, rfl, ?_⟩
  · obtain ⟨id, ⟨address, endpoint, request⟩, seq⟩ := s
    cases hrequest
    cases hs.endpoint
    exact ⟨address, seq, hs.address, hs.own⟩
  · intro c later hlater hentry address hhears now
    have hreads := hhears.reads hlater.proper.1 (by rw [hentry]; exact hkeeps) now
      (b ^^ g.coordinator.inverts target.device)
    have hsame : c.inverts a.target.device = g.coordinator.inverts target.device :=
      congrArg (·.any (·.inverts .onOff)) hentry
    rwa [hsame, Bool.xor_assoc, Bool.xor_self, Bool.xor_false] at hreads

/-- Turns on and off around once, among actions that leave them alone. -/
def contrary : Correction.Entry :=
  ⟨"A", "B", .exact, [.clampRange .onOff 0 1, .invertBoolean .onOff true,
    .remapAttribute .onOff .onOff, .invertBoolean .onOff false]⟩

/-- A gateway in reach of a relay that takes and tells on and off the wrong way round. -/
def contraryRelay : Gateway SimulatedRadio MemoryStore :=
  let parts : Parts SimulatedRadio MemoryStore :=
    ⟨default, default, default, ⟨[contrary]⟩, SimulatedRadio.empty, none⟩
  { ofParts parts with
    coordinator := (ofParts parts).coordinator.run
      [(⟨0, 0⟩, .init), (⟨0, 0⟩, .start), (⟨1, 0⟩, .formed 0 0x1A62 15),
        (⟨2, 0⟩, .announce ⟨7⟩ 0x1234),
        (⟨3, 0⟩, .report ⟨0x1234, 1, 0x0000, 0x0004, 0x42, [1, 65]⟩),
        (⟨4, 0⟩, .report ⟨0x1234, 1, 0x0000, 0x0005, 0x42, [1, 66]⟩)] }

theorem correction?_contraryRelay :
    contraryRelay.coordinator.correction? ⟨7⟩ = some contrary := by decide

theorem keepsSwitch_contrary : contrary.KeepsSwitch where
  stays := by simp [contrary]
  heard := by simp [contrary]

/-- Asked to be on, the relay is sent an off. Once it tells that it is off, it is read as on. -/
theorem switches_of_accepted_contraryRelay :
    (contraryRelay.attempt (⟨⟨7⟩, 1⟩, .write .onOff (.bool true))).step.result = .ok ⟨1⟩ ∧
      ∃ on, on = false ∧
        Switches Eq default ⟨[contrary]⟩
          (contraryRelay.attempt (⟨⟨7⟩, 1⟩, .write .onOff (.bool true))) true on ∧
        Reads (contraryRelay.coordinator.report ⟨9, 0⟩ (.switched 0x1234 1 on)) ⟨⟨7⟩, 1⟩ true := by
  have haccepted :
      (contraryRelay.attempt (⟨⟨7⟩, 1⟩, .write .onOff (.bool true))).step.result = .ok ⟨1⟩ := by
    decide
  obtain ⟨h, hpast, -⟩ := Coordinator.past_run Eq default ⟨[contrary]⟩ SimulatedRadio.empty
    (none : Option MemoryStore) _
  have hkeeps : ∀ e, contraryRelay.coordinator.correction? ⟨7⟩ = some e → e.KeepsSwitch := by
    intro e he
    cases correction?_contraryRelay.symm.trans he
    exact keepsSwitch_contrary
  obtain ⟨on, hswitches⟩ := switches_of_accepted (g := contraryRelay) hpast hkeeps haccepted
  refine ⟨haccepted, on, hswitches.polarity.trans (by decide), hswitches, ?_⟩
  exact hswitches.reads _ _ hpast rfl 0x1234 ⟨by decide, by decide, by decide⟩ ⟨9, 0⟩

end Gateway

end MeshBridge
