import MeshBridge.Proofs.Capability.Writing
import MeshBridge.Proofs.Coordinator.Failures
import MeshBridge.Proofs.Gateway.Switching
/-!
Writing values through a gateway. A value for a known device is corrected first, and the entry for
the device may have it written to another capability than the one that was asked for. What comes of
it is either one frame, for the endpoint at the address of the device, that carries the corrected
value, or nothing at all; and where the capability that is written to does not take the value, it is
nothing (`writes_of_past`).
-/

set_option autoImplicit false
set_option relaxedAutoImplicit false

namespace MeshBridge

open Correction (Corrected)

namespace Coordinator

variable {ρ σ : Type} {c : Coordinator ρ σ} {device : Eui64} {target : Target}
  {capability : Capability} {value : CapabilityValue} {r : Corrected}

theorem correct_eq_ok_iff :
    c.correct device capability value = .ok r ↔ ∃ node, c.devices.find? device = some node ∧
      r = c.corrections.correctCommand node.manufacturer node.model capability value := by
  unfold Coordinator.correct Coordinator.node
  cases c.devices.find? device <;> simp [Except.map, eq_comm]

theorem eq_correct_of_correct {e : Correction.Entry} (hentry : c.correction? device = some e)
    (h : c.correct device capability value = .ok r) :
    r = e.correct .outbound capability value := by
  obtain ⟨node, hnode, rfl⟩ := correct_eq_ok_iff.1 h
  rw [correction?, hnode, Option.bind_some] at hentry
  rw [CorrectionTable.correctCommand, CorrectionTable.correct, hentry]

/-- The entry for a device says where values are written to. -/
theorem target_of_correct (h : c.correct device capability value = .ok r) :
    r.target = (c.correction? device).elim capability (·.destination capability) := by
  obtain ⟨node, hnode, rfl⟩ := correct_eq_ok_iff.1 h
  rw [correction?, hnode, Option.bind_some]
  exact c.corrections.target_eq_elim .outbound node.manufacturer node.model capability value

/-- The entry for a device says what values become. -/
theorem value_of_correct (h : c.correct device capability value = .ok r) :
    r.value = (c.correction? device).elim value
      fun e ↦ (e.actionsOn capability).foldl (Correction.Action.revise capability) value := by
  obtain ⟨node, hnode, rfl⟩ := correct_eq_ok_iff.1 h
  rw [correction?, hnode, Option.bind_some]
  exact c.corrections.value_eq_elim .outbound node.manufacturer node.model capability value

theorem resolve_write (h : c.correct target.device capability value = .ok r) :
    c.resolve target (.write capability value) = c.requestFor target r.target r.value := by
  rw [resolve, h]
  rfl

/-- A value is written by what carries it once it is corrected. -/
theorem resolve_write_eq_ok_iff {request : Request} :
    c.resolve target (.write capability value) = .ok request ↔
      ∃ r, c.correct target.device capability value = .ok r ∧
        c.Carries target r.target r.value request := by
  cases hcorrect : c.correct target.device capability value with
  | error f => simp [resolve, hcorrect, bind, Except.bind]
  | ok r => simp [resolve_write hcorrect, requestFor_eq_ok_iff]

/-- What carries a value may be sent. -/
theorem Carries.check {request : Request} (h : c.Carries target capability value request) :
    request.check = .ok () := by
  cases h <;> rfl

end Coordinator

namespace Gateway

open Coordinator (Past History)

variable {ρ σ : Type} [Radio ρ] [KeyValueStore σ] {others : Registry → Registry → Prop}
  {config : AdapterConfig} {corrections : CorrectionTable} {g : Gateway ρ σ} {h : History ρ σ}
  {target : Target} {intent : Intent} {capability : Capability} {value : CapabilityValue}
  {r : Corrected}

/-- Where nothing is told, no handler asks for anything. -/
theorem Attempt.meanwhile_of_quiet {a : Attempt ρ σ} (h : a.step.events = []) :
    a.meanwhile = [] := by
  rw [meanwhile, h]
  rfl

theorem perform_carryOut (g : Gateway ρ σ) (target : Target) (intent : Intent) :
    g.perform (.carryOut target intent) =
      ((g.attempt (target, intent)).after,
        plain .issued (g.attempt (target, intent)).step.result) := rfl

omit [Radio ρ] [KeyValueStore σ] in
theorem plain_eq_ok_iff {α : Type} {reply : α → Reply} {result : Except Fault α} {given : Reply} :
    plain reply result = .ok given ↔ ∃ a, result = .ok a ∧ reply a = given := by
  cases result <;> simp [plain]

/-- A command succeeds just if its request is sent. -/
theorem exists_issued_carryOut_iff :
    (∃ id, (g.perform (.carryOut target intent)).2 = .ok (.issued id)) ↔
      ∃ id, (g.attempt (target, intent)).step.result = .ok id := by
  simp [perform_carryOut, plain_eq_ok_iff]

/-- Assumes: a settled table of pending commands. -/
theorem exists_issued_iff_of_resolved (hsettled : g.coordinator.pending.Settled) {request : Request}
    (hrequest : g.coordinator.resolve target intent = .ok request)
    (hcheck : request.check = .ok ()) :
    (∃ id, (g.perform (.carryOut target intent)).2 = .ok (.issued id)) ↔
      g.coordinator.lifecycle = .ready ∧ ∃ address,
        g.coordinator.address? target.device = some address ∧
          g.coordinator.pending.inUse < g.coordinator.pending.capacity ∧ ∃ seq,
            (Radio.send ⟨address, target.endpoint, request⟩ g.coordinator.radio).2 = .ok seq := by
  have hstep : (g.attempt (target, intent)).step =
      g.coordinator.send g.now target.device target.endpoint request := by
    show g.coordinator.carryOut g.now target intent = _
    rw [Coordinator.carryOut, hrequest]
  rw [exists_issued_carryOut_iff, hstep]
  exact Coordinator.exists_issued_iff hsettled g.now target.device target.endpoint hcheck

/-- A command that cannot be resolved changes nothing and asks nothing of the radio. -/
theorem carryOut_of_unresolved {f : Fault}
    (h : g.coordinator.resolve target intent = .error f) :
    g.perform (.carryOut target intent) = (g, .error (.fault f)) ∧
      g.exchanges (.carryOut target intent) = [] := by
  obtain ⟨hstep, hown⟩ := Attempt.own_of_unresolved (a := g.attempt (target, intent)) h
  constructor
  · rw [perform_carryOut, Attempt.after_of_unresolved h, hstep]
    rfl
  · rw [exchanges_carryOut, hown, Attempt.meanwhile_of_quiet (by rw [hstep]; rfl)]
    rfl

/-- Assumes: a settled table of pending commands. A command that succeeds asks the radio for one
frame, which is accepted. After that handlers may ask for more, if a command is given up because the
frame got its number. -/
theorem exchanges_of_issued (hsettled : g.coordinator.pending.Settled) {request : Request}
    (hrequest : g.coordinator.resolve target intent = .ok request) {id : CorrelationId}
    (hissued : (g.perform (.carryOut target intent)).2 = .ok (.issued id)) :
    ∃ address seq, g.coordinator.address? target.device = some address ∧
      g.exchanges (.carryOut target intent) =
        .send ⟨address, target.endpoint, request⟩ (.ok seq) ::
          (g.attempt (target, intent)).meanwhile ∧
      ((g.coordinator.pending.release seq).2 = none →
        (g.attempt (target, intent)).meanwhile = []) := by
  obtain ⟨sent, hresult⟩ := exists_issued_carryOut_iff.1 ⟨id, hissued⟩
  set a := g.attempt (target, intent) with ha
  have hend : Coordinator.SendEnd g.coordinator g.now target.device target.endpoint request a.step
    a.own := Attempt.sendEnd_of_resolved (a := a) hsettled hrequest
  have hquiet : a.step.events = [] → a.meanwhile = [] := Attempt.meanwhile_of_quiet
  rw [exchanges_carryOut, ← ha]
  generalize a.step = step at hend hresult hquiet
  generalize a.own = own at hend
  cases hend with
  | unfit | untargeted | full | rejected => cases hresult
  | @accepted address _ _ _ seq _ htarget =>
    refine ⟨address, seq, (Coordinator.target_eq_ok_iff.1 htarget).2, rfl, ?_⟩
    intro hfree
    exact hquiet (by rw [hfree]; rfl)

/-- What comes of writing a value for a device, if `r` is what it is corrected to. -/
structure Writes (g : Gateway ρ σ) (target : Target) (capability : Capability)
    (value : CapabilityValue) (r : Corrected) : Prop where
  /-- The last action by which the entry for the device remaps the capability says what is written
  to. -/
  destination : r.target = (g.coordinator.correction? target.device).elim capability
    (·.destination capability)
  /-- What is written is what the actions of the entry on the capability make of the value. -/
  revised : r.value = (g.coordinator.correction? target.device).elim value
    fun e ↦ (e.actionsOn capability).foldl (Correction.Action.revise capability) value
  /-- If the write succeeds, the radio accepted one frame for it. Besides, handlers may have asked
  for something, but only if a command was given up because the frame got its number. -/
  accepted : ∀ id,
    (g.perform (.carryOut target (.write capability value))).2 = .ok (.issued id) →
      ∃ request, g.coordinator.Carries target r.target r.value request ∧
        ∃ address seq, g.coordinator.address? target.device = some address ∧
          g.exchanges (.carryOut target (.write capability value)) =
            .send ⟨address, target.endpoint, request⟩ (.ok seq) ::
              (g.attempt (target, .write capability value)).meanwhile ∧
          ((g.coordinator.pending.release seq).2 = none →
            (g.attempt (target, .write capability value)).meanwhile = [])
  /-- What cannot be written, or not with this value, is refused. -/
  refused : ¬ r.target.Takes r.value →
    (∃ detail, g.perform (.carryOut target (.write capability value)) =
      (g, .error (.fault (.invalidArgument detail)))) ∧
      g.exchanges (.carryOut target (.write capability value)) = []
  /-- Everything else succeeds if the frame can be sent now. -/
  accepted_iff :
    (∃ id, (g.perform (.carryOut target (.write capability value))).2 = .ok (.issued id)) ↔
      r.target.Takes r.value ∧ g.coordinator.lifecycle = .ready ∧ ∃ address,
        g.coordinator.address? target.device = some address ∧
          g.coordinator.pending.inUse < g.coordinator.config.maxPending ∧
            ∃ request, g.coordinator.Carries target r.target r.value request ∧ ∃ seq,
              (Radio.send ⟨address, target.endpoint, request⟩ g.coordinator.radio).2 = .ok seq

/-- Whatever the coordinator of a gateway went through, whatever the value and whatever the
corrections: what is written is what `Writes` says. -/
theorem writes_of_past (hpast : Past others config corrections g.coordinator h)
    (hcorrect : g.coordinator.correct target.device capability value = .ok r) :
    Writes g target capability value r := by
  have hresolve := Coordinator.resolve_write hcorrect
  have hdestination := Coordinator.target_of_correct hcorrect
  have hrevised := Coordinator.value_of_correct hcorrect
  obtain ⟨node, hnode, -⟩ := Coordinator.correct_eq_ok_iff.1 hcorrect
  rcases Coordinator.requestFor_cases hnode r.target r.value with
    ⟨htakes, request, hrequest⟩ | ⟨hno, detail, hrefused⟩
  · have hresolved := hresolve.trans hrequest
    have hcarries := Coordinator.requestFor_eq_ok_iff.1 hrequest
    refine ⟨hdestination, hrevised, ?_, fun hno ↦ absurd htakes hno, ?_⟩
    · intro id hissued
      exact ⟨request, hcarries, exchanges_of_issued hpast.settled hresolved hissued⟩
    · have hroom : g.coordinator.pending.capacity = g.coordinator.config.maxPending := by
        rw [hpast.dimensions.1, hpast.config_eq.1]
      rw [exists_issued_iff_of_resolved hpast.settled hresolved hcarries.check, hroom]
      constructor
      · rintro ⟨hready, address, haddress, hfree, hanswer⟩
        exact ⟨htakes, hready, address, haddress, hfree, request, hcarries, hanswer⟩
      · rintro ⟨-, hready, address, haddress, hfree, other, hother, hanswer⟩
        cases hrequest.symm.trans (Coordinator.requestFor_eq_ok_iff.2 hother)
        exact ⟨hready, address, haddress, hfree, hanswer⟩
  · obtain ⟨hperform, hexchanges⟩ := carryOut_of_unresolved (hresolve.trans hrefused)
    have hnever (id : CorrelationId)
        (hissued : (g.perform (.carryOut target (.write capability value))).2 = .ok (.issued id)) :
        False := by
      rw [hperform] at hissued
      cases hissued
    exact {
      destination := hdestination
      revised := hrevised
      accepted := fun id hissued ↦ (hnever id hissued).elim
      refused := fun _ ↦ ⟨⟨detail, hperform⟩, hexchanges⟩
      accepted_iff :=
        ⟨fun ⟨id, hissued⟩ ↦ (hnever id hissued).elim, fun ⟨htakes, _⟩ ↦ absurd htakes hno⟩ }

/-- A gateway in reach of one device, which told its manufacturer and its model. -/
def introduced (corrections : CorrectionTable) (manufacturer model : List UInt8) :
    Gateway SimulatedRadio MemoryStore :=
  let parts : Parts SimulatedRadio MemoryStore :=
    ⟨default, default, default, corrections, SimulatedRadio.empty, none⟩
  let told (attr : UInt16) (text : List UInt8) : Coordinator.Call :=
    .report ⟨0x1234, 1, ClusterId.basic, attr, Wire.Format.charString.code,
      text.length.toUInt8 :: text⟩
  { ofParts parts with
    coordinator := (ofParts parts).coordinator.run
      [(⟨0, 0⟩, .init), (⟨0, 0⟩, .start), (⟨1, 0⟩, .formed 0 0x1A62 15),
        (⟨2, 0⟩, .announce ⟨7⟩ 0x1234), (⟨3, 0⟩, told AttributeId.manufacturerName manufacturer),
        (⟨4, 0⟩, told AttributeId.modelIdentifier model)] }

theorem past_introduced (corrections : CorrectionTable) (manufacturer model : List UInt8) :
    ∃ h, Past Eq default corrections (introduced corrections manufacturer model).coordinator h := by
  obtain ⟨h, hpast, -⟩ := Coordinator.past_run Eq default corrections SimulatedRadio.empty
    (none : Option MemoryStore) _
  exact ⟨h, hpast⟩

/-- Has hues written as color temperatures. -/
def recast : Correction.Entry :=
  ⟨"A", "B", .exact, [.remapAttribute .hue .brightness, .remapAttribute .hue .colorTemp]⟩

/-- An infinite hue is the greatest color temperature. -/
theorem writes_of_past_recast :
    ∃ r, r.target = .colorTemp ∧
      Writes (introduced ⟨[recast]⟩ [65] [66]) ⟨⟨7⟩, 1⟩ .hue
        (.float (Float.ofBits 0x7FF0000000000000)) r ∧
      (introduced ⟨[recast]⟩ [65] [66]).coordinator.resolve ⟨⟨7⟩, 1⟩
        (.write .hue (.float (Float.ofBits 0x7FF0000000000000))) =
          .ok (.color (.temperature 65535 0)) := by
  obtain ⟨h, hpast⟩ := past_introduced ⟨[recast]⟩ [65] [66]
  have hcorrect : (introduced ⟨[recast]⟩ [65] [66]).coordinator.correct ⟨7⟩ .hue
      (.float (Float.ofBits 0x7FF0000000000000)) =
        .ok ⟨true, 2, .float (Float.ofBits 0x7FF0000000000000), .colorTemp, none, false⟩ := by
    decide
  refine ⟨_, ?_, writes_of_past hpast hcorrect, by decide⟩
  rfl

end Gateway

end MeshBridge
