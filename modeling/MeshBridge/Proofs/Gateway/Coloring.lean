import MeshBridge.Proofs.Correction.Chains
import MeshBridge.Proofs.Gateway.Writing
/-!
Colors that do not drift. A write of one component of a color sends the other one along, as it is
known and corrected for the device; once the device tells the color that it was sent, that is what
is known. All that corrections do to integers is to clamp them, and so does the field that they are
sent in, so the component that was kept is corrected to itself the next time: the same write sends
the same color again (`repaints_of_accepted`). The entry must write the component where it belongs,
and it must not scale the other one.
-/

set_option autoImplicit false
set_option relaxedAutoImplicit false

namespace MeshBridge

/-- The components of a color. -/
inductive ColorComponent where
  | hue | saturation
  deriving DecidableEq

namespace ColorComponent

def other : ColorComponent → ColorComponent
  | hue => saturation
  | saturation => hue

def capability : ColorComponent → Capability
  | hue => .hue
  | saturation => .saturation

theorem kind_capability (component : ColorComponent) : component.capability.kind = .integer := by
  cases component <;> rfl

theorem ofAttribute_u8 (component : ColorComponent) (n : UInt8) :
    component.capability.ofAttribute (.u8 n) = some (.int (Int64.ofInt n.toNat)) := by
  cases component <;> rfl

theorem readable_u8 (component : ColorComponent) (n : UInt8) :
    component.capability.Readable (.u8 n) := by
  rw [← Capability.isSome_ofAttribute_iff, ofAttribute_u8]
  rfl

end ColorComponent

/-- A hue and a saturation that are sent together. -/
structure Color where
  hue : UInt8
  saturation : UInt8
  deriving DecidableEq

namespace Color

def component (color : Color) : ColorComponent → UInt8
  | .hue => color.hue
  | .saturation => color.saturation

theorem ext_components {a b : Color} (component : ColorComponent)
    (hsame : a.component component = b.component component)
    (hother : a.component component.other = b.component component.other) : a = b := by
  obtain ⟨hue, saturation⟩ := a
  cases component <;> cases hsame <;> cases hother <;> rfl

def request (color : Color) (transition : UInt16) : Request :=
  .color (.hueSaturation color.hue color.saturation transition)

/-- Reports by which an endpoint tells a color: both components of it, in any order and any number
of times, and other capabilities in between. -/
structure Told (color : Color) (reports : List (Moment × Report)) (address : NetworkAddress)
    (endpoint : UInt8) : Prop where
  only : ∀ item ∈ reports, ∃ capability v, item.2.Tells address endpoint capability v ∧
    ∀ component : ColorComponent, capability = component.capability →
      v = .u8 (color.component component)
  both : ∀ component : ColorComponent, ∃ item ∈ reports,
    item.2.Tells address endpoint component.capability (.u8 (color.component component))

end Color

/-- A color is told by one report of each component. -/
theorem Color.told_colored (color : Color) (now : Moment) (address : NetworkAddress)
    (endpoint : UInt8) (first : ColorComponent) :
    color.Told ([first, first.other].map fun component ↦
      (now, .byte address endpoint component.capability (color.component component))) address
        endpoint := by
  have htells (component : ColorComponent) :=
    Report.tells_byte address endpoint component.capability (color.component component)
  constructor
  · intro item hitem
    obtain ⟨component, -, rfl⟩ := List.mem_map.1 hitem
    refine ⟨_, _, htells component, ?_⟩
    intro other hother
    cases component <;> cases other <;> first | rfl | cases hother
  · intro component
    refine ⟨_, List.mem_map.2 ⟨component, ?_, rfl⟩, htells component⟩
    cases first <;> cases component <;> simp [ColorComponent.other]

/-- The entry writes a component of a color where it belongs and does not scale the other one. -/
structure Correction.Entry.KeepsColor (e : Correction.Entry) (written : ColorComponent) : Prop where
  stays : ∀ other, .remapAttribute written.capability other ∈ e.actions →
    other = written.capability
  unscaled : ∀ multiplier offset,
    .scaleNumeric written.other.capability multiplier offset ∉ e.actions

namespace Coordinator

variable {ρ σ : Type} {c after : Coordinator ρ σ} {target : Target} {request : Request}
  {written : ColorComponent} {value : CapabilityValue}

/-- What is held of a component is what the actions of the entry make of an integer. -/
theorem exists_known_component (c : Coordinator ρ σ) (target : Target)
    (component : ColorComponent) :
    ∃ n, (c.known? target component.capability).getD (.int 0) = .int n := by
  cases hknown : c.known? target component.capability with
  | none => exact ⟨0, rfl⟩
  | some v =>
    obtain ⟨node, -, hstored⟩ := Option.bind_eq_some_iff.1 hknown
    obtain ⟨a, -, hread⟩ := Option.bind_eq_some_iff.1 hstored
    have hkind := (Capability.kind_ofAttribute hread).trans component.kind_capability
    cases v with
    | int n => exact ⟨n, rfl⟩
    | bool | float => cases hkind

/-- Where the entry for a device keeps the color, nothing scales the component that is kept. -/
theorem unscaled_actionsOn
    (hkeeps : ∀ e, c.correction? target.device = some e → e.KeepsColor written) :
    ∀ a ∈ c.actionsOn target.device written.other.capability, a.scales = false := by
  intro a ha
  rw [actionsOn] at ha
  cases hentry : c.correction? target.device with
  | none =>
    rw [hentry] at ha
    cases ha
  | some e =>
    rw [hentry, Option.elim_some, Correction.Entry.mem_actionsOn] at ha
    obtain ⟨hactions, htarget⟩ := ha
    cases a with
    | scaleNumeric capability multiplier offset =>
      cases htarget
      exact absurd hactions ((hkeeps e hentry).unscaled multiplier offset)
    | _ => rfl

/-- The color that is sent for a value of one of its components. -/
structure Mixes (c : Coordinator ρ σ) (target : Target) (written : ColorComponent)
    (value : CapabilityValue) (color : Color) : Prop where
  asked : (c.revised target.device written.capability value).Saturates 254
    (color.component written).toNat
  /-- The other component is the one that is known, or zero. -/
  kept : (c.revised target.device written.other.capability
    ((c.known? target written.other.capability).getD (.int 0))).Saturates 254
      (color.component written.other).toNat

/-- Assumes: the entry for the device keeps the color. A component is written by sending a color. -/
theorem exists_mixes (hkeeps : ∀ e, c.correction? target.device = some e → e.KeepsColor written)
    (h : c.resolve target (.write written.capability value) = .ok request) :
    ∃ color : Color, request = color.request c.config.defaultTransition ∧
      c.Mixes target written value color := by
  obtain ⟨r, hcorrect, hcarries⟩ := resolve_write_eq_ok_iff.1 h
  obtain ⟨node, hnode, -⟩ := correct_eq_ok_iff.1 hcorrect
  have hvalue : r.value = c.revised target.device written.capability value := by
    rw [value_of_correct hcorrect, revised_eq_elim]
  have htarget : r.target = written.capability := by
    rw [target_of_correct hcorrect]
    cases hentry : c.correction? target.device with
    | none => rfl
    | some e =>
      rcases e.destination_cases written.capability with hsame | hremap
      · exact hsame
      · exact (hkeeps e hentry).stays _ hremap
  rw [htarget, hvalue] at hcarries
  cases written with
  | hue =>
    cases hcarries with
    | @hue _ held hue saturation hasked hheld hkept =>
      cases (heldComponent_eq hnode .saturation).symm.trans hheld
      exact ⟨⟨hue, saturation⟩, rfl, hasked, hkept⟩
  | saturation =>
    cases hcarries with
    | @saturation _ held hue saturation hasked hheld hkept =>
      cases (heldComponent_eq hnode .hue).symm.trans hheld
      exact ⟨⟨hue, saturation⟩, rfl, hasked, hkept⟩

/-- Assumes: the entry for the device keeps the color. Where the other component is known as it was,
or as it was sent, the same value is sent with the same color. -/
theorem Mixes.unique {color color' : Color} (h : c.Mixes target written value color)
    (h' : after.Mixes target written value color')
    (hkeeps : ∀ e, c.correction? target.device = some e → e.KeepsColor written)
    (hentry : after.correction? target.device = c.correction? target.device)
    (hknown : after.known? target written.other.capability =
        c.known? target written.other.capability ∨
      after.known? target written.other.capability =
        some (.int (Int64.ofInt (color.component written.other).toNat))) :
    color' = color := by
  obtain ⟨hasked', hkept'⟩ := h'
  rw [revised_congr hentry] at hasked' hkept'
  refine Color.ext_components written ?_ ?_
  · exact UInt8.toNat_inj.1 (h.asked.unique hasked' (by decide))
  · refine UInt8.toNat_inj.1 ?_
    rcases hknown with hsame | hsent
    · rw [hsame] at hkept'
      exact h.kept.unique hkept' (by decide)
    · obtain ⟨n, hn⟩ := c.exists_known_component target written.other
      have hkept := h.kept
      rw [hn, revised] at hkept
      rw [hsent, Option.getD_some, revised] at hkept'
      exact Correction.saturates_again (unscaled_actionsOn hkeeps) (by decide) hkept hkept'

end Coordinator

namespace Gateway

open Coordinator (Past History arrivals)

variable {ρ σ : Type} [Radio ρ] [KeyValueStore σ] {others : Registry → Registry → Prop}
  {config : AdapterConfig} {corrections : CorrectionTable} {g : Gateway ρ σ} {h : History ρ σ}
  {target : Target} {written : ColorComponent} {value : CapabilityValue} {id : CorrelationId}

/-- A color went to an endpoint in one frame. -/
def Attempt.Paints (a : Attempt ρ σ) (color : Color) : Prop :=
  ∃ address seq, a.before.coordinator.address? a.target.device = some address ∧
    a.own = [.send ⟨address, a.target.endpoint,
      color.request a.before.coordinator.config.defaultTransition⟩ (.ok seq)]

/-- A color is sent again for the same value, once the device was heard to tell it. -/
def Repeats (c : Coordinator ρ σ) (target : Target) (written : ColorComponent)
    (value : CapabilityValue) (color : Color) : Prop :=
  ∀ address, c.Hears target.device address →
    ∀ reports, color.Told reports address target.endpoint →
    ∀ later : Gateway ρ σ, later.coordinator = c.run (arrivals reports) →
    ∀ id, (later.attempt (target, .write written.capability value)).step.result = .ok id →
      (later.attempt (target, .write written.capability value)).Paints color

/-- What comes of writing one component of a color: a color is sent, and it is sent again when the
same is written after the device was heard to tell it. -/
structure Repaints (others : Registry → Registry → Prop) (config : AdapterConfig)
    (corrections : CorrectionTable) (g : Gateway ρ σ) (target : Target) (written : ColorComponent)
    (value : CapabilityValue) (color : Color) : Prop where
  sent : (g.attempt (target, .write written.capability value)).Paints color
  /-- The device may tell it at once. -/
  atOnce : Repeats (g.attempt (target, .write written.capability value)).step.after target written
    value color
  /-- Or at any time at which it is corrected as it was. Where its entry drops what is reported of
  the component that is kept, that one must be known as it was. -/
  again : ∀ (c : Coordinator ρ σ) (h : History ρ σ), Past others config corrections c h →
    c.correction? target.device = g.coordinator.correction? target.device →
    (c.Drops target.device written.other.capability →
      c.known? target written.other.capability =
        g.coordinator.known? target written.other.capability) →
    Repeats c target written value color

/-- Assumes: a settled table of pending commands, and an entry that keeps the color. -/
theorem paints_of_accepted (hsettled : g.coordinator.pending.Settled)
    (hkeeps : ∀ e, g.coordinator.correction? target.device = some e → e.KeepsColor written)
    (haccepted : (g.attempt (target, .write written.capability value)).step.result = .ok id) :
    ∃ color, (g.attempt (target, .write written.capability value)).Paints color ∧
      g.coordinator.Mixes target written value color := by
  set a := g.attempt (target, .write written.capability value) with ha
  obtain ⟨⟨id, ⟨address, endpoint, request⟩, seq⟩, hs⟩ :=
    Attempt.delivers_of_ok (a := a) hsettled haccepted
  obtain ⟨color, hrequest, hmixes⟩ := Coordinator.exists_mixes hkeeps hs.request
  cases hrequest
  cases hs.endpoint
  exact ⟨color, ⟨address, seq, hs.address, hs.own⟩, hmixes⟩

/-- Assumes: an entry that keeps the color, and a color that was sent. Where the device is corrected
as it was then, what it tells of the component that is kept is known from then on, or its entry
drops that and it is known as it was; so the color is sent again. -/
theorem repeats_of_mixes {color : Color}
    (hmixes : g.coordinator.Mixes target written value color)
    (hkeeps : ∀ e, g.coordinator.correction? target.device = some e → e.KeepsColor written)
    {c : Coordinator ρ σ} {past : History ρ σ} (hc : Past others config corrections c past)
    (hentry : c.correction? target.device = g.coordinator.correction? target.device)
    (hknown : c.Drops target.device written.other.capability →
      c.known? target written.other.capability =
        g.coordinator.known? target written.other.capability) :
    Repeats c target written value color := by
  intro address hhears reports htold later hlater id haccepted
  have hheard := hhears.run hc.proper.1 written.other.capability
    (.u8 (color.component written.other)) fun item hitem ↦ by
      obtain ⟨capability, v, htells, hcolor⟩ := htold.only item hitem
      exact ⟨capability, v, htells, hcolor written.other⟩
  obtain ⟨last, hlast⟩ := hc.run (arrivals reports)
  rw [← hlater] at hheard hlast
  have hsame := hheard.entry.trans hentry
  obtain ⟨color', hpaints, hmixes'⟩ :=
    paints_of_accepted hlast.settled (by rwa [hsame]) haccepted
  have hnow : later.coordinator.known? target written.other.capability =
        g.coordinator.known? target written.other.capability ∨
      later.coordinator.known? target written.other.capability =
        some (.int (Int64.ofInt (color.component written.other).toNat)) := by
    rw [← ColorComponent.ofAttribute_u8]
    by_cases hdrops : c.Drops target.device written.other.capability
    · exact Or.inl ((hheard.dropped ⟨written.other.readable_u8 _, hdrops⟩).trans (hknown hdrops))
    · exact Or.inr (hheard.told (fun hdropped ↦ hdrops hdropped.2)
        (Or.inr (htold.both written.other)))
  cases hmixes.unique hmixes' hkeeps hsame hnow
  exact hpaints

/-- Whatever is known of the color, whatever is written of it, and however many clamps there are for
the components: the write sends a color that it sends again once the device told it. -/
theorem repaints_of_accepted (hpast : Past others config corrections g.coordinator h)
    (hkeeps : ∀ e, g.coordinator.correction? target.device = some e → e.KeepsColor written)
    (haccepted : (g.attempt (target, .write written.capability value)).step.result = .ok id) :
    ∃ color, Repaints others config corrections g target written value color := by
  obtain ⟨color, hpaints, hmixes⟩ := paints_of_accepted hpast.settled hkeeps haccepted
  set a := g.attempt (target, .write written.capability value) with ha
  obtain ⟨hdevices, hcorrections⟩ := a.devices_after
  obtain ⟨past, hafter⟩ := a.exists_past hpast
  refine ⟨color, hpaints, repeats_of_mixes hmixes hkeeps hafter ?_ fun _ ↦ ?_, ?_⟩
  · rw [Coordinator.correction?, hdevices, hcorrections]
    rfl
  · rw [Coordinator.known?, hdevices]
    rfl
  · exact fun c _ hc hentry hknown ↦ repeats_of_mixes hmixes hkeeps hc hentry hknown

/-- Clamps the saturation to two ranges that lie apart. -/
def apart : Correction.Entry :=
  ⟨"A", "B", .exact, [.clampRange .saturation 10 20, .clampRange .hue 5 50,
    .clampRange .saturation 100 200]⟩

theorem keepsColor_apart : apart.KeepsColor .hue where
  stays := by simp [apart]
  unscaled := by simp [apart]

/-- A gateway in reach of a light with that entry, which never told its color. -/
def colorLight : Gateway SimulatedRadio MemoryStore := introduced ⟨[apart]⟩ [65] [66]

/-- The light is asked for a hue that is too great. -/
def colored : Attempt SimulatedRadio MemoryStore :=
  colorLight.attempt (⟨⟨7⟩, 1⟩, .write .hue (.int 300))

/-- The reports by which it tells the color that it was sent. -/
def echo : List (Moment × Report) :=
  [(⟨9, 0⟩, .byte 0x1234 1 .saturation 100), (⟨9, 0⟩, .byte 0x1234 1 .hue 50)]

/-- It is asked for the same hue once it told its color. -/
def recolored : Attempt SimulatedRadio MemoryStore :=
  { colored.after with coordinator := colored.after.coordinator.run (arrivals echo) }.attempt
    (⟨⟨7⟩, 1⟩, .write .hue (.int 300))

/-- Both times the hue is cut, and the least saturation goes along. -/
theorem repaints_of_accepted_colorLight :
    colored.step.result = .ok ⟨1⟩ ∧ colored.Paints ⟨50, 100⟩ ∧
      recolored.step.result = .ok ⟨2⟩ ∧ recolored.Paints ⟨50, 100⟩ := by
  have haccepted : colored.step.result = .ok ⟨1⟩ := by decide
  have hagain : recolored.step.result = .ok ⟨2⟩ := by decide
  obtain ⟨h, hpast, -⟩ := Coordinator.past_run (fun _ _ ↦ True) default ⟨[apart]⟩
    SimulatedRadio.empty (none : Option MemoryStore) _
  have hkeeps : ∀ e, colorLight.coordinator.correction? ⟨7⟩ = some e → e.KeepsColor .hue := by
    intro e he
    have hentry : colorLight.coordinator.correction? ⟨7⟩ = some apart := by decide
    cases hentry.symm.trans he
    exact keepsColor_apart
  obtain ⟨color, hrepaints⟩ : ∃ color,
      Repaints (fun _ _ ↦ True) default ⟨[apart]⟩ colorLight ⟨⟨7⟩, 1⟩ .hue (.int 300) color :=
    repaints_of_accepted hpast hkeeps haccepted
  obtain rfl : color = ⟨50, 100⟩ := by
    obtain ⟨address, seq, -, hown⟩ := hrepaints.sent
    have hframes : colored.own.map Exchange.frame? =
        [some ⟨0x1234, 1, Color.request ⟨50, 100⟩ 0⟩] := by decide
    obtain ⟨hue, saturation⟩ := color
    cases hframes.symm.trans (congrArg (List.map Exchange.frame?) hown)
    rfl
  obtain ⟨past, hafter⟩ := past_act (g := colorLight) ⟨h, hpast⟩
    (.carryOut ⟨⟨7⟩, 1⟩ (.write .hue (.int 300)))
  rw [perform_carryOut] at hafter
  have hentry : colored.after.coordinator.correction? ⟨7⟩ =
      colorLight.coordinator.correction? ⟨7⟩ := by decide
  have hkept : colored.after.coordinator.known? ⟨⟨7⟩, 1⟩ .saturation =
      colorLight.coordinator.known? ⟨⟨7⟩, 1⟩ .saturation := by decide
  have hhears : colored.after.coordinator.Hears ⟨7⟩ 0x1234 := ⟨by decide, by decide, by decide⟩
  have htold : Color.Told ⟨50, 100⟩ echo 0x1234 1 := Color.told_colored _ _ _ _ .saturation
  have hpaints := hrepaints.again _ past hafter hentry (fun _ ↦ hkept) 0x1234 hhears echo htold
    recolored.before (by dsimp only [recolored, attempt, colored]) ⟨2⟩ hagain
  exact ⟨haccepted, hrepaints.sent, hagain, hpaints⟩

end Gateway

end MeshBridge
