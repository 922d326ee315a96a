import MeshBridge.Coordinator.Run
import MeshBridge.Proofs.Coordinator.Frames
import Mathlib.Tactic.SplitIfs
/-!
Watching a radio at work changes nothing. A coordinator over a recorded radio does what the one over
the radio itself does, and the record grows by what the call asks of the radio (`perform_watched`).
All that a call asks of the radio is asked in the one state of the lifecycle that is for it
(`Turn.stage_of_mem_exchanges`).
-/

set_option autoImplicit false
set_option relaxedAutoImplicit false

namespace MeshBridge

/-- The state of the lifecycle in which a coordinator asks for this. -/
def Exchange.stage : Exchange → Lifecycle
  | start _ => .initializing
  | permitJoin .. | send .. => .ready

namespace Coordinator

variable {ρ σ α : Type}

/-- A coordinator whose radio is watched, after some exchanges with it. -/
def watched (c : Coordinator ρ σ) (past : List Exchange) : Coordinator (RecordedRadio ρ) σ :=
  c.withRadio ⟨c.radio, past⟩

/-- A step of a coordinator whose radio is watched. -/
def watchedStep (s : Step ρ σ α) (exchanges : List Exchange) : Step (RecordedRadio ρ) σ α :=
  ⟨s.after.watched exchanges, s.events, s.result⟩

/-! ### Calls that leave the radio alone -/

theorem init_watched (c : Coordinator ρ σ) (past : List Exchange) :
    (c.watched past).init = watchedStep c.init past := by
  unfold init watched withRadio
  dsimp only
  split_ifs <;> rfl

theorem formed_watched [KeyValueStore σ] (c : Coordinator ρ σ) (past : List Exchange)
    (status panId : UInt16) (channel : UInt8) :
    (c.watched past).formed status panId channel =
      watchedStep (c.formed status panId channel) past := by
  have hlifecycle : (c.watched past).lifecycle = c.lifecycle := rfl
  unfold formed
  rw [hlifecycle]
  split_ifs
  · cases c.lifecycle.move? .ready <;> rfl
  · cases c.lifecycle.move? .error <;> rfl

theorem fatal_watched (c : Coordinator ρ σ) (past : List Exchange) (reason : String) :
    (c.watched past).fatal reason = watchedStep (c.fatal reason) past := by
  have hlifecycle : (c.watched past).lifecycle = c.lifecycle := rfl
  unfold fatal
  rw [hlifecycle]
  cases c.lifecycle.move? .error <;> rfl

theorem announce_watched (c : Coordinator ρ σ) (past : List Exchange) (now : Moment)
    (device : Eui64) (address : NetworkAddress) :
    (c.watched past).announce now device address =
      watchedStep (c.announce now device address) past := by
  have halive : (c.watched past).requireAlive = c.requireAlive := rfl
  have hcache : (c.watched past).cache = c.cache := rfl
  unfold announce
  rw [halive, hcache]
  cases c.requireAlive with
  | error f => rfl
  | ok =>
    dsimp only
    rcases c.cache.put device address with ⟨cache, f | displaced⟩ <;> rfl

theorem leave_watched (c : Coordinator ρ σ) (past : List Exchange) (device : Eui64) :
    (c.watched past).leave device = watchedStep (c.leave device) past := by
  have halive : (c.watched past).requireAlive = c.requireAlive := rfl
  have hcache : (c.watched past).cache = c.cache := rfl
  have hdevices : (c.watched past).devices = c.devices := rfl
  unfold leave
  rw [halive, hcache, hdevices]
  cases c.requireAlive with
  | error f => rfl
  | ok =>
    dsimp only
    cases c.cache.remove device <;> cases c.devices.setOnline device false <;> rfl

theorem remove_watched (c : Coordinator ρ σ) (past : List Exchange) (device : Eui64) :
    (c.watched past).remove device = watchedStep (c.remove device) past := by
  have halive : (c.watched past).requireAlive = c.requireAlive := rfl
  have hcache : (c.watched past).cache = c.cache := rfl
  have hdevices : (c.watched past).devices = c.devices := rfl
  unfold remove
  rw [halive, hcache, hdevices]
  cases c.requireAlive with
  | error f => rfl
  | ok =>
    dsimp only
    cases c.cache.remove device <;> cases c.devices.delete device <;> rfl

theorem report_watched (c : Coordinator ρ σ) (past : List Exchange) (now : Moment) (r : Report) :
    (c.watched past).report now r = watchedStep (c.report now r) past := by
  have halive : (c.watched past).requireAlive = c.requireAlive := rfl
  have hreporter : (c.watched past).reporter r.address = c.reporter r.address := rfl
  have hdevices : (c.watched past).devices = c.devices := rfl
  have hcorrections : (c.watched past).corrections = c.corrections := rfl
  unfold report
  rw [halive, hreporter, hdevices, hcorrections]
  cases Wire.decode r.typeId r.raw with
  | error f => rfl
  | ok value =>
    dsimp only
    cases c.requireAlive with
    | error f => rfl
    | ok =>
      dsimp only
      rcases c.reporter r.address with ⟨cache, f | device⟩
      · rfl
      · dsimp only
        cases c.devices.find? device with
        | none => rfl
        | some node =>
          dsimp only
          split_ifs <;> rfl

theorem status_watched (c : Coordinator ρ σ) (past : List Exchange) (seq : SequenceNumber)
    (status : UInt16) :
    (c.watched past).status seq status = watchedStep (c.status seq status) past := by
  have hpending : (c.watched past).pending = c.pending := rfl
  unfold Coordinator.status
  rw [hpending]
  cases c.pending.find? seq with
  | none => rfl
  | some slot =>
    dsimp only
    rcases c.pending.free slot with ⟨pending, _ | command⟩ <;> rfl

/-! ### Calls that may ask something of the radio -/

variable [Radio ρ]

theorem start_watched (c : Coordinator ρ σ) :
    ∃ asked : List Exchange,
      (∀ exchange ∈ asked, exchange.frame? = none ∧ exchange.stage = c.lifecycle) ∧
      ∀ past, (c.watched past).start = watchedStep c.start (past ++ asked) := by
  cases hlifecycle : c.lifecycle with
  | initializing =>
    refine ⟨[.start (Radio.start c.radio).2], by simp [Exchange.frame?, Exchange.stage], ?_⟩
    intro past
    have hsame : (c.watched past).lifecycle = c.lifecycle := rfl
    have hanswer : Radio.start (c.watched past).radio =
        (⟨(Radio.start c.radio).1, past ++ [.start (Radio.start c.radio).2]⟩,
          (Radio.start c.radio).2) := rfl
    unfold start
    rw [hsame, hlifecycle]
    dsimp only
    rw [hanswer]
    rcases Radio.start c.radio with ⟨radio, rejection | done⟩ <;> rfl
  | _ =>
    refine ⟨[], by simp, ?_⟩
    intro past
    have hsame : (c.watched past).lifecycle = c.lifecycle := rfl
    unfold start
    rw [hsame, hlifecycle, List.append_nil]
    rfl

theorem permitJoin_watched (c : Coordinator ρ σ) (seconds : UInt8) :
    ∃ asked : List Exchange,
      (∀ exchange ∈ asked, exchange.frame? = none ∧ exchange.stage = c.lifecycle) ∧ ∀ past,
      (c.watched past).permitJoin seconds = watchedStep (c.permitJoin seconds) (past ++ asked) := by
  have hready (past : List Exchange) : (c.watched past).requireReady = c.requireReady := rfl
  unfold permitJoin
  cases hcheck : c.requireReady with
  | error f =>
    refine ⟨[], by simp, ?_⟩
    intro past
    rw [hready, hcheck, List.append_nil]
    rfl
  | ok =>
    refine ⟨[.permitJoin seconds (Radio.permitJoin seconds c.radio).2], ?_, ?_⟩
    · simp [Exchange.frame?, Exchange.stage, requireReady_eq_ok_iff.1 hcheck]
    · intro past
      rw [hready, hcheck]
      rfl

theorem transmit_watched (c : Coordinator ρ σ) (id : CorrelationId) (slot : Nat) (frame : Frame)
    (past : List Exchange) :
    (c.watched past).transmit id slot frame =
      watchedStep (c.transmit id slot frame)
        (past ++ [.send frame (Radio.send frame c.radio).2]) := by
  have hpending : (c.watched past).pending = c.pending := rfl
  have hanswer : Radio.send frame (c.watched past).radio =
      (⟨(Radio.send frame c.radio).1, past ++ [.send frame (Radio.send frame c.radio).2]⟩,
        (Radio.send frame c.radio).2) := rfl
  unfold transmit
  rw [hanswer, hpending]
  rcases Radio.send frame c.radio with ⟨radio, rejection | seq⟩
  · rfl
  · dsimp only
    cases (reclaim c.pending slot seq).1.bind slot seq <;> rfl

theorem send_watched (c : Coordinator ρ σ) (now : Moment) (device : Eui64) (endpoint : UInt8)
    (request : Request) :
    ∃ asked : List Exchange, (∀ exchange ∈ asked, exchange.stage = c.lifecycle) ∧
      ∀ past, (c.watched past).send now device endpoint request =
        watchedStep (c.send now device endpoint request) (past ++ asked) := by
  have hsame (past : List Exchange) : (c.watched past).target device = c.target device := rfl
  unfold send
  cases request.check with
  | error f =>
    refine ⟨[], by simp, ?_⟩
    intro past
    rw [List.append_nil]
    rfl
  | ok =>
    dsimp only
    unfold dispatch
    cases htarget : c.target device with
    | error f =>
      refine ⟨[], by simp, ?_⟩
      intro past
      rw [hsame, htarget, List.append_nil]
      rfl
    | ok address =>
      dsimp only
      cases halloc : c.pending.alloc c.nextId request.name now.ticks with
      | error f =>
        refine ⟨[], by simp, ?_⟩
        intro past
        have hfull : (c.watched past).pending.alloc (c.watched past).nextId request.name now.ticks =
          .error f := halloc
        rw [hsame, htarget, List.append_nil]
        dsimp only
        rw [hfull]
        rfl
      | ok pair =>
        obtain ⟨pending, slot⟩ := pair
        refine ⟨[.send ⟨address, endpoint, request⟩
          (Radio.send ⟨address, endpoint, request⟩ c.radio).2], ?_, ?_⟩
        · simp [Exchange.stage, (target_eq_ok_iff.1 htarget).1]
        · intro past
          have htaken :
              (c.watched past).pending.alloc (c.watched past).nextId request.name now.ticks =
                .ok (pending, slot) := halloc
          rw [hsame, htarget]
          dsimp only
          rw [htaken]
          exact transmit_watched { c with nextId := ⟨c.nextId.value + 1⟩, pending } c.nextId slot
            ⟨address, endpoint, request⟩ past

/-! ### Calls -/

variable [KeyValueStore σ]

theorem Call.eq_send_or (call : Call) :
    (∃ device endpoint request, call = .send device endpoint request) ∨
      ∀ device endpoint request, call ≠ .send device endpoint request := by
  cases call with
  | send device endpoint request => exact Or.inl ⟨device, endpoint, request, rfl⟩
  | _ => exact Or.inr (by simp)

/-- Whether a call may ask the radio for something. -/
def Call.asksRadio : Call → Bool
  | .start | .permitJoin _ | .send .. => true
  | _ => false

theorem watched_of_not_asksRadio (c : Coordinator ρ σ) (past : List Exchange) (now : Moment)
    {call : Call} (hasks : call.asksRadio = false) :
    (c.watched past).perform now call = watchedStep (c.perform now call) past := by
  cases call with
  | start | permitJoin | send => cases hasks
  | init => exact congrArg (Step.map _) (c.init_watched past)
  | formed status panId channel =>
    exact congrArg (Step.map _) (c.formed_watched past status panId channel)
  | fatal reason => exact congrArg (Step.map _) (c.fatal_watched past reason)
  | announce device address =>
    exact congrArg (Step.map _) (c.announce_watched past now device address)
  | leave device => exact congrArg (Step.map _) (c.leave_watched past device)
  | report r => exact congrArg (Step.map _) (c.report_watched past now r)
  | status seq status => exact congrArg (Step.map _) (c.status_watched past seq status)
  | remove device => exact congrArg (Step.map _) (c.remove_watched past device)
  | sweep => rfl

/-- Any other call than a send asks the radio for no frame to be sent. -/
theorem watched_of_not_send (c : Coordinator ρ σ) (now : Moment) {call : Call}
    (hother : ∀ device endpoint request, call ≠ .send device endpoint request) :
    ∃ asked : List Exchange,
      (∀ exchange ∈ asked, exchange.frame? = none ∧ exchange.stage = c.lifecycle) ∧ ∀ past,
      (c.watched past).perform now call = watchedStep (c.perform now call) (past ++ asked) := by
  cases call with
  | send device endpoint request => exact absurd rfl (hother device endpoint request)
  | start =>
    obtain ⟨asked, hasks, hasked⟩ := c.start_watched
    exact ⟨asked, hasks, fun past ↦ congrArg (Step.map _) (hasked past)⟩
  | permitJoin seconds =>
    obtain ⟨asked, hasks, hasked⟩ := c.permitJoin_watched seconds
    exact ⟨asked, hasks, fun past ↦ congrArg (Step.map _) (hasked past)⟩
  | _ =>
    refine ⟨[], by simp, fun past ↦ ?_⟩
    rw [List.append_nil]
    exact c.watched_of_not_asksRadio past now rfl

/-- What is asked does not depend on what was asked before, so it is what a blank record shows. -/
theorem exchanges_eq_of_watched {c : Coordinator ρ σ} {now : Moment} {call : Call}
    {asked : List Exchange} (h : ∀ past,
      (c.watched past).perform now call = watchedStep (c.perform now call) (past ++ asked)) :
    (Turn.mk c now call).exchanges = asked :=
  congrArg (fun s ↦ s.after.radio.exchanges) (h [])

/-- Calls that do not concern the radio ask nothing of it. -/
theorem Turn.exchanges_of_not_asksRadio {t : Turn ρ σ} (hasks : t.call.asksRadio = false) :
    t.exchanges = [] := by
  refine exchanges_eq_of_watched fun past ↦ ?_
  rw [List.append_nil]
  exact t.before.watched_of_not_asksRadio past t.now hasks

/-- Only a send hands a frame to the radio. -/
theorem Turn.frame?_of_not_send {t : Turn ρ σ}
    (hother : ∀ device endpoint request, t.call ≠ .send device endpoint request)
    {exchange : Exchange} (hexchange : exchange ∈ t.exchanges) : exchange.frame? = none := by
  obtain ⟨asked, hasks, hasked⟩ := t.before.watched_of_not_send t.now hother
  have hexchanges : t.exchanges = asked := exchanges_eq_of_watched hasked
  rw [hexchanges] at hexchange
  exact (hasks exchange hexchange).1

/-- What a call asks of the radio is asked in the one state that is for it. -/
theorem watched_of_stage (c : Coordinator ρ σ) (now : Moment) (call : Call) :
    ∃ asked : List Exchange, (∀ exchange ∈ asked, exchange.stage = c.lifecycle) ∧ ∀ past,
      (c.watched past).perform now call = watchedStep (c.perform now call) (past ++ asked) := by
  rcases call.eq_send_or with ⟨device, endpoint, request, rfl⟩ | hother
  · obtain ⟨asked, hstage, hasked⟩ := c.send_watched now device endpoint request
    exact ⟨asked, hstage, fun past ↦ congrArg (Step.map _) (hasked past)⟩
  · obtain ⟨asked, hasks, hasked⟩ := c.watched_of_not_send now hother
    exact ⟨asked, fun exchange hexchange ↦ (hasks exchange hexchange).2, hasked⟩

/-- A coordinator whose radio is watched does what the coordinator does, and the record grows by
what the call asks of the radio. -/
theorem perform_watched (c : Coordinator ρ σ) (past : List Exchange) (now : Moment) (call : Call) :
    (c.watched past).perform now call =
      watchedStep (c.perform now call) (past ++ (Turn.mk c now call).exchanges) := by
  obtain ⟨asked, -, hasked⟩ := c.watched_of_stage now call
  rw [hasked, exchanges_eq_of_watched hasked]

/-- The lifecycle is where it has to be for what a call asks of the radio. -/
theorem Turn.stage_of_mem_exchanges {t : Turn ρ σ} {exchange : Exchange}
    (hexchange : exchange ∈ t.exchanges) : exchange.stage = t.before.lifecycle := by
  obtain ⟨asked, hstage, hasked⟩ := t.before.watched_of_stage t.now t.call
  have hexchanges : t.exchanges = asked := exchanges_eq_of_watched hasked
  rw [hexchanges] at hexchange
  exact hstage exchange hexchange

end Coordinator

end MeshBridge
