import MeshBridge.Proofs.Coordinator.Recording
import MeshBridge.Proofs.Coordinator.Turns
import MeshBridge.Radio.Simulated
import MeshBridge.Store.Memory
/-!
The stages of a coordinator's life. `Progress` lists what a call can do to the lifecycle and the
network together with what it tells of the stack, and `progress_perform` says that every call does
one of these. So the events of the stack that were told give the stage: none before the network was
formed, one that it is up, and at the end one that it is down (`Past.staged`). The radio is asked
for something in the one stage that is for it, and once the stack has failed for good a call can do
no more than empty slots (`frozen_of_error`).
-/

set_option autoImplicit false
set_option relaxedAutoImplicit false

namespace MeshBridge

/-! ### Ways of the lifecycle -/

namespace Lifecycle

theorem move?_eq_some_iff {s next after : Lifecycle} :
    s.move? next = some after ↔ s.canMove next = true ∧ after = next := by
  unfold move?
  split_ifs with hmove
  · simp [hmove, eq_comm]
  · simp [hmove]

/-- A network is formed by one that is being initialised only. -/
theorem canMove_ready {s : Lifecycle} : s.canMove .ready = true ↔ s = .initializing := by
  cases s <;> decide

/-- The stack fails only once its initialisation has begun, and only once. -/
theorem canMove_error {s : Lifecycle} :
    s.canMove .error = true ↔ s = .initializing ∨ s = .ready := by
  cases s <;> decide

end Lifecycle

namespace Coordinator

variable {ρ σ : Type}

/-! ### What a call does to the lifecycle -/

/-- Whether an event tells of the stack. -/
def tellsOfStack (e : Event) : Bool := e.kind = .stackUp || e.kind = .stackDown

/-- The events among others that tell of the stack. -/
def stackEvents (events : List Event) : List Event := events.filter tellsOfStack

theorem mem_stackEvents_iff {events : List Event} {e : Event} :
    e ∈ stackEvents events ↔ e ∈ events ∧ (e.kind = .stackUp ∨ e.kind = .stackDown) := by
  simp [stackEvents, tellsOfStack]

theorem stackEvents_eq_nil {events : List Event}
    (h : ∀ e ∈ events, e.kind ≠ .stackUp ∧ e.kind ≠ .stackDown) : stackEvents events = [] := by
  rw [stackEvents, List.filter_eq_nil_iff]
  intro e he
  simp [tellsOfStack, h e he]

/-- What a call does to the lifecycle and the network, and what it tells of the stack. -/
inductive Progress (c after : Coordinator ρ σ) (events : List Event) : Prop
  | stays (hlifecycle : after.lifecycle = c.lifecycle) (hnetwork : after.network = c.network)
      (hevents : stackEvents events = [])
  | begins (hbefore : c.lifecycle = .uninitialized) (hlifecycle : after.lifecycle = .initializing)
      (hnetwork : after.network = c.network) (hevents : stackEvents events = [])
  /-- A network is formed. -/
  | rises (info : NetworkInfo) (hbefore : c.lifecycle = .initializing)
      (hlifecycle : after.lifecycle = .ready) (hnetwork : after.network = some info)
      (hevents : events = [.stackUp info.panId info.channel])
  /-- The stack fails for good. -/
  | falls (reason : String) (hbefore : c.lifecycle = .initializing ∨ c.lifecycle = .ready)
      (hlifecycle : after.lifecycle = .error) (hnetwork : after.network = c.network)
      (hevents : events = [.stackDown reason])

theorem progress_refuse {α : Type} (c : Coordinator ρ σ) (f : Fault) :
    Progress c (c.refuse f : Step ρ σ α).after (c.refuse f : Step ρ σ α).events :=
  .stays rfl rfl rfl

theorem progress_init (c : Coordinator ρ σ) : Progress c c.init.after c.init.events := by
  unfold init
  split_ifs with hbefore
  · exact .begins hbefore rfl rfl rfl
  · exact progress_refuse c _

theorem progress_start [Radio ρ] (c : Coordinator ρ σ) :
    Progress c c.start.after c.start.events := by
  unfold start
  split
  · exact progress_refuse c _
  · exact .stays rfl rfl rfl
  · exact progress_refuse c _
  · next hbefore =>
    split
    · exact .stays rfl rfl rfl
    · exact .falls _ (Or.inl hbefore) rfl rfl rfl

theorem progress_formed [KeyValueStore σ] (c : Coordinator ρ σ) (status panId : UInt16)
    (channel : UInt8) :
    Progress c (c.formed status panId channel).after (c.formed status panId channel).events := by
  unfold formed
  split_ifs
  · split
    · exact progress_refuse c _
    · next lifecycle hmove =>
      obtain ⟨hcan, hready⟩ := Lifecycle.move?_eq_some_iff.1 hmove
      exact .rises ⟨panId, channel⟩ (Lifecycle.canMove_ready.1 hcan) hready rfl rfl
  · split
    · exact progress_refuse c _
    · next lifecycle hmove =>
      obtain ⟨hcan, herror⟩ := Lifecycle.move?_eq_some_iff.1 hmove
      exact .falls _ (Lifecycle.canMove_error.1 hcan) herror rfl rfl

theorem progress_fatal (c : Coordinator ρ σ) (reason : String) :
    Progress c (c.fatal reason).after (c.fatal reason).events := by
  unfold fatal
  split
  · exact progress_refuse c _
  · next lifecycle hmove =>
    obtain ⟨hcan, herror⟩ := Lifecycle.move?_eq_some_iff.1 hmove
    exact .falls _ (Lifecycle.canMove_error.1 hcan) herror rfl rfl

/-- Whether a call may touch the lifecycle. -/
def Call.movesLifecycle : Call → Bool
  | .init | .start | .formed .. | .fatal _ => true
  | _ => false

/-- Calls that do not concern the lifecycle leave it and the network alone. -/
theorem lifecycle_of_quiet [Radio ρ] [KeyValueStore σ] (c : Coordinator ρ σ) (now : Moment)
    {call : Call} (hquiet : call.movesLifecycle = false) :
    (c.perform now call).after.lifecycle = c.lifecycle ∧
      (c.perform now call).after.network = c.network := by
  have hframe {after : Coordinator ρ σ} {cache : AddressCache} {pending : PendingTable}
      {nextId : CorrelationId} {devices : Registry} {radio : ρ}
      (hafter : after = { c with cache, pending, nextId, devices, radio }) :
      after.lifecycle = c.lifecycle ∧ after.network = c.network := by
    rw [hafter]
    exact ⟨rfl, rfl⟩
  cases call with
  | init | start | formed | fatal => cases hquiet
  | permitJoin seconds => exact hframe (c.permitJoin_frame seconds)
  | announce device address => exact hframe (c.announce_frame now device address)
  | leave device => exact hframe (c.leave_frame device)
  | report r => exact hframe (c.report_frame now r)
  | status seq status => exact hframe (c.status_frame seq status)
  | remove device => exact hframe (c.remove_frame device)
  | sweep => exact hframe (c.sweep_frame now)
  | send device endpoint request => exact hframe (c.send_frame now device endpoint request)

/-- Every call does to the lifecycle one of what `Progress` lists. -/
theorem progress_perform [Radio ρ] [KeyValueStore σ] (c : Coordinator ρ σ) (now : Moment)
    (call : Call) : Progress c (c.perform now call).after (c.perform now call).events := by
  have hquiet (hstill : call.movesLifecycle = false)
      (hkinds : ∀ kind ∈ call.kinds, kind ≠ .stackUp ∧ kind ≠ .stackDown) :
      Progress c (c.perform now call).after (c.perform now call).events := by
    obtain ⟨hlifecycle, hnetwork⟩ := c.lifecycle_of_quiet now hstill
    exact .stays hlifecycle hnetwork
      (stackEvents_eq_nil fun e he ↦ hkinds e.kind (kind_mem_kinds he))
  cases call with
  | init => exact c.progress_init
  | start => exact c.progress_start
  | formed status panId channel => exact c.progress_formed status panId channel
  | fatal reason => exact c.progress_fatal reason
  | _ => exact hquiet rfl (by simp [Call.kinds])

/-! ### What was told of the stack -/

/-- The lifecycle, the network, and what was told of the stack, at the stages of a life. -/
inductive Staged : Lifecycle → Option NetworkInfo → List Event → Prop
  | made : Staged .uninitialized none []
  | begun : Staged .initializing none []
  | up (info : NetworkInfo) : Staged .ready (some info) [.stackUp info.panId info.channel]
  /-- The stack failed before there was a network. -/
  | failed (reason : String) : Staged .error none [.stackDown reason]
  | down (info : NetworkInfo) (reason : String) :
    Staged .error (some info) [.stackUp info.panId info.channel, .stackDown reason]

theorem Staged.told_eq {lifecycle : Lifecycle} {network : Option NetworkInfo} {told : List Event}
    (hstaged : Staged lifecycle network told) :
    told = [] ∨ (∃ panId channel, told = [.stackUp panId channel]) ∨
      (∃ reason, told = [.stackDown reason]) ∨
      ∃ panId channel reason, told = [.stackUp panId channel, .stackDown reason] := by
  cases hstaged with
  | made | begun => exact Or.inl rfl
  | up info => exact Or.inr (Or.inl ⟨_, _, rfl⟩)
  | failed reason => exact Or.inr (Or.inr (Or.inl ⟨_, rfl⟩))
  | down info reason => exact Or.inr (Or.inr (Or.inr ⟨_, _, _, rfl⟩))

theorem Staged.network_iff {lifecycle : Lifecycle} {network : Option NetworkInfo}
    {told : List Event} (hstaged : Staged lifecycle network told) (panId : UInt16)
    (channel : UInt8) : network = some ⟨panId, channel⟩ ↔ .stackUp panId channel ∈ told := by
  cases hstaged with
  | made | begun | failed => simp
  | up info | down info =>
    obtain ⟨panId, channel⟩ := info
    simp [eq_comm]

theorem Staged.error_iff {lifecycle : Lifecycle} {network : Option NetworkInfo}
    {told : List Event} (hstaged : Staged lifecycle network told) :
    lifecycle = .error ↔ ∃ reason, .stackDown reason ∈ told := by
  cases hstaged <;> simp

/-- A call takes a coordinator to the stage that it tells of. -/
theorem Progress.staged {c after : Coordinator ρ σ} {events told : List Event}
    (hprogress : Progress c after events) (hstaged : Staged c.lifecycle c.network told) :
    Staged after.lifecycle after.network (told ++ stackEvents events) := by
  cases hprogress with
  | stays hlifecycle hnetwork hevents =>
    rw [hlifecycle, hnetwork, hevents, List.append_nil]
    exact hstaged
  | begins hbefore hlifecycle hnetwork hevents =>
    rw [hlifecycle, hnetwork, hevents, List.append_nil]
    rw [hbefore] at hstaged
    generalize c.network = network at hstaged ⊢
    cases hstaged
    exact .begun
  | rises info hbefore hlifecycle hnetwork hevents =>
    rw [hlifecycle, hnetwork, hevents]
    rw [hbefore] at hstaged
    generalize c.network = network at hstaged
    cases hstaged
    exact .up info
  | falls reason hbefore hlifecycle hnetwork hevents =>
    rw [hlifecycle, hnetwork, hevents]
    generalize c.network = network at hstaged ⊢
    rcases hbefore with hbefore | hbefore
    · rw [hbefore] at hstaged
      cases hstaged
      exact .failed reason
    · rw [hbefore] at hstaged
      cases hstaged
      exact .down _ reason

theorem prompt_tellsOfStack : Prompt tellsOfStack := by
  intro e hkind
  rcases hkind with hkind | hkind <;> simp [tellsOfStack, hkind]

section Past

variable [Radio ρ] [KeyValueStore σ] {others : Registry → Registry → Prop} {config : AdapterConfig}
  {corrections : CorrectionTable} {c : Coordinator ρ σ} {h : History ρ σ}

/-- What was told of the stack gives the stage. It is told at once, whatever else is still
waiting. -/
theorem Past.staged (hpast : Past others config corrections c h) :
    Staged c.lifecycle c.network (stackEvents h.told) := by
  induction hpast with
  | made => exact .made
  | @called c h _ now call ih =>
    rw [stackEvents, filter_told_call prompt_tellsOfStack]
    exact (c.progress_perform now call).staged ih
  | told hpast ih =>
    rw [stackEvents, hpast.filter_told_tell prompt_tellsOfStack]
    exact ih
  | changed _ _ _ _ ih => exact ih

end Past

/-! ### After the stack failed -/

/-- A status does no more than empty the slot of the command whose outcome it tells. -/
theorem status_empties (c : Coordinator ρ σ) (seq : SequenceNumber) (status : UInt16) :
    (∀ i, (c.status seq status).after.pending.get? i = c.pending.get? i ∨
        (c.status seq status).after.pending.get? i = none) ∧
      ∀ e ∈ (c.status seq status).events, ∃ i command, c.pending.get? i = some command ∧
        e.command? = some command.id := by
  rw [status_eq_release]
  cases hrelease : c.pending.release seq with
  | mk pending released =>
    cases released with
    | none => exact ⟨fun _ ↦ Or.inl rfl, by simp [refuse]⟩
    | some command =>
      obtain ⟨slot, hget, -, hfree⟩ := PendingTable.release_eq_some (congrArg Prod.snd hrelease)
      rw [hrelease] at hfree
      change pending = _ at hfree
      constructor
      · intro i
        show pending.get? i = _ ∨ pending.get? i = _
        rw [hfree, PendingTable.get?_free]
        by_cases hi : i = slot
        · exact Or.inr (if_pos hi)
        · exact Or.inl (if_neg hi)
      · intro e he
        rw [List.mem_singleton.1 he]
        exact ⟨slot, command, hget, command?_outcomeOf ..⟩

/-- A sweep does no more than empty the slots of the commands that it tells were given up. -/
theorem sweep_empties (c : Coordinator ρ σ) (now : Moment) :
    (∀ i, (c.sweep now).after.pending.get? i = c.pending.get? i ∨
        (c.sweep now).after.pending.get? i = none) ∧
      ∀ e ∈ (c.sweep now).events, ∃ i command, c.pending.get? i = some command ∧
        e.command? = some command.id := by
  constructor
  · intro i
    show (c.pending.sweep now.ticks).1.get? i = _ ∨ (c.pending.sweep now.ticks).1.get? i = _
    rw [PendingTable.get?_sweep]
    cases c.pending.get? i with
    | none => exact Or.inr rfl
    | some command =>
      by_cases hold : c.pending.isExpired now.ticks command <;> simp [hold]
  · intro e he
    obtain ⟨command, hcommand, rfl⟩ := List.mem_map.1 he
    have hheld : command ∈ c.pending.commands := (List.mem_filter.1 hcommand).1
    obtain ⟨i, hget⟩ := PendingTable.mem_commands_iff.1 hheld
    exact ⟨i, command, hget, rfl⟩

section Error

variable [Radio ρ] [KeyValueStore σ]

/-- Once the stack has failed for good, every call is refused that neither settles a command nor
gives up old ones. -/
theorem perform_of_error {c : Coordinator ρ σ} (h : c.lifecycle = .error) (now : Moment)
    (call : Call) :
    (∃ f, c.perform now call = c.refuse f) ∨ call = .sweep ∨
      ∃ seq status, call = .status seq status := by
  have halive := requireAlive_of_error h
  have hready : c.requireReady = .error (.notReady "adapter is ERROR") := by
    simp only [requireReady, h]
    rfl
  have hmove : c.lifecycle.move? .ready = none ∧ c.lifecycle.move? .error = none := by
    rw [h]
    exact ⟨rfl, rfl⟩
  cases call with
  | sweep => exact Or.inr (Or.inl rfl)
  | status seq status => exact Or.inr (Or.inr ⟨seq, status, rfl⟩)
  | init =>
    left
    simp only [perform, init, h, reduceCtorEq, if_false]
    exact ⟨_, rfl⟩
  | start =>
    left
    simp only [perform, start, h]
    exact ⟨_, rfl⟩
  | permitJoin seconds =>
    left
    simp only [perform, permitJoin, hready]
    exact ⟨_, rfl⟩
  | formed status panId channel =>
    left
    simp only [perform, formed, hmove]
    split_ifs <;> exact ⟨_, rfl⟩
  | fatal reason =>
    left
    simp only [perform, fatal, hmove]
    exact ⟨_, rfl⟩
  | announce device address =>
    left
    simp only [perform, announce, halive]
    exact ⟨_, rfl⟩
  | leave device =>
    left
    simp only [perform, leave, halive]
    exact ⟨_, rfl⟩
  | report r =>
    left
    simp only [perform, report, halive]
    split <;> exact ⟨_, rfl⟩
  | remove device =>
    left
    simp only [perform, remove, halive]
    exact ⟨_, rfl⟩
  | send device endpoint request =>
    left
    simp only [perform, send, dispatch, target, hready]
    split <;> exact ⟨_, rfl⟩

/-- A call that does no more than empty slots and tell the outcomes of the commands in them. -/
structure Frozen (t : Turn ρ σ) : Prop where
  error : t.before.lifecycle = .error
  after_eq : t.after = { t.before with pending := t.after.pending }
  /-- A slot holds what it held, or nothing any more. -/
  get?_eq : ∀ i, t.after.pending.get? i = t.before.pending.get? i ∨ t.after.pending.get? i = none
  /-- Nothing is asked of the radio. -/
  exchanges : t.exchanges = []
  /-- Every event is the outcome of a command that was in a slot. -/
  outcome : ∀ e ∈ t.events, ∃ i command, t.before.pending.get? i = some command ∧
    e.command? = some command.id

/-- Once the stack has failed for good, every call is frozen. -/
theorem frozen_of_error {t : Turn ρ σ} (h : t.before.lifecycle = .error) : Frozen t := by
  have hexchanges : t.exchanges = [] := by
    rw [List.eq_nil_iff_forall_not_mem]
    intro exchange hexchange
    have hstage := Turn.stage_of_mem_exchanges hexchange
    rw [h] at hstage
    cases exchange <;> cases hstage
  obtain ⟨c, now, call⟩ := t
  rcases perform_of_error h now call with ⟨f, hrefuse⟩ | rfl | ⟨seq, status, rfl⟩
  · have hafter : (Turn.mk c now call).after = c := congrArg Step.after hrefuse
    have hevents : (Turn.mk c now call).events = [] := congrArg Step.events hrefuse
    refine ⟨h, ?_, ?_, hexchanges, ?_⟩
    · rw [hafter]
    · intro i
      rw [hafter]
      exact Or.inl rfl
    · rw [hevents]
      simp
  · obtain ⟨hslots, houtcome⟩ := c.sweep_empties now
    exact ⟨h, c.sweep_frame now, hslots, hexchanges, houtcome⟩
  · obtain ⟨hslots, houtcome⟩ := c.status_empties seq status
    exact ⟨h, c.status_frame seq status, hslots, hexchanges, houtcome⟩

end Error

/-! ### Lives -/

/-- Whether the radio granted what it was asked for: it accepted a frame, or opened the network. -/
def isGrant : Exchange → Bool
  | .send _ (.ok _) | .permitJoin _ (.ok _) => true
  | _ => false

/-- How a coordinator and its history go together. -/
structure Lived [Radio ρ] [KeyValueStore σ] (c : Coordinator ρ σ) (h : History ρ σ) : Prop where
  /-- The stack comes up at most once and goes down at most once, in this order. -/
  told : stackEvents h.told = [] ∨
    (∃ panId channel, stackEvents h.told = [.stackUp panId channel]) ∨
    (∃ reason, stackEvents h.told = [.stackDown reason]) ∨
    ∃ panId channel reason, stackEvents h.told = [.stackUp panId channel, .stackDown reason]
  network_iff : ∀ panId channel,
    c.network = some ⟨panId, channel⟩ ↔ .stackUp panId channel ∈ h.told
  error_iff : c.lifecycle = .error ↔ ∃ reason, .stackDown reason ∈ h.told
  /-- The radio accepts a frame, or opens the network, in a call on a ready coordinator only. -/
  ready : ∀ t ∈ h.turns, ∀ exchange ∈ t.exchanges, isGrant exchange = true →
    t.before.lifecycle = .ready ∧ t.after.lifecycle = .ready
  /-- All calls that take effect after one that left the lifecycle in the error state are frozen. -/
  frozen : h.turns.Pairwise fun t later ↦ t.after.lifecycle = .error → Frozen later
  /-- And so is every call that may come next. -/
  next : c.lifecycle = .error → ∀ now call, Frozen ⟨c, now, call⟩

section Lives

variable [Radio ρ] [KeyValueStore σ] {others : Registry → Registry → Prop} {config : AdapterConfig}
  {corrections : CorrectionTable} {c : Coordinator ρ σ} {h : History ρ σ}

/-- The error state is left by no call. -/
theorem lifecycle_of_frozen {t : Turn ρ σ} (hfrozen : Frozen t) : t.after.lifecycle = .error := by
  rw [hfrozen.after_eq]
  exact hfrozen.error

/-- Once a call has left the lifecycle in the error state it stays there. -/
theorem Past.error_of_mem (hpast : Past others config corrections c h) {t : Turn ρ σ}
    (ht : t ∈ h.turns) (herror : t.after.lifecycle = .error) : c.lifecycle = .error := by
  induction hpast with
  | made => cases ht
  | called _ now call ih =>
    rw [History.turns_call] at ht
    rcases List.mem_append.1 ht with hearlier | hlast
    · exact lifecycle_of_frozen (t := ⟨_, now, call⟩) (frozen_of_error (ih hearlier))
    · rw [List.mem_singleton.1 hlast] at herror
      exact herror
  | told _ ih =>
    rw [History.turns_tell] at ht
    exact ih ht
  | changed _ _ _ _ ih => exact ih ht

theorem Past.frozen (hpast : Past others config corrections c h) :
    h.turns.Pairwise fun t later ↦ t.after.lifecycle = .error → Frozen later := by
  induction hpast with
  | made => exact List.Pairwise.nil
  | called hpast now call ih =>
    rw [History.turns_call, List.pairwise_append]
    refine ⟨ih, List.pairwise_singleton _ _, ?_⟩
    intro t ht later hlater herror
    rw [List.mem_singleton.1 hlater]
    exact frozen_of_error (hpast.error_of_mem ht herror)
  | told _ ih =>
    rw [History.turns_tell]
    exact ih
  | changed _ _ _ _ ih => exact ih

/-- The radio grants something in a call on a ready coordinator only, and leaves it ready. -/
theorem Turn.ready_of_isGrant {t : Turn ρ σ} {exchange : Exchange}
    (hexchange : exchange ∈ t.exchanges) (hgrant : isGrant exchange = true) :
    t.before.lifecycle = .ready ∧ t.after.lifecycle = .ready := by
  have hready : t.before.lifecycle = .ready := by
    rw [← Turn.stage_of_mem_exchanges hexchange]
    cases exchange with
    | start => cases hgrant
    | permitJoin | send => rfl
  refine ⟨hready, ?_⟩
  obtain ⟨c, now, call⟩ := t
  have hstart : c.start.after = c := by
    change c.lifecycle = .ready at hready
    simp only [start, hready]
  cases hasks : call.asksRadio with
  | false =>
    rw [Turn.exchanges_of_not_asksRadio hasks] at hexchange
    cases hexchange
  | true =>
    cases call with
    | start =>
      show c.start.after.lifecycle = .ready
      rw [hstart]
      exact hready
    | permitJoin | send => exact (c.lifecycle_of_quiet now rfl).1.trans hready
    | _ => cases hasks

/-- However a coordinator came to be as it is, its history tells its stage, the radio grants it
something only while it is ready, and once the stack has failed it is frozen. -/
theorem lived_of_past (hpast : Past others config corrections c h) : Lived c h := by
  have hstaged := hpast.staged
  refine ⟨hstaged.told_eq, ?_, ?_, fun t _ exchange ↦ Turn.ready_of_isGrant, hpast.frozen,
    fun herror now call ↦ frozen_of_error herror⟩
  · intro panId channel
    rw [hstaged.network_iff, mem_stackEvents_iff]
    simp [Event.kind]
  · rw [hstaged.error_iff]
    simp only [mem_stackEvents_iff, Event.kind, or_true, and_true]

/-- A network is formed. A device takes the address of another one, and the handler that is told so
reports that the radio was lost, before the device itself is told to have joined. -/
theorem lived_of_past_radioLost :
    ∃ (c : Coordinator SimulatedRadio MemoryStore) (h : History SimulatedRadio MemoryStore),
      Past Eq default .empty c h ∧ c.lifecycle = .error ∧ c.network = some ⟨0x1A62, 15⟩ ∧
        h.told = [.stackUp 0x1A62 15, .deviceJoined ⟨7⟩ 0x1234, .deviceLeft ⟨7⟩,
          .stackDown "radio lost", .deviceJoined ⟨8⟩ 0x1234] ∧
        Lived c h := by
  have hmade : Past Eq default .empty
      (new default .empty SimulatedRadio.empty (none : Option MemoryStore)) .empty := .made _ _
  have hpast := (((((hmade.called ⟨0, 0⟩ .init).called ⟨0, 0⟩ (.formed 0 0x1A62 15)).called ⟨1, 0⟩
    (.announce ⟨7⟩ 0x1234)).called ⟨2, 0⟩ (.announce ⟨8⟩ 0x1234)).called ⟨2, 0⟩
    (.fatal "radio lost")).told
  exact ⟨_, _, hpast, by decide, by decide, by decide, lived_of_past hpast⟩

end Lives

end Coordinator

end MeshBridge
