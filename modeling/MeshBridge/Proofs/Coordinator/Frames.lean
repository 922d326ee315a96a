import MeshBridge.Coordinator.Call
import Mathlib.Tactic.SplitIfs
/-!
What each call leaves alone. A frame equation says that the coordinator after a call is the one
before it but for a few named parts; every part that is not named there is unchanged. Likewise a
call tells events of a few kinds only (`kind_mem_kinds`).
-/

set_option autoImplicit false
set_option relaxedAutoImplicit false

namespace MeshBridge.Coordinator

variable {ρ σ : Type}

/-! ### Guards -/

theorem requireReady_eq_ok_iff {c : Coordinator ρ σ} :
    c.requireReady = .ok () ↔ c.lifecycle = .ready := by
  unfold requireReady
  by_cases hready : c.lifecycle = .ready <;> simp [hready]

theorem requireAlive_of_error {c : Coordinator ρ σ} (h : c.lifecycle = .error) :
    c.requireAlive = .error (.notReady "adapter in error state") := by
  simp [requireAlive, Lifecycle.isTerminal, h]

theorem requireAlive_of_ne_error {c : Coordinator ρ σ} (h : c.lifecycle ≠ .error) :
    c.requireAlive = .ok () := by
  simp [requireAlive, Lifecycle.isTerminal, h]

/-- A device can be sent to just if the coordinator is ready and the device is in reach. -/
theorem target_eq_ok_iff {c : Coordinator ρ σ} {device : Eui64} {address : NetworkAddress} :
    c.target device = .ok address ↔ c.lifecycle = .ready ∧ c.address? device = some address := by
  unfold target requireReady
  by_cases hready : c.lifecycle = .ready
  · cases c.address? device <;> simp [hready]
  · simp [hready]

/-! ### Frame equations -/

theorem init_frame (c : Coordinator ρ σ) :
    c.init.after = { c with lifecycle := c.init.after.lifecycle } := by
  unfold init
  split <;> rfl

theorem start_frame [Radio ρ] (c : Coordinator ρ σ) :
    c.start.after =
      { c with radio := c.start.after.radio, lifecycle := c.start.after.lifecycle } := by
  unfold start
  split
  · rfl
  · rfl
  · rfl
  · split <;> rfl

theorem permitJoin_frame [Radio ρ] (c : Coordinator ρ σ) (seconds : UInt8) :
    (c.permitJoin seconds).after = { c with radio := (c.permitJoin seconds).after.radio } := by
  unfold permitJoin
  split <;> rfl

theorem formed_frame [KeyValueStore σ] (c : Coordinator ρ σ) (status panId : UInt16)
    (channel : UInt8) :
    (c.formed status panId channel).after =
      { c with
        lifecycle := (c.formed status panId channel).after.lifecycle
        network := (c.formed status panId channel).after.network
        store := (c.formed status panId channel).after.store } := by
  unfold formed
  split
  · split <;> rfl
  · split <;> rfl

theorem fatal_frame (c : Coordinator ρ σ) (reason : String) :
    (c.fatal reason).after = { c with lifecycle := (c.fatal reason).after.lifecycle } := by
  unfold fatal
  split <;> rfl

theorem announce_frame (c : Coordinator ρ σ) (now : Moment) (device : Eui64)
    (address : NetworkAddress) :
    (c.announce now device address).after =
      { c with
        cache := (c.announce now device address).after.cache
        devices := (c.announce now device address).after.devices } := by
  unfold announce
  split
  · rfl
  · split <;> rfl

theorem leave_frame (c : Coordinator ρ σ) (device : Eui64) :
    (c.leave device).after =
      { c with
        cache := (c.leave device).after.cache
        devices := (c.leave device).after.devices } := by
  unfold leave
  split
  · rfl
  · split <;> rfl

theorem report_frame (c : Coordinator ρ σ) (now : Moment) (r : Report) :
    (c.report now r).after =
      { c with
        cache := (c.report now r).after.cache
        devices := (c.report now r).after.devices } := by
  unfold report
  split
  · rfl
  · split
    · rfl
    · split
      · rfl
      · split
        · rfl
        · split <;> rfl

theorem remove_frame (c : Coordinator ρ σ) (device : Eui64) :
    (c.remove device).after =
      { c with
        cache := (c.remove device).after.cache
        devices := (c.remove device).after.devices } := by
  unfold remove
  split
  · rfl
  · split <;> rfl

theorem status_frame (c : Coordinator ρ σ) (seq : SequenceNumber) (status : UInt16) :
    (c.status seq status).after =
      { c with pending := (c.status seq status).after.pending } := by
  unfold Coordinator.status
  split
  · rfl
  · split <;> rfl

theorem sweep_frame (c : Coordinator ρ σ) (now : Moment) :
    (c.sweep now).after = { c with pending := (c.sweep now).after.pending } := rfl

theorem send_frame [Radio ρ] (c : Coordinator ρ σ) (now : Moment) (device : Eui64)
    (endpoint : UInt8) (request : Request) :
    (c.send now device endpoint request).after =
      { c with
        pending := (c.send now device endpoint request).after.pending
        nextId := (c.send now device endpoint request).after.nextId
        radio := (c.send now device endpoint request).after.radio } := by
  unfold send
  split
  · rfl
  · unfold dispatch
    split
    · rfl
    · dsimp only
      split
      · rfl
      · unfold transmit
        split
        · dsimp only
          split <;> rfl
        · rfl

/-! ### Parts that calls leave alone -/

/-- Whether a call may touch the commands under way. -/
def Call.movesCommands : Call → Bool
  | .status .. | .sweep | .send .. => true
  | _ => false

/-- Whether a call may touch the known devices. -/
def Call.movesDevices : Call → Bool
  | .announce .. | .leave _ | .report _ | .remove _ => true
  | _ => false

/-- A coordinator was changed outside its settings and its corrections, and only where it may have
been: in the commands under way, or in the known devices, or in neither. -/
structure Framed (c after : Coordinator ρ σ) (movesCommands movesDevices : Bool) : Prop where
  config : after.config = c.config
  corrections : after.corrections = c.corrections
  commands : movesCommands = false → after.pending = c.pending ∧ after.nextId = c.nextId
  devices : movesDevices = false → after.cache = c.cache ∧ after.devices = c.devices

theorem framed_of_lifecycle {c after : Coordinator ρ σ} {lifecycle : Lifecycle}
    {network : Option NetworkInfo} {radio : ρ} {store : Option σ}
    (h : after = { c with lifecycle, network, radio, store }) : Framed c after false false := by
  subst h
  exact ⟨rfl, rfl, fun _ ↦ ⟨rfl, rfl⟩, fun _ ↦ ⟨rfl, rfl⟩⟩

theorem framed_of_commands {c after : Coordinator ρ σ} {pending : PendingTable}
    {nextId : CorrelationId} {radio : ρ} (h : after = { c with pending, nextId, radio }) :
    Framed c after true false := by
  subst h
  exact ⟨rfl, rfl, fun hmoves ↦ absurd hmoves (by decide), fun _ ↦ ⟨rfl, rfl⟩⟩

theorem framed_of_devices {c after : Coordinator ρ σ} {cache : AddressCache} {devices : Registry}
    (h : after = { c with cache, devices }) : Framed c after false true := by
  subst h
  exact ⟨rfl, rfl, fun _ ↦ ⟨rfl, rfl⟩, fun hmoves ↦ absurd hmoves (by decide)⟩

theorem framed_perform [Radio ρ] [KeyValueStore σ] (c : Coordinator ρ σ) (now : Moment)
    (call : Call) :
    Framed c (c.perform now call).after call.movesCommands call.movesDevices := by
  cases call with
  | init => exact framed_of_lifecycle c.init_frame
  | start => exact framed_of_lifecycle c.start_frame
  | permitJoin seconds => exact framed_of_lifecycle (c.permitJoin_frame seconds)
  | formed status panId channel => exact framed_of_lifecycle (c.formed_frame status panId channel)
  | fatal reason => exact framed_of_lifecycle (c.fatal_frame reason)
  | announce device address => exact framed_of_devices (c.announce_frame now device address)
  | leave device => exact framed_of_devices (c.leave_frame device)
  | report r => exact framed_of_devices (c.report_frame now r)
  | remove device => exact framed_of_devices (c.remove_frame device)
  | status seq status => exact framed_of_commands (c.status_frame seq status)
  | sweep => exact framed_of_commands (c.sweep_frame now)
  | send device endpoint request =>
    exact framed_of_commands (c.send_frame now device endpoint request)

/-! ### Kinds of events -/

/-- The kinds of events a call may tell. -/
def Call.kinds : Call → List EventKind
  | .init | .permitJoin _ => []
  | .start | .fatal _ => [.stackDown]
  | .formed .. => [.stackUp, .stackDown]
  | .announce .. => [.deviceLeft, .deviceJoined]
  | .leave _ | .remove _ => [.deviceLeft]
  | .report _ => [.attributeChanged]
  | .status .. => [.commandConfirmed, .commandFailed]
  | .sweep => [.commandTimeout]
  | .send .. => [.commandTimeout, .commandFailed]

theorem takeOffline_kind {devices : Registry} {displaced : Option CacheEntry} {e : Event}
    (he : e ∈ (takeOffline devices displaced).2) : e.kind = .deviceLeft := by
  unfold takeOffline at he
  split at he
  · cases he
  · split at he
    · split at he
      · rw [List.mem_singleton.1 he]
        rfl
      · cases he
    · cases he

theorem reclaim_kind {pending : PendingTable} {slot : Nat} {seq : SequenceNumber} {e : Event}
    (he : e ∈ (reclaim pending slot seq).2) : e.kind = .commandTimeout := by
  unfold reclaim at he
  split at he
  · cases he
  · split at he
    · rw [List.mem_singleton.1 he]
      rfl
    · cases he

theorem init_events (c : Coordinator ρ σ) : c.init.events = [] := by
  unfold init
  split <;> rfl

theorem permitJoin_events [Radio ρ] (c : Coordinator ρ σ) (seconds : UInt8) :
    (c.permitJoin seconds).events = [] := by
  unfold permitJoin
  split <;> rfl

theorem start_kind [Radio ρ] {c : Coordinator ρ σ} {e : Event} (he : e ∈ c.start.events) :
    e.kind = .stackDown := by
  unfold start at he
  split at he
  · cases he
  · cases he
  · cases he
  · split at he
    · cases he
    · rw [List.mem_singleton.1 he]
      rfl

theorem formed_kind [KeyValueStore σ] {c : Coordinator ρ σ} {status panId : UInt16}
    {channel : UInt8} {e : Event} (he : e ∈ (c.formed status panId channel).events) :
    e.kind = .stackUp ∨ e.kind = .stackDown := by
  unfold formed at he
  split at he
  · split at he
    · cases he
    · rw [List.mem_singleton.1 he]
      exact Or.inl rfl
  · split at he
    · cases he
    · rw [List.mem_singleton.1 he]
      exact Or.inr rfl

theorem fatal_kind {c : Coordinator ρ σ} {reason : String} {e : Event}
    (he : e ∈ (c.fatal reason).events) : e.kind = .stackDown := by
  unfold fatal at he
  split at he
  · cases he
  · rw [List.mem_singleton.1 he]
    rfl

theorem announce_kind {c : Coordinator ρ σ} {now : Moment} {device : Eui64}
    {address : NetworkAddress} {e : Event} (he : e ∈ (c.announce now device address).events) :
    e.kind = .deviceLeft ∨ e.kind = .deviceJoined := by
  unfold announce at he
  split at he
  · cases he
  · split at he
    · cases he
    · rcases List.mem_append.1 he with hleft | hjoined
      · exact Or.inl (takeOffline_kind hleft)
      · rw [List.mem_singleton.1 hjoined]
        exact Or.inr rfl

theorem leave_kind {c : Coordinator ρ σ} {device : Eui64} {e : Event}
    (he : e ∈ (c.leave device).events) : e.kind = .deviceLeft := by
  unfold leave at he
  split at he
  · cases he
  · split at he
    · cases he
    all_goals
      rw [List.mem_singleton.1 he]
      rfl

theorem report_kind {c : Coordinator ρ σ} {now : Moment} {r : Report} {e : Event}
    (he : e ∈ (c.report now r).events) : e.kind = .attributeChanged := by
  unfold report at he
  split at he
  · cases he
  · split at he
    · cases he
    · split at he
      · cases he
      · split at he
        · cases he
        · split at he
          · cases he
          · rw [List.mem_singleton.1 he]
            rfl

theorem status_kind {c : Coordinator ρ σ} {seq : SequenceNumber} {status : UInt16} {e : Event}
    (he : e ∈ (c.status seq status).events) :
    e.kind = .commandConfirmed ∨ e.kind = .commandFailed := by
  unfold Coordinator.status at he
  split at he
  · cases he
  · split at he
    · rw [List.mem_singleton.1 he]
      split_ifs
      · exact Or.inl rfl
      · exact Or.inr rfl
    · cases he

theorem remove_kind {c : Coordinator ρ σ} {device : Eui64} {e : Event}
    (he : e ∈ (c.remove device).events) : e.kind = .deviceLeft := by
  unfold remove at he
  split at he
  · cases he
  · split at he
    · cases he
    · cases he
    · split_ifs at he
      · rw [List.mem_singleton.1 he]
        rfl
      · cases he

theorem sweep_kind {c : Coordinator ρ σ} {now : Moment} {e : Event}
    (he : e ∈ (c.sweep now).events) : e.kind = .commandTimeout := by
  obtain ⟨command, -, rfl⟩ := List.mem_map.1 he
  rfl

theorem transmit_kind [Radio ρ] {c : Coordinator ρ σ} {id : CorrelationId} {slot : Nat}
    {frame : Frame} {e : Event} (he : e ∈ (c.transmit id slot frame).events) :
    e.kind = .commandTimeout ∨ e.kind = .commandFailed := by
  unfold transmit at he
  split at he
  · dsimp only at he
    split at he
    · exact Or.inl (reclaim_kind he)
    · cases he
  · rw [List.mem_singleton.1 he]
    exact Or.inr rfl

theorem send_kind [Radio ρ] {c : Coordinator ρ σ} {now : Moment} {device : Eui64}
    {endpoint : UInt8} {request : Request} {e : Event}
    (he : e ∈ (c.send now device endpoint request).events) :
    e.kind = .commandTimeout ∨ e.kind = .commandFailed := by
  unfold send at he
  split at he
  · cases he
  · unfold dispatch at he
    split at he
    · cases he
    · dsimp only at he
      split at he
      · cases he
      · exact transmit_kind he

/-- A call tells events of its own kinds only. -/
theorem kind_mem_kinds [Radio ρ] [KeyValueStore σ] {c : Coordinator ρ σ} {now : Moment}
    {call : Call} {e : Event} (he : e ∈ (c.perform now call).events) : e.kind ∈ call.kinds := by
  cases call with
  | init =>
    have hnone : e ∈ c.init.events := he
    simp [init_events] at hnone
  | permitJoin seconds =>
    have hnone : e ∈ (c.permitJoin seconds).events := he
    simp [permitJoin_events] at hnone
  | start => simp [Call.kinds, start_kind he]
  | formed => rcases formed_kind he with h | h <;> simp [Call.kinds, h]
  | fatal => simp [Call.kinds, fatal_kind he]
  | announce => rcases announce_kind he with h | h <;> simp [Call.kinds, h]
  | leave => simp [Call.kinds, leave_kind he]
  | report => simp [Call.kinds, report_kind he]
  | status => rcases status_kind he with h | h <;> simp [Call.kinds, h]
  | remove => simp [Call.kinds, remove_kind he]
  | sweep => simp [Call.kinds, sweep_kind he]
  | send => rcases send_kind he with h | h <;> simp [Call.kinds, h]

end MeshBridge.Coordinator
