import MeshBridge.Proofs.Coordinator.Past
import MeshBridge.Proofs.Coordinator.Sending
/-!
What a call does to the commands under way. A status is a release of its number
(`status_eq_release`), and calls that do not concern commands tell no outcome (`command?_of_quiet`).
A table that is settled before a call is settled after it (`settled_perform`), so whatever a
coordinator went through it always is (`Past.settled`).
-/

set_option autoImplicit false
set_option relaxedAutoImplicit false

namespace MeshBridge.Coordinator

variable {ρ σ : Type}

/-- The outcome that a status tells. -/
def outcomeOf (id : CorrelationId) (status : UInt16) : Event :=
  if status = 0 then .commandConfirmed id else .commandFailed id status

theorem command?_outcomeOf (id : CorrelationId) (status : UInt16) :
    (outcomeOf id status).command? = some id := by
  unfold outcomeOf
  split_ifs <;> rfl

/-- A status releases its number, and tells the outcome of the command that had it. -/
theorem status_eq_release (c : Coordinator ρ σ) (seq : SequenceNumber) (status : UInt16) :
    c.status seq status =
      match c.pending.release seq with
      | (pending, some command) =>
        ⟨{ c with pending }, [outcomeOf command.id status], .ok ()⟩
      | (_, none) => c.refuse (.notFound ("pending sequence " ++ toString seq)) := by
  unfold Coordinator.status PendingTable.release
  cases hfind : c.pending.find? seq with
  | none => rfl
  | some slot =>
    obtain ⟨command, hget, -⟩ := PendingTable.get?_of_find? hfind
    dsimp only
    cases hfree : c.pending.free slot with
    | mk pending freed =>
      have hsome : freed = some command := (congrArg Prod.snd hfree).symm.trans hget
      subst hsome
      rfl

/-- Whatever a status says, it releases its number. -/
theorem status_pending (c : Coordinator ρ σ) (seq : SequenceNumber) (status : UInt16) :
    (c.status seq status).after.pending = (c.pending.release seq).1 := by
  rw [status_eq_release]
  cases hrelease : c.pending.release seq with
  | mk pending released =>
    cases released with
    | some command => rfl
    | none =>
      have hfind : c.pending.find? seq = none := by
        rw [← PendingTable.release_snd_eq_none_iff, hrelease]
      rw [PendingTable.release, hfind] at hrelease
      exact congrArg Prod.fst hrelease

variable [Radio ρ] [KeyValueStore σ]

/-- The kinds of events that tell the outcome of a command. -/
def outcomeKinds : List EventKind := [.commandConfirmed, .commandFailed, .commandTimeout]

theorem command?_eq_none_of_kind {e : Event} (h : e.kind ∉ outcomeKinds) : e.command? = none := by
  cases e with
  | commandConfirmed | commandFailed | commandTimeout => simp [Event.kind, outcomeKinds] at h
  | _ => rfl

/-- Calls that do not concern commands tell no outcome. -/
theorem command?_of_quiet {c : Coordinator ρ σ} {now : Moment} {call : Call} {e : Event}
    (hquiet : call.movesCommands = false) (he : e ∈ (c.perform now call).events) :
    e.command? = none := by
  have hother : ∀ kind ∈ call.kinds, kind ∉ outcomeKinds := by
    cases call with
    | status | sweep | send => cases hquiet
    | _ => simp [Call.kinds, outcomeKinds]
  exact command?_eq_none_of_kind (hother _ (kind_mem_kinds he))

/-! ### Settled tables -/

omit [KeyValueStore σ] in
theorem SendEnd.settled {c : Coordinator ρ σ} {now : Moment} {device : Eui64} {endpoint : UInt8}
    {request : Request} {s : Step ρ σ CorrelationId} {exchanges : List Exchange}
    (hend : SendEnd c now device endpoint request s exchanges) (h : c.pending.Settled) :
    s.after.pending.Settled := by
  cases hend with
  | unfit | untargeted | full | rejected => exact h
  | accepted _ _ halloc => exact h.accept (PendingTable.alloc_eq_ok halloc).1

/-- Every call finds a settled table and leaves one. -/
theorem settled_perform {c : Coordinator ρ σ} (h : c.pending.Settled) (now : Moment) (call : Call) :
    (c.perform now call).after.pending.Settled := by
  cases hmoves : call.movesCommands with
  | false =>
    rw [((c.framed_perform now _).commands hmoves).1]
    exact h
  | true =>
    cases call with
    | status seq status =>
      show (c.status seq status).after.pending.Settled
      rw [status_pending]
      exact h.release seq
    | sweep => exact h.sweep now.ticks
    | send device endpoint request => exact (sendEnd h now device endpoint request).settled h
    | _ => cases hmoves

omit [KeyValueStore σ] in
theorem SendEnd.dimensions {c : Coordinator ρ σ} {now : Moment} {device : Eui64} {endpoint : UInt8}
    {request : Request} {s : Step ρ σ CorrelationId} {exchanges : List Exchange}
    (hend : SendEnd c now device endpoint request s exchanges) :
    s.after.pending.capacity = c.pending.capacity ∧
      s.after.pending.timeout = c.pending.timeout := by
  cases hend with
  | unfit | untargeted | full | rejected => exact ⟨rfl, rfl⟩
  | accepted =>
    constructor
    · exact List.length_set.trans (PendingTable.capacity_release ..)
    · exact PendingTable.timeout_release ..

/-- Assumes: a settled table. No call changes how many slots there are or when a command is too
old. -/
theorem dimensions_perform {c : Coordinator ρ σ} (h : c.pending.Settled) (now : Moment)
    (call : Call) :
    (c.perform now call).after.pending.capacity = c.pending.capacity ∧
      (c.perform now call).after.pending.timeout = c.pending.timeout := by
  cases hmoves : call.movesCommands with
  | false =>
    rw [((c.framed_perform now _).commands hmoves).1]
    exact ⟨rfl, rfl⟩
  | true =>
    cases call with
    | status seq status =>
      show (c.status seq status).after.pending.capacity = c.pending.capacity ∧
        (c.status seq status).after.pending.timeout = c.pending.timeout
      rw [status_pending]
      exact ⟨PendingTable.capacity_release .., PendingTable.timeout_release ..⟩
    | sweep => exact ⟨List.length_map _, rfl⟩
    | send device endpoint request =>
      exact (sendEnd h now device endpoint request).dimensions
    | _ => cases hmoves

/-! ### Pasts -/

section Past

variable {others : Registry → Registry → Prop} {config : AdapterConfig}
  {corrections : CorrectionTable} {c : Coordinator ρ σ} {h : History ρ σ}

/-- Between calls the table of pending commands is settled. -/
theorem Past.settled (hpast : Past others config corrections c h) : c.pending.Settled :=
  hpast.preserves (P := fun c ↦ c.pending.Settled) (fun _ _ ↦ PendingTable.settled_empty _ _)
    (fun _ now call hsettled ↦ settled_perform hsettled now call) fun _ _ _ _ _ hsettled ↦ hsettled

/-- How many slots there are, and when a command is too old, stays as it was set. -/
theorem Past.dimensions (hpast : Past others config corrections c h) :
    c.pending.capacity = config.maxPending ∧ c.pending.timeout = config.commandTimeout := by
  induction hpast with
  | made => exact ⟨List.length_replicate, rfl⟩
  | called hpast now call ih =>
    have hsame := dimensions_perform hpast.settled now call
    exact ⟨hsame.1.trans ih.1, hsame.2.trans ih.2⟩
  | told _ ih => exact ih
  | changed _ _ _ _ ih => exact ih

/-- Every call found a settled table. -/
theorem Past.settled_before (hpast : Past others config corrections c h) {t : Turn ρ σ}
    (ht : t ∈ h.turns) : t.before.pending.Settled := by
  obtain ⟨_, hbefore, -⟩ := hpast.before ht
  exact hbefore.settled

end Past

theorem settled_run (config : AdapterConfig) (corrections : CorrectionTable) (radio : ρ)
    (store : Option σ) (calls : List (Moment × Call)) :
    ((new config corrections radio store).run calls).pending.Settled := by
  obtain ⟨_, hpast, -⟩ := past_run Eq config corrections radio store calls
  exact hpast.settled

/-- Every turn of a run finds a settled table. -/
theorem settled_of_mem_turns {config : AdapterConfig} {corrections : CorrectionTable} {radio : ρ}
    {store : Option σ} {calls : List (Moment × Call)} {t : Turn ρ σ}
    (h : t ∈ (new config corrections radio store).turns calls) : t.before.pending.Settled := by
  obtain ⟨_, hpast, hturns, -⟩ := past_run Eq config corrections radio store calls
  rw [← hturns] at h
  exact hpast.settled_before h

end MeshBridge.Coordinator
