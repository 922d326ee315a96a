import MeshBridge.Proofs.Coordinator.Accounting
import Mathlib.Logic.Function.Basic
/-!
Statuses reach the right command. The sequence numbers wrap, so a number may have been given to many
commands; the one that is awaited under it is the one it was given to last, as long as no outcome of
that one was told. `Turn.await` keeps a record of this beside the run, read off what the radio
accepted, and `Turn.tracks` says that the slots agree with it after every call. So a status settles
the command that is awaited under its number and no other.
-/

set_option autoImplicit false
set_option relaxedAutoImplicit false

namespace MeshBridge.Coordinator

variable {ρ σ : Type}

/-! ### What is awaited under a number -/

/-- A command that the radio accepted and that has no outcome yet. -/
structure Awaited where
  id : CorrelationId
  /-- When it was sent, in milliseconds. -/
  created : Nat

/-- What is awaited of a command in a slot. -/
def awaitedOf (command : PendingCommand) : Awaited := ⟨command.id, command.created⟩

variable [Radio ρ] [KeyValueStore σ]

/-- What is awaited under each number after a turn. A command that is accepted under a number takes
the place of the one before; a status ends what is awaited under its number, and a sweep all that is
too old. -/
def Turn.await (t : Turn ρ σ) (awaited : SequenceNumber → Option Awaited) :
    SequenceNumber → Option Awaited :=
  match t.accepted? with
  | some seq => Function.update awaited seq (some ⟨t.before.nextId, t.now.ticks⟩)
  | none =>
    match t.call with
    | .status seq _ => Function.update awaited seq none
    | .sweep => fun seq ↦
      (awaited seq).filter fun a ↦ t.now.ticks - a.created < t.before.config.commandTimeout
    | _ => awaited

/-- What is awaited under each number after a run. -/
def awaited (c : Coordinator ρ σ) (calls : List (Moment × Call)) :
    SequenceNumber → Option Awaited :=
  (c.turns calls).foldl (fun awaited t ↦ t.await awaited) fun _ ↦ none

theorem awaited_concat (c : Coordinator ρ σ) (calls : List (Moment × Call))
    (timed : Moment × Call) :
    c.awaited (calls ++ [timed]) = (c.nextTurn calls timed).await (c.awaited calls) := by
  rw [awaited, turns_concat, List.foldl_concat]
  rfl

theorem Turn.await_of_accepted {t : Turn ρ σ} (awaited : SequenceNumber → Option Awaited)
    {seq : SequenceNumber} (h : t.accepted? = some seq) :
    t.await awaited = Function.update awaited seq (some ⟨t.before.nextId, t.now.ticks⟩) := by
  rw [Turn.await, h]

theorem Turn.await_of_not_accepted {t : Turn ρ σ} (awaited : SequenceNumber → Option Awaited)
    (h : t.accepted? = none) :
    t.await awaited =
      match t.call with
      | .status seq _ => Function.update awaited seq none
      | .sweep => fun seq ↦
        (awaited seq).filter fun a ↦ t.now.ticks - a.created < t.before.config.commandTimeout
      | _ => awaited := by
  rw [Turn.await, h]

/-- A command that is awaited after a turn was accepted in it or awaited before it. -/
theorem Turn.await_eq_some {t : Turn ρ σ} {awaited : SequenceNumber → Option Awaited}
    {seq : SequenceNumber} {a : Awaited} (h : t.await awaited seq = some a) :
    t.accepted? = some seq ∧ a = ⟨t.before.nextId, t.now.ticks⟩ ∨
      t.accepted? ≠ some seq ∧ awaited seq = some a := by
  cases haccepted : t.accepted? with
  | some other =>
    rw [Turn.await_of_accepted awaited haccepted] at h
    by_cases hsame : seq = other
    · subst hsame
      rw [Function.update_self] at h
      exact Or.inl ⟨rfl, (Option.some.inj h).symm⟩
    · rw [Function.update_of_ne hsame] at h
      exact Or.inr ⟨fun heq ↦ hsame (Option.some.inj heq).symm, h⟩
  | none =>
    right
    refine ⟨by simp, ?_⟩
    rw [Turn.await_of_not_accepted awaited haccepted] at h
    obtain ⟨c, now, call⟩ := t
    cases call with
    | status other status =>
      change Function.update awaited other none seq = some a at h
      by_cases hsame : seq = other
      · subst hsame
        rw [Function.update_self] at h
        cases h
      · rwa [Function.update_of_ne hsame] at h
    | sweep => exact (Option.filter_eq_some_iff.1 h).1
    | _ => exact h

/-! ### Slots and what is awaited -/

/-- The slots of a coordinator hold what is awaited. -/
structure Tracks (c : Coordinator ρ σ) (awaited : SequenceNumber → Option Awaited) : Prop where
  settled : c.pending.Settled
  timeout : c.pending.timeout = c.config.commandTimeout
  held : ∀ seq, awaited seq = (c.pending.release seq).2.map awaitedOf

theorem Turn.await_of_quiet {t : Turn ρ σ} (awaited : SequenceNumber → Option Awaited)
    (hquiet : t.call.movesCommands = false) : t.await awaited = awaited := by
  obtain ⟨c, now, call⟩ := t
  have hother : ∀ device endpoint request, call ≠ .send device endpoint request := by
    rintro device endpoint request rfl
    cases hquiet
  have haccepted := (answers_of_not_send (t := ⟨c, now, call⟩) hother).1
  cases call with
  | status | sweep | send => cases hquiet
  | _ => exact await_of_not_accepted awaited haccepted

/-- A send keeps the slots in agreement with what is awaited. -/
theorem Turn.held_of_send {c : Coordinator ρ σ} {awaited : SequenceNumber → Option Awaited}
    (h : Tracks c awaited) (now : Moment) (device : Eui64) (endpoint : UInt8) (request : Request)
    (seq : SequenceNumber) :
    (Turn.mk c now (.send device endpoint request)).await awaited seq =
      ((c.send now device endpoint request).after.pending.release seq).2.map awaitedOf := by
  have hend := sendEnd h.settled now device endpoint request
  have haccepted : (Turn.mk c now (.send device endpoint request)).accepted? =
    (Turn.mk c now (.send device endpoint request)).exchanges.findSome? Exchange.accepted? := rfl
  generalize (Turn.mk c now (.send device endpoint request)).exchanges = exchanges
    at hend haccepted
  generalize c.send now device endpoint request = s at hend ⊢
  cases hend with
  | unfit | untargeted | full | rejected =>
    rw [await_of_not_accepted awaited haccepted]
    exact h.held seq
  | @accepted address _ slot _ other _ _ halloc _ =>
    obtain ⟨hslot, hfree, -⟩ := PendingTable.alloc_eq_ok halloc
    rw [await_of_accepted awaited haccepted, h.settled.release_accept hslot hfree]
    by_cases hsame : seq = other
    · subst hsame
      rw [Function.update_self, if_pos rfl]
      rfl
    · rw [Function.update_of_ne hsame, if_neg hsame]
      exact h.held seq

/-- The slots hold what is awaited after a call if they did before it. -/
theorem Turn.tracks {t : Turn ρ σ} {awaited : SequenceNumber → Option Awaited}
    (h : Tracks t.before awaited) : Tracks t.after (t.await awaited) where
  settled := settled_perform h.settled t.now t.call
  timeout := by
    show (t.before.perform t.now t.call).after.pending.timeout =
      (t.before.perform t.now t.call).after.config.commandTimeout
    rw [(dimensions_perform h.settled t.now t.call).2, h.timeout,
      (framed_perform ..).config]
  held := by
    intro seq
    obtain ⟨c, now, call⟩ := t
    cases hmoves : call.movesCommands with
    | false =>
      rw [await_of_quiet awaited hmoves, h.held seq]
      show _ = ((c.perform now call).after.pending.release seq).2.map awaitedOf
      rw [((c.framed_perform now call).commands hmoves).1]
    | true =>
      cases call with
      | send device endpoint request => exact held_of_send h now device endpoint request seq
      | sweep =>
        have haccepted := (answers_of_not_send (t := ⟨c, now, .sweep⟩) (by simp)).1
        rw [await_of_not_accepted awaited haccepted]
        show ((awaited seq).filter fun a ↦ now.ticks - a.created < c.config.commandTimeout) =
          ((c.pending.sweep now.ticks).1.release seq).2.map awaitedOf
        rw [h.settled.release_sweep, h.held seq, Option.filter_map]
        congr 2
        funext command
        have htimeout : c.pending.timeout = c.config.commandTimeout := h.timeout
        rw [Bool.eq_iff_iff]
        simp only [PendingTable.isExpired, awaitedOf, htimeout, Function.comp_apply,
          Bool.not_eq_true', decide_eq_false_iff_not, Nat.not_le]
        exact decide_eq_true_iff
      | status other status =>
        have haccepted := (answers_of_not_send (t := ⟨c, now, .status other status⟩) (by simp)).1
        rw [await_of_not_accepted awaited haccepted]
        show Function.update awaited other none seq =
          ((c.status other status).after.pending.release seq).2.map awaitedOf
        have hrelease := h.settled.release_release other seq
        rw [status_pending, hrelease]
        by_cases hsame : seq = other
        · subst hsame
          rw [Function.update_self, if_pos rfl]
          rfl
        · rw [Function.update_of_ne hsame, if_neg hsame]
          exact h.held seq
      | _ => cases hmoves

/-! ### Runs -/

/-- A turn is the last one in which a frame was accepted under a number. -/
def LastAccepted (turns : List (Turn ρ σ)) (seq : SequenceNumber) (t : Turn ρ σ) : Prop :=
  ∃ earlier later, turns = earlier ++ t :: later ∧ t.accepted? = some seq ∧
    ∀ u ∈ later, u.accepted? ≠ some seq

theorem LastAccepted.mem {turns : List (Turn ρ σ)} {seq : SequenceNumber} {t : Turn ρ σ}
    (h : LastAccepted turns seq t) : t ∈ turns ∧ t.accepted? = some seq := by
  obtain ⟨earlier, later, rfl, haccepted, -⟩ := h
  exact ⟨List.mem_append_right _ List.mem_cons_self, haccepted⟩

/-- The command that is awaited under a number is the last one accepted under it. -/
theorem lastAccepted_of_awaited {c : Coordinator ρ σ} {calls : List (Moment × Call)}
    {seq : SequenceNumber} {a : Awaited} (h : c.awaited calls seq = some a) :
    ∃ t, LastAccepted (c.turns calls) seq t ∧ a = ⟨t.before.nextId, t.now.ticks⟩ := by
  induction calls using List.reverseRecOn generalizing a with
  | nil => cases h
  | append_singleton calls timed ih =>
    rw [awaited_concat] at h
    rw [turns_concat]
    rcases Turn.await_eq_some h with ⟨haccepted, ha⟩ | ⟨hother, hbefore⟩
    · exact ⟨_, ⟨c.turns calls, [], rfl, haccepted, by simp⟩, ha⟩
    · obtain ⟨t, ⟨earlier, later, hturns, haccepted, hlater⟩, ha⟩ := ih hbefore
      refine ⟨t, ⟨earlier, later ++ [c.nextTurn calls timed], ?_, haccepted, ?_⟩, ha⟩
      · rw [hturns, List.append_assoc, List.cons_append]
      · intro u hu
        rcases List.mem_append.1 hu with hu | hu
        · exact hlater u hu
        · rw [List.mem_singleton.1 hu]
          exact hother

section Run

variable (config : AdapterConfig) (corrections : CorrectionTable) (radio : ρ) (store : Option σ)

/-- At every point of a run the slots hold what is awaited. -/
theorem tracks_run (calls : List (Moment × Call)) :
    Tracks ((new config corrections radio store).run calls)
      ((new config corrections radio store).awaited calls) := by
  induction calls using List.reverseRecOn with
  | nil =>
    refine ⟨PendingTable.settled_empty _ _, rfl, fun seq ↦ ?_⟩
    have hnone : ((PendingTable.empty config.maxPending config.commandTimeout).release seq).2 =
        none := by
      rw [PendingTable.release_snd_eq_none_iff, PendingTable.find?_eq_none_iff]
      intro i command hget
      rw [PendingTable.get?_empty] at hget
      cases hget
    show none = Option.map awaitedOf
      ((PendingTable.empty config.maxPending config.commandTimeout).release seq).2
    rw [hnone]
    rfl
  | append_singleton calls timed ih =>
    rw [run_concat, awaited_concat]
    exact Turn.tracks ih

/-- A run keeps the number of slots. -/
theorem capacity_run (calls : List (Moment × Call)) :
    ((new config corrections radio store).run calls).pending.capacity = config.maxPending := by
  obtain ⟨_, hpast, -⟩ := past_run Eq config corrections radio store calls
  exact hpast.dimensions.1

/-- Assumes: fewer than 2^32 attempts. No outcome of a command that is awaited was told. -/
theorem outcomes_of_awaited {calls : List (Moment × Call)}
    (hattempts : attempts calls < UInt32.size) {seq : SequenceNumber} {a : Awaited}
    (ha : (new config corrections radio store).awaited calls seq = some a) :
    outcomes a.id ((new config corrections radio store).log calls) = [] := by
  have hnodup := handed_nodup config corrections radio store hattempts
  rw [(tracks_run config corrections radio store calls).held seq] at ha
  obtain ⟨command, hcommand, rfl⟩ := Option.map_eq_some_iff.1 ha
  obtain ⟨slot, hget, -, -⟩ := PendingTable.release_eq_some hcommand
  have hpos := PendingTable.holding_pos_iff.2 ⟨slot, command, hget, rfl⟩
  have hle := List.nodup_iff_count_le_one.1 hnodup command.id
  rw [← run_balance] at hle
  show outcomes command.id _ = []
  exact List.length_eq_zero_iff.1 (by omega)

/-- Assumes: fewer than 2^32 attempts. A command that was accepted and of which no outcome was told
is awaited under some number. -/
theorem awaited_of_outcomes {calls : List (Moment × Call)}
    (hattempts : attempts calls < UInt32.size) {id : CorrelationId}
    (hid : id ∈ (new config corrections radio store).handed calls)
    (hsilent : outcomes id ((new config corrections radio store).log calls) = []) :
    ∃ seq a, (new config corrections radio store).awaited calls seq = some a ∧ a.id = id := by
  have htracks := tracks_run config corrections radio store calls
  have hnodup := handed_nodup config corrections radio store hattempts
  have hone := run_balance config corrections radio store calls id
  rw [hsilent, List.count_eq_one_of_mem hnodup hid, List.length_nil] at hone
  obtain ⟨slot, command, hget, hcommand⟩ := PendingTable.holding_pos_iff.1
    (by omega : 0 < ((new config corrections radio store).run calls).pending.holding id)
  obtain ⟨seq, hseq⟩ := htracks.settled.numbered hget
  refine ⟨seq, awaitedOf command, ?_, hcommand⟩
  rw [htracks.held seq, htracks.settled.release_eq_some_iff.2 ⟨slot, hget, hseq⟩]
  rfl

/-- Assumes: fewer than 2^32 attempts. What is awaited under a number is the command it was given to
last, just if no outcome of that command was told: then it is still in a slot. -/
theorem awaited_eq_some_iff {calls : List (Moment × Call)}
    (hattempts : attempts calls < UInt32.size) (seq : SequenceNumber) (a : Awaited) :
    (new config corrections radio store).awaited calls seq = some a ↔
      ∃ t, LastAccepted ((new config corrections radio store).turns calls) seq t ∧
        a = ⟨t.before.nextId, t.now.ticks⟩ ∧
        outcomes a.id ((new config corrections radio store).log calls) = [] := by
  have hhanded {t : Turn ρ σ} (ht : t ∈ (new config corrections radio store).turns calls)
      {number : SequenceNumber} (hnumber : t.accepted? = some number) :
      t.before.nextId ∈ t.handed := by
    rw [((Turn.handing (settled_of_mem_turns ht)).of_accepted hnumber).2]
    exact List.mem_singleton_self _
  constructor
  · intro ha
    obtain ⟨t, hlast, hat⟩ := lastAccepted_of_awaited ha
    exact ⟨t, hlast, hat, outcomes_of_awaited config corrections radio store hattempts ha⟩
  · rintro ⟨t, hlast, rfl, hsilent⟩
    obtain ⟨ht, haccepted⟩ := hlast.mem
    have hidt := hhanded ht haccepted
    obtain ⟨other, b, hb, hid⟩ := awaited_of_outcomes config corrections radio store hattempts
      (List.mem_flatMap.2 ⟨t, ht, hidt⟩) hsilent
    obtain ⟨u, hlastu, rfl⟩ := lastAccepted_of_awaited hb
    obtain ⟨hu, hacceptedu⟩ := hlastu.mem
    have hidu : t.before.nextId ∈ u.handed := by
      rw [← hid]
      exact hhanded hu hacceptedu
    have htu : t = u :=
      eq_of_mem_handed config corrections radio store hattempts ht hu hidt hidu
    subst htu
    have hseq : seq = other := Option.some.inj (haccepted.symm.trans hacceptedu)
    rw [hseq, hb]

end Run

/-- After these calls on a coordinator a status settles the command that is awaited under its
number, and no other. -/
structure Answering (config : AdapterConfig) (start : Coordinator ρ σ)
    (calls : List (Moment × Call)) : Prop where
  /-- Every command that the radio accepted was given back to its sender. -/
  issued_of_accepted : ∀ t ∈ start.turns calls, ∀ seq, t.accepted? = some seq →
    t.issued? = some t.before.nextId
  /-- As long as the identifiers are fresh, what is awaited under a number is the last command that
  was accepted under it, unless an outcome of that was told. -/
  awaited_iff : attempts calls < UInt32.size → ∀ seq a, start.awaited calls seq = some a ↔
    ∃ t, LastAccepted (start.turns calls) seq t ∧ a = ⟨t.before.nextId, t.now.ticks⟩ ∧
      outcomes a.id (start.log calls) = []
  /-- The slot of the command that is awaited is emptied, no other slot is touched, and the outcome
  is told under the identifier of that command. -/
  status_of_awaited : ∀ seq status a, start.awaited calls seq = some a →
    ∃ slot command, (start.run calls).pending.get? slot = some command ∧ command.id = a.id ∧
      command.sequence = some seq ∧
      (start.run calls).status seq status =
        ⟨{ start.run calls with pending := ((start.run calls).pending.free slot).1 },
          [outcomeOf a.id status], .ok ()⟩ ∧
      ∀ i, ((start.run calls).status seq status).after.pending.get? i =
        if i = slot then none else (start.run calls).pending.get? i
  /-- Any other status is refused and changes nothing. -/
  status_of_not_awaited : ∀ seq status, start.awaited calls seq = none →
    (start.run calls).status seq status =
      (start.run calls).refuse (.notFound ("pending sequence " ++ toString seq))
  /-- Every command in a slot has a sequence number, and no two have the same one. -/
  settled : (start.run calls).pending.Settled
  inUse_le : (start.run calls).pending.inUse ≤ min config.maxPending 256
  /-- Whatever number the radio gives to the command of a slot just taken, it can be bound. -/
  bind_reclaim : ∀ id name now allocated slot seq,
    (start.run calls).pending.alloc id name now = .ok (allocated, slot) →
      ∃ bound, (reclaim allocated slot seq).1.bind slot seq = .ok bound

/-- At every point of a run, whatever numbers the radio gave, a status settles the command that is
awaited under its number, and no other. -/
theorem answering_run (config : AdapterConfig) (corrections : CorrectionTable) (radio : ρ)
    (store : Option σ) (calls : List (Moment × Call)) :
    Answering config (new config corrections radio store) calls := by
  have htracks := tracks_run config corrections radio store calls
  have hcapacity := capacity_run config corrections radio store calls
  refine ⟨?_, ?_, ?_, ?_, htracks.settled, ?_, ?_⟩
  · intro t ht seq haccepted
    exact ((Turn.handing (settled_of_mem_turns ht)).of_accepted haccepted).1
  · exact fun hattempts ↦ awaited_eq_some_iff config corrections radio store hattempts
  · intro seq status a ha
    rw [htracks.held seq] at ha
    obtain ⟨command, hcommand, rfl⟩ := Option.map_eq_some_iff.1 ha
    obtain ⟨slot, hget, hseq, hfree⟩ := PendingTable.release_eq_some hcommand
    refine ⟨slot, command, hget, rfl, hseq, ?_, ?_⟩
    · rw [status_eq_release, ← hfree]
      split
      · next pending settled hrelease =>
        rw [hrelease] at hcommand ⊢
        cases hcommand
        rfl
      · next hrelease =>
        rw [hrelease] at hcommand
        cases hcommand
    · intro i
      rw [status_pending, hfree, PendingTable.get?_free]
  · intro seq status hnone
    rw [htracks.held seq, Option.map_eq_none_iff] at hnone
    rw [status_eq_release]
    split
    · next hrelease =>
      rw [hrelease] at hnone
      cases hnone
    · rfl
  · rw [← hcapacity]
    exact Nat.le_min.2 ⟨PendingTable.inUse_le_capacity _, htracks.settled.inUse_le⟩
  · intro id name now allocated slot seq halloc
    exact ⟨_, (htracks.settled.bind_reclaim halloc seq).1⟩

end MeshBridge.Coordinator
