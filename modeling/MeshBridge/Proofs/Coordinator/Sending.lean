import MeshBridge.Coordinator.Run
import MeshBridge.Proofs.Coordinator.Frames
import MeshBridge.Proofs.Coordinator.Slots
/-!
The ends a send can come to, each with the guard that leads to it, what it leaves, and what it asked
of the radio (`SendEnd`). `sendEnd` says that every send comes to one of them when the table of
pending commands is settled. Binding the sequence number is refused when another command has it;
`bind_reclaim` says that this never happens, so it is not among the ends.
-/

set_option autoImplicit false
set_option relaxedAutoImplicit false

namespace MeshBridge

namespace PendingTable

variable {t allocated : PendingTable} {i slot now : Nat} {id : CorrelationId} {name : String}
  {command : PendingCommand} {seq : SequenceNumber}

/-! ### The table after a command was accepted -/

/-- The table after the radio accepted a command: the command that had the number before is out of
it, and the new one is in its slot. -/
def accept (t : PendingTable) (slot : Nat) (command : PendingCommand) (seq : SequenceNumber) :
    PendingTable :=
  { (t.release seq).1 with
    slots := (t.release seq).1.slots.set slot (some { command with sequence := some seq }) }

theorem capacity_release (t : PendingTable) (seq : SequenceNumber) :
    (t.release seq).1.capacity = t.capacity := by
  unfold release
  split
  · rfl
  · exact List.length_set

theorem timeout_release (t : PendingTable) (seq : SequenceNumber) :
    (t.release seq).1.timeout = t.timeout := by
  unfold release
  split <;> rfl

/-- A slot that was free stays free when a number is released. -/
theorem Settled.get?_release_eq_none (h : t.Settled) (hfree : t.get? slot = none)
    (seq : SequenceNumber) : (t.release seq).1.get? slot = none := by
  cases hget : (t.release seq).1.get? slot with
  | none => rfl
  | some command =>
    rw [h.get?_release] at hget
    rw [hfree] at hget
    cases hget.1

/-- The slot given out holds the accepted command, and every other slot what it held, but for the
command that had the number. -/
theorem get?_accept (hslot : slot < t.capacity) :
    (t.accept slot command seq).get? i =
      if i = slot then some { command with sequence := some seq } else (t.release seq).1.get? i :=
  get?_set _ (by rw [capacity_release]; exact hslot)

theorem Settled.accept (h : t.Settled) (hslot : slot < t.capacity) :
    (t.accept slot command seq).Settled where
  numbered hget := by
    rw [get?_accept hslot] at hget
    split_ifs at hget
    · cases hget
      exact ⟨seq, rfl⟩
    · exact (h.release seq).numbered hget
  distinct {i j first second} hfirst hsecond hsame := by
    rw [get?_accept hslot] at hfirst hsecond
    split_ifs at hfirst hsecond with hi hj hj
    · rw [hi, hj]
    · cases hfirst
      exact absurd hsame.symm (h.get?_release.1 hsecond).2
    · cases hsecond
      exact absurd hsame (h.get?_release.1 hfirst).2
    · exact (h.release seq).distinct hfirst hsecond hsame

/-- The accepted command is counted, and the one that had the number before no longer is. -/
theorem Settled.holding_accept (h : t.Settled) (hslot : slot < t.capacity)
    (hfree : t.get? slot = none) (command : PendingCommand) (seq : SequenceNumber)
    (id : CorrelationId) :
    (t.accept slot command seq).holding id + ((t.release seq).2.any (·.id = id)).toNat =
      t.holding id + (decide (command.id = id)).toNat := by
  have hslotAfter : slot < (t.release seq).1.capacity := by
    rw [capacity_release]
    exact hslot
  have hset := holding_set { command with sequence := some seq } id hslotAfter
    (h.get?_release_eq_none hfree seq)
  have hrelease := holding_release t id seq
  show PendingTable.holding { (t.release seq).1 with slots := _ } id + _ = _
  rw [hset, ← hrelease]
  exact Nat.add_right_comm _ _ _

/-- Assumes: a settled table. The accepted command is held under its number, and what was held under
any other number still is. -/
theorem Settled.release_accept (h : t.Settled) (hslot : slot < t.capacity)
    (hfree : t.get? slot = none) (command : PendingCommand) (seq other : SequenceNumber) :
    ((t.accept slot command seq).release other).2 =
      if other = seq then some { command with sequence := some seq } else (t.release other).2 := by
  have haccept : (t.accept slot command seq).Settled := h.accept hslot
  split_ifs with hsame
  · subst hsame
    rw [haccept.release_eq_some_iff]
    exact ⟨slot, by rw [get?_accept hslot, if_pos rfl], rfl⟩
  · have hrelease := h.release_release seq other
    rw [if_neg hsame] at hrelease
    rw [← hrelease]
    ext found
    rw [haccept.release_eq_some_iff, (h.release seq).release_eq_some_iff]
    constructor
    · rintro ⟨i, hget, hseq⟩
      rw [get?_accept hslot] at hget
      split_ifs at hget with hi
      · cases hget
        exact absurd (Option.some.inj hseq).symm hsame
      · exact ⟨i, hget, hseq⟩
    · rintro ⟨i, hget, hseq⟩
      have hi : i ≠ slot := by
        intro heq
        rw [heq, h.get?_release_eq_none hfree] at hget
        cases hget
      refine ⟨i, ?_, hseq⟩
      rw [get?_accept hslot, if_neg hi, hget]

/-- Replacing an entry by one that a test takes alike does not change where the test first holds. -/
theorem findIdx?_set_of_eq {α : Type} (p : α → Bool) {entries : List α} {a : α}
    (hi : i < entries.length) (h : p a = p entries[i]) :
    (entries.set i a).findIdx? p = entries.findIdx? p := by
  have hmap : (entries.set i a).map p = entries.map p := by
    rw [List.map_set, h, ← List.getElem_map p (h := by simpa using hi), List.set_getElem_self]
  calc (entries.set i a).findIdx? p = ((entries.set i a).map p).findIdx? id :=
        (List.findIdx?_map (f := p) (p := id)).symm
    _ = (entries.map p).findIdx? id := by rw [hmap]
    _ = entries.findIdx? p := List.findIdx?_map (f := p) (p := id)

/-- A number is found where it was after a command without it took a free slot. -/
theorem find?_set (hslot : slot < t.capacity) (hfree : t.get? slot = none)
    (command : PendingCommand) (seq : SequenceNumber) (hother : command.sequence ≠ some seq) :
    ({ t with slots := t.slots.set slot (some command) } : PendingTable).find? seq =
      t.find? seq := by
  have hlength : slot < t.slots.length := hslot
  have hnone : t.slots[slot] = none := by
    simpa only [get?, List.getElem?_eq_getElem hlength, Option.join_some] using hfree
  refine findIdx?_set_of_eq _ hlength ?_
  simp [hnone, hother]

/-- A release does not touch a command without the number. -/
theorem release_set (hslot : slot < t.capacity) (hfree : t.get? slot = none)
    (hother : command.sequence ≠ some seq) :
    ({ t with slots := t.slots.set slot (some command) } : PendingTable).release seq =
      ({ (t.release seq).1 with slots := (t.release seq).1.slots.set slot (some command) },
        (t.release seq).2) := by
  unfold release
  rw [find?_set hslot hfree command seq hother]
  cases hstale : t.find? seq with
  | none => rfl
  | some stale =>
    have hne : stale ≠ slot := by
      intro hsame
      obtain ⟨old, hold, -⟩ := get?_of_find? hstale
      rw [hsame, hfree] at hold
      cases hold
    simp only [free, get?_set (i := stale) _ hslot, if_neg hne, List.set_comm _ _ hne.symm]

/-- No command has a number after it was released. -/
theorem Settled.find?_release (h : t.Settled) (seq : SequenceNumber) :
    (t.release seq).1.find? seq = none :=
  find?_eq_none_iff.2 fun _ _ hget ↦ (h.get?_release.1 hget).2

/-- Where a number is not the slot's own, reclaiming it is releasing it. -/
theorem reclaim_of_ne (hne : t.find? seq ≠ some slot) :
    Coordinator.reclaim t slot seq =
      ((t.release seq).1, (t.release seq).2.toList.map fun old ↦ .commandTimeout old.id) := by
  unfold Coordinator.reclaim release
  cases hstale : t.find? seq with
  | none => rfl
  | some stale =>
    obtain ⟨old, hold, -⟩ := get?_of_find? hstale
    have hother : stale ≠ slot := fun hsame ↦ hne (by rw [hstale, hsame])
    have hfree : t.free stale = ((t.free stale).1, some old) := Prod.ext rfl hold
    simp only [Option.filter_some, hother, ne_eq, not_false_eq_true, decide_true, if_true]
    rw [hfree]
    rfl

/-- Assumes: a settled table, and a slot just given out. Whatever number the radio gives, the
command that has it is taken out and told as timed out, and the number is bound to the slot without
fail. -/
theorem Settled.bind_reclaim (h : t.Settled) (halloc : t.alloc id name now = .ok (allocated, slot))
    (seq : SequenceNumber) :
    (Coordinator.reclaim allocated slot seq).1.bind slot seq =
        .ok (t.accept slot ⟨id, none, now, name⟩ seq) ∧
      (Coordinator.reclaim allocated slot seq).2 =
        (t.release seq).2.toList.map fun old ↦ .commandTimeout old.id := by
  obtain ⟨hslot, hfree, rfl⟩ := alloc_eq_ok halloc
  have hfind := find?_set hslot hfree ⟨id, none, now, name⟩ seq (by simp)
  have hne : t.find? seq ≠ some slot := by
    intro hsame
    obtain ⟨old, hold, -⟩ := get?_of_find? hsame
    rw [hfree] at hold
    cases hold
  rw [reclaim_of_ne (by rw [hfind]; exact hne), release_set hslot hfree (by simp)]
  refine ⟨?_, rfl⟩
  have hslotAfter : slot < (t.release seq).1.capacity := by
    rw [capacity_release]
    exact hslot
  have hfreeAfter := h.get?_release_eq_none hfree seq
  unfold bind
  rw [find?_set hslotAfter hfreeAfter _ _ (by simp), h.find?_release seq, get?_set _ hslotAfter]
  simp [PendingTable.accept]

end PendingTable

/-! ### Ends of a send -/

namespace Coordinator

variable {ρ σ : Type}

variable [Radio ρ]

/-- The ends of a send: the step it is and what it asked of the radio. -/
inductive SendEnd (c : Coordinator ρ σ) (now : Moment) (device : Eui64) (endpoint : UInt8)
    (request : Request) : Step ρ σ CorrelationId → List Exchange → Prop
  /-- The request is one that no radio should be handed. -/
  | unfit {f : Fault} (hcheck : request.check = .error f) :
    SendEnd c now device endpoint request (c.refuse f) []
  /-- The coordinator is not ready or the device is out of reach. -/
  | untargeted {f : Fault} (hcheck : request.check = .ok ())
      (htarget : c.target device = .error f) :
    SendEnd c now device endpoint request (c.refuse f) []
  /-- No slot is free. The identifier is used up all the same. -/
  | full {address : NetworkAddress} {f : Fault} (hcheck : request.check = .ok ())
      (htarget : c.target device = .ok address)
      (halloc : c.pending.alloc c.nextId request.name now.ticks = .error f) :
    SendEnd c now device endpoint request
      ⟨{ c with nextId := ⟨c.nextId.value + 1⟩ }, [], .error f⟩ []
  | rejected {address : NetworkAddress} {allocated : PendingTable} {slot : Nat} {radio : ρ}
      {rejection : Rejection} (hcheck : request.check = .ok ())
      (htarget : c.target device = .ok address)
      (halloc : c.pending.alloc c.nextId request.name now.ticks = .ok (allocated, slot))
      (hanswer : Radio.send ⟨address, endpoint, request⟩ c.radio = (radio, .error rejection)) :
    SendEnd c now device endpoint request
      ⟨{ c with nextId := ⟨c.nextId.value + 1⟩, radio },
        [.commandFailed c.nextId rejection.code], .error (.protocolFailure rejection.code)⟩
      [.send ⟨address, endpoint, request⟩ (.error rejection)]
  | accepted {address : NetworkAddress} {allocated : PendingTable} {slot : Nat} {radio : ρ}
      {seq : SequenceNumber} (hcheck : request.check = .ok ())
      (htarget : c.target device = .ok address)
      (halloc : c.pending.alloc c.nextId request.name now.ticks = .ok (allocated, slot))
      (hanswer : Radio.send ⟨address, endpoint, request⟩ c.radio = (radio, .ok seq)) :
    SendEnd c now device endpoint request
      ⟨{ c with
          nextId := ⟨c.nextId.value + 1⟩, radio,
          pending := c.pending.accept slot ⟨c.nextId, none, now.ticks, request.name⟩ seq },
        (c.pending.release seq).2.toList.map fun old ↦ .commandTimeout old.id, .ok c.nextId⟩
      [.send ⟨address, endpoint, request⟩ (.ok seq)]

/-- A frame the radio refused gives its slot back. -/
theorem send_of_rejected {c : Coordinator ρ σ} {now : Moment} {device : Eui64} {endpoint : UInt8}
    {request : Request} {address : NetworkAddress} {allocated : PendingTable} {slot : Nat}
    {radio : ρ} {rejection : Rejection} (hcheck : request.check = .ok ())
    (htarget : c.target device = .ok address)
    (halloc : c.pending.alloc c.nextId request.name now.ticks = .ok (allocated, slot))
    (hanswer : Radio.send ⟨address, endpoint, request⟩ c.radio = (radio, .error rejection)) :
    c.send now device endpoint request =
      ⟨{ c with nextId := ⟨c.nextId.value + 1⟩, radio },
        [.commandFailed c.nextId rejection.code], .error (.protocolFailure rejection.code)⟩ := by
  obtain ⟨-, hfree, rfl⟩ := PendingTable.alloc_eq_ok halloc
  simp only [send, hcheck, dispatch, htarget, halloc, transmit, hanswer,
    PendingTable.free_set_of_get?_eq_none _ hfree]

/-- Assumes: a settled table of pending commands. A frame the radio accepted takes the place of the
command that had its number. -/
theorem send_of_accepted {c : Coordinator ρ σ} (h : c.pending.Settled) {now : Moment}
    {device : Eui64} {endpoint : UInt8} {request : Request} {address : NetworkAddress}
    {allocated : PendingTable} {slot : Nat} {radio : ρ} {seq : SequenceNumber}
    (hcheck : request.check = .ok ()) (htarget : c.target device = .ok address)
    (halloc : c.pending.alloc c.nextId request.name now.ticks = .ok (allocated, slot))
    (hanswer : Radio.send ⟨address, endpoint, request⟩ c.radio = (radio, .ok seq)) :
    c.send now device endpoint request =
      ⟨{ c with
          nextId := ⟨c.nextId.value + 1⟩, radio,
          pending := c.pending.accept slot ⟨c.nextId, none, now.ticks, request.name⟩ seq },
        (c.pending.release seq).2.toList.map fun old ↦ .commandTimeout old.id, .ok c.nextId⟩ := by
  obtain ⟨hbind, hevents⟩ := h.bind_reclaim halloc seq
  simp only [send, hcheck, dispatch, htarget, halloc, transmit, hanswer, hbind, hevents]

variable [KeyValueStore σ]

/-- Assumes: a settled table of pending commands. Every send comes to one of the ends, and so it
does under a record, since the radio there gives the same answer. -/
theorem sendEnd {c : Coordinator ρ σ} (h : c.pending.Settled) (now : Moment) (device : Eui64)
    (endpoint : UInt8) (request : Request) :
    SendEnd c now device endpoint request (c.send now device endpoint request)
      (Turn.mk c now (.send device endpoint request)).exchanges := by
  set recorded := c.withRadio (RecordedRadio.mk c.radio []) with hrecorded
  have hexchanges : (Turn.mk c now (.send device endpoint request)).exchanges =
    (recorded.send now device endpoint request).after.radio.exchanges := rfl
  rw [hexchanges]
  cases hcheck : request.check with
  | error f =>
    simp only [send, hcheck]
    exact .unfit hcheck
  | ok =>
    have hsame : recorded.target device = c.target device := rfl
    cases htarget : c.target device with
    | error f =>
      simp only [send, hcheck, dispatch, hsame, htarget]
      exact .untargeted hcheck htarget
    | ok address =>
      cases halloc : c.pending.alloc c.nextId request.name now.ticks with
      | error f =>
        have hfull : recorded.pending.alloc recorded.nextId request.name now.ticks = .error f :=
          halloc
        simp only [send, hcheck, dispatch, hsame, htarget, halloc, hfull]
        exact .full hcheck htarget halloc
      | ok pair =>
        obtain ⟨allocated, slot⟩ := pair
        have hrecord : Radio.send ⟨address, endpoint, request⟩ recorded.radio =
            (RecordedRadio.mk (Radio.send ⟨address, endpoint, request⟩ c.radio).1
              [.send ⟨address, endpoint, request⟩
                (Radio.send ⟨address, endpoint, request⟩ c.radio).2],
              (Radio.send ⟨address, endpoint, request⟩ c.radio).2) := rfl
        cases hanswer : Radio.send ⟨address, endpoint, request⟩ c.radio with
        | mk radio answer =>
          rw [hanswer] at hrecord
          cases answer with
          | error rejection =>
            rw [send_of_rejected hcheck htarget halloc hanswer,
              send_of_rejected hcheck (hsame.trans htarget) halloc hrecord]
            exact .rejected hcheck htarget halloc hanswer
          | ok seq =>
            have hsettled : recorded.pending.Settled := h
            rw [send_of_accepted h hcheck htarget halloc hanswer,
              send_of_accepted hsettled hcheck (hsame.trans htarget) halloc hrecord]
            exact .accepted hcheck htarget halloc hanswer

end Coordinator

end MeshBridge
