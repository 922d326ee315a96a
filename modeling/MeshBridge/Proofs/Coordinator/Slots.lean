import MeshBridge.Coordinator.Pending
import Mathlib.Data.List.Perm.Subperm
/-!
What each operation does to the slots of the table of pending commands, read through `get?`. A table
is settled when every command in it has a sequence number and no two have the same one; this is how
a table is found between two calls. A settled table holds at most 256 commands, there being no more
numbers than that.

Counted over all slots, commands are neither lost nor made up: `holding_free` and `holding_sweep`
say that what leaves a slot is what the operation hands back.
-/

set_option autoImplicit false
set_option relaxedAutoImplicit false

namespace MeshBridge.PendingTable

variable {t : PendingTable} {i slot : Nat} {command : PendingCommand} {seq : SequenceNumber}

/-! ### Slots -/

/-- A slot is read off the list of slots. -/
theorem get?_eq_some_iff : t.get? i = some command ↔ t.slots[i]? = some (some command) := by
  simp [get?, Option.join_eq_some_iff]

/-- A table that was just made holds nothing. -/
@[simp] theorem get?_empty (capacity timeout : Nat) : (empty capacity timeout).get? i = none := by
  simp only [get?, empty, List.getElem?_replicate]
  split_ifs <;> rfl

/-- Only slots below the capacity hold commands. -/
theorem lt_capacity_of_get? (h : t.get? i = some command) : i < t.capacity := by
  rw [get?_eq_some_iff] at h
  exact (List.getElem?_eq_some_iff.1 h).1

/-- Writing one slot changes no other. -/
theorem get?_set (x : Option PendingCommand) (hslot : slot < t.capacity) :
    ({ t with slots := t.slots.set slot x } : PendingTable).get? i =
      if i = slot then x else t.get? i := by
  simp only [get?, List.getElem?_set]
  by_cases hi : i = slot
  · have hlength : slot < t.slots.length := hslot
    simp [hi, hlength]
  · simp [hi, Ne.symm hi]

/-- Emptying a slot empties that slot only, also where the table has no such slot. -/
@[simp] theorem get?_free : (t.free slot).1.get? i = if i = slot then none else t.get? i := by
  by_cases hslot : slot < t.capacity
  · exact get?_set none hslot
  · have hnone : t.get? slot = none := by
      by_contra hsome
      obtain ⟨command, hcommand⟩ := Option.ne_none_iff_exists'.1 hsome
      exact hslot (lt_capacity_of_get? hcommand)
    have hset : t.slots.set slot none = t.slots := List.set_eq_of_length_le (Nat.le_of_not_lt hslot)
    have hfree : (t.free slot).1 = t := by
      show ({ t with slots := t.slots.set slot none } : PendingTable) = t
      rw [hset]
    rw [hfree]
    split_ifs with hi
    · rw [hi, hnone]
    · rfl

/-- After a sweep a slot holds what it held, unless that was too old. -/
@[simp] theorem get?_sweep (now : Nat) :
    (t.sweep now).1.get? i = (t.get? i).filter fun command ↦ !t.isExpired now command := by
  simp only [get?, sweep, List.getElem?_map]
  cases t.slots[i]? with
  | none => rfl
  | some x => rfl

/-! ### Allocation -/

/-- A slot that is given out was free and is below the capacity. It then holds the command, without
a sequence number yet. -/
theorem alloc_eq_ok {id : CorrelationId} {name : String} {now : Nat} {after : PendingTable}
    (h : t.alloc id name now = .ok (after, slot)) :
    slot < t.capacity ∧ t.get? slot = none ∧
      after = { t with slots := t.slots.set slot (some ⟨id, none, now, name⟩) } := by
  unfold alloc at h
  split at h
  · cases h
  · next first hfirst =>
    cases h
    obtain ⟨hlt, hfree, -⟩ := List.findIdx?_eq_some_iff_getElem.1 hfirst
    refine ⟨hlt, ?_, rfl⟩
    simp only [get?, List.getElem?_eq_getElem hlt, Option.join_some]
    exact Option.isNone_iff_eq_none.1 hfree

/-- Giving a slot back at once leaves the table as it was. -/
theorem free_set_of_get?_eq_none (x : Option PendingCommand) (hfree : t.get? slot = none) :
    (({ t with slots := t.slots.set slot x } : PendingTable).free slot).1 = t := by
  show ({ t with slots := (t.slots.set slot x).set slot none } : PendingTable) = t
  rw [List.set_set]
  by_cases hslot : slot < t.slots.length
  · have hnone : none = t.slots[slot] := by
      simpa only [get?, List.getElem?_eq_getElem hslot, Option.join_some] using hfree.symm
    rw [hnone, List.set_getElem_self]
  · rw [List.set_eq_of_length_le (Nat.le_of_not_lt hslot)]

/-! ### Sequence numbers -/

/-- The slot found for a number holds a command with that number. -/
theorem get?_of_find? (h : t.find? seq = some slot) :
    ∃ command, t.get? slot = some command ∧ command.sequence = some seq := by
  obtain ⟨hlt, hmatch, -⟩ := List.findIdx?_eq_some_iff_getElem.1 h
  cases hslot : t.slots[slot] with
  | none => simp [hslot] at hmatch
  | some command =>
    refine ⟨command, ?_, by simpa [hslot] using hmatch⟩
    simp only [get?, List.getElem?_eq_getElem hlt, hslot, Option.join_some]

/-- No slot is found for a number just if no command has it. -/
theorem find?_eq_none_iff :
    t.find? seq = none ↔ ∀ i command, t.get? i = some command → command.sequence ≠ some seq := by
  unfold find?
  rw [List.findIdx?_eq_none_iff]
  constructor
  · intro h i command hget
    rw [get?_eq_some_iff] at hget
    simpa using h _ (List.mem_of_getElem? hget)
  · intro h x hx
    cases x with
    | none => rfl
    | some command =>
      obtain ⟨i, hi⟩ := List.mem_iff_getElem?.1 hx
      simpa using h i command (get?_eq_some_iff.2 hi)

/-- Every command in the table has a sequence number, and no two commands have the same one. -/
structure Settled (t : PendingTable) : Prop where
  numbered : ∀ {i command}, t.get? i = some command → ∃ seq, command.sequence = some seq
  distinct : ∀ {i j first second}, t.get? i = some first → t.get? j = some second →
    first.sequence = second.sequence → i = j

theorem settled_empty (capacity timeout : Nat) : (empty capacity timeout).Settled where
  numbered h := by simp at h
  distinct h := by simp at h

/-- A table stays settled when slots are emptied. -/
theorem Settled.of_sub {after : PendingTable} (h : t.Settled)
    (hsub : ∀ {i command}, after.get? i = some command → t.get? i = some command) :
    after.Settled where
  numbered hget := h.numbered (hsub hget)
  distinct hfirst hsecond := h.distinct (hsub hfirst) (hsub hsecond)

theorem Settled.free (h : t.Settled) (slot : Nat) : (t.free slot).1.Settled := by
  refine h.of_sub fun {i command} hget ↦ ?_
  rw [get?_free] at hget
  split_ifs at hget
  exact hget

theorem Settled.sweep (h : t.Settled) (now : Nat) : (t.sweep now).1.Settled := by
  refine h.of_sub fun {i command} hget ↦ ?_
  rw [get?_sweep] at hget
  exact (Option.filter_eq_some_iff.1 hget).1

/-- In a settled table the slot found for a number is the one slot with that number. -/
theorem Settled.find?_eq_some_iff (h : t.Settled) :
    t.find? seq = some slot ↔
      ∃ command, t.get? slot = some command ∧ command.sequence = some seq := by
  refine ⟨get?_of_find?, ?_⟩
  rintro ⟨command, hget, hseq⟩
  cases hfind : t.find? seq with
  | none => exact absurd hseq (find?_eq_none_iff.1 hfind slot command hget)
  | some other =>
    obtain ⟨found, hother, hfound⟩ := get?_of_find? hfind
    rw [h.distinct hother hget (hfound.trans hseq.symm)]

/-- Takes the command of a sequence number out of the table. -/
def release (t : PendingTable) (seq : SequenceNumber) : PendingTable × Option PendingCommand :=
  match t.find? seq with
  | none => (t, none)
  | some slot => t.free slot

theorem Settled.release (h : t.Settled) (seq : SequenceNumber) : (t.release seq).1.Settled := by
  unfold PendingTable.release
  split
  · exact h
  · exact h.free _

/-- Nothing is taken out just if no command has the number, and then the table is as it was. -/
theorem release_snd_eq_none_iff : (t.release seq).2 = none ↔ t.find? seq = none := by
  unfold PendingTable.release
  split
  · next hfind => exact iff_of_true rfl hfind
  · next slot hfind =>
    obtain ⟨command, hget, -⟩ := get?_of_find? hfind
    refine iff_of_false ?_ (by simp [hfind])
    show t.get? slot ≠ none
    simp [hget]

/-- After a release the table holds what it held, but for the command of the number. -/
theorem Settled.get?_release (h : t.Settled) :
    (t.release seq).1.get? i = some command ↔
      t.get? i = some command ∧ command.sequence ≠ some seq := by
  unfold PendingTable.release
  split
  · next hfind =>
    refine ⟨fun hget ↦ ⟨hget, find?_eq_none_iff.1 hfind i command hget⟩, fun hget ↦ hget.1⟩
  · next slot hfind =>
    obtain ⟨stale, hstale, hseq⟩ := get?_of_find? hfind
    rw [get?_free]
    by_cases hi : i = slot
    · subst hi
      rw [if_pos rfl]
      refine iff_of_false (by simp) fun hget ↦ hget.2 ?_
      rw [← Option.some.inj (hstale.symm.trans hget.1), hseq]
    · rw [if_neg hi]
      refine ⟨fun hget ↦ ⟨hget, fun hsame ↦ hi ?_⟩, fun hget ↦ hget.1⟩
      exact h.distinct hget hstale (hsame.trans hseq.symm)

/-- The command taken out was in the slot found for the number. -/
theorem release_eq_some (h : (t.release seq).2 = some command) :
    ∃ slot, t.get? slot = some command ∧ command.sequence = some seq ∧
      (t.release seq).1 = (t.free slot).1 := by
  unfold PendingTable.release at h ⊢
  split at h
  · cases h
  · next slot hfind =>
    obtain ⟨found, hget, hseq⟩ := get?_of_find? hfind
    have hcommand : found = command := Option.some.inj (hget.symm.trans h)
    subst hcommand
    exact ⟨slot, hget, hseq, rfl⟩

/-- Assumes: a settled table. A release takes out the command that has the number. -/
theorem Settled.release_eq_some_iff (h : t.Settled) :
    (t.release seq).2 = some command ↔
      ∃ i, t.get? i = some command ∧ command.sequence = some seq := by
  constructor
  · intro hout
    obtain ⟨slot, hget, hseq, -⟩ := release_eq_some hout
    exact ⟨slot, hget, hseq⟩
  · rintro ⟨slot, hget, hseq⟩
    have hfind : t.find? seq = some slot := h.find?_eq_some_iff.2 ⟨command, hget, hseq⟩
    rw [PendingTable.release, hfind]
    exact hget

/-- Assumes: a settled table. Releasing a number leaves what is held under every other number. -/
theorem Settled.release_release (h : t.Settled) (seq other : SequenceNumber) :
    ((t.release seq).1.release other).2 = if other = seq then none else (t.release other).2 := by
  ext command
  rw [(h.release seq).release_eq_some_iff]
  simp only [h.get?_release]
  split_ifs with hsame
  · subst hsame
    simp only [iff_false]
    rintro ⟨i, ⟨-, hother⟩, hseq⟩
    exact hother hseq
  · rw [h.release_eq_some_iff]
    constructor
    · rintro ⟨i, ⟨hget, -⟩, hseq⟩
      exact ⟨i, hget, hseq⟩
    · rintro ⟨i, hget, hseq⟩
      refine ⟨i, ⟨hget, ?_⟩, hseq⟩
      rw [hseq]
      exact fun heq ↦ hsame (Option.some.inj heq)

/-- Assumes: a settled table. A sweep leaves what is held under a number, unless that is too old. -/
theorem Settled.release_sweep (h : t.Settled) (now : Nat) (seq : SequenceNumber) :
    ((t.sweep now).1.release seq).2 =
      (t.release seq).2.filter fun command ↦ !t.isExpired now command := by
  ext command
  rw [(h.sweep now).release_eq_some_iff, Option.filter_eq_some_iff, h.release_eq_some_iff]
  simp only [get?_sweep, Option.filter_eq_some_iff]
  constructor
  · rintro ⟨i, ⟨hget, hyoung⟩, hseq⟩
    exact ⟨⟨i, hget, hseq⟩, hyoung⟩
  · rintro ⟨⟨i, hget, hseq⟩, hyoung⟩
    exact ⟨i, ⟨hget, hyoung⟩, hseq⟩

/-- The sequence numbers in a settled table are all different. -/
theorem Settled.nodup_sequence (h : t.Settled) : (t.commands.map (·.sequence)).Nodup := by
  unfold commands
  rw [List.Nodup, List.pairwise_map, List.pairwise_filterMap, List.pairwise_iff_getElem]
  intro i j hi hj hij first hfirst second hsecond hsame
  have hget {k : Nat} (hk : k < t.slots.length) {command : PendingCommand}
      (hcommand : id t.slots[k] = some command) : t.get? k = some command := by
    rw [get?_eq_some_iff, List.getElem?_eq_getElem hk]
    exact congrArg some hcommand
  exact Nat.ne_of_lt hij (h.distinct (hget hi hfirst) (hget hj hsecond) hsame)

/-- The commands of a table are what its slots hold. -/
theorem mem_commands_iff : command ∈ t.commands ↔ ∃ i, t.get? i = some command := by
  constructor
  · intro h
    obtain ⟨x, hx, hcommand⟩ := List.mem_filterMap.1 h
    obtain ⟨i, hi⟩ := List.mem_iff_getElem?.1 hx
    exact ⟨i, get?_eq_some_iff.2 (hi.trans (congrArg some hcommand))⟩
  · rintro ⟨i, hi⟩
    exact List.mem_filterMap.2 ⟨some command, List.mem_of_getElem? (get?_eq_some_iff.1 hi), rfl⟩

/-- No table holds more commands than it has slots. -/
theorem inUse_le_capacity (t : PendingTable) : t.inUse ≤ t.capacity :=
  List.length_filterMap_le _ _

/-- A slot is given out just if one is free. -/
theorem exists_alloc_iff {id : CorrelationId} {name : String} {now : Nat} :
    (∃ taken, t.alloc id name now = .ok taken) ↔ t.inUse < t.capacity := by
  have hcount : t.inUse = t.slots.countP Option.isSome := by
    rw [inUse, commands, List.length_filterMap_eq_countP]
    rfl
  have hfull : t.inUse = t.capacity ↔ t.slots.findIdx? Option.isNone = none := by
    rw [hcount, capacity, List.countP_eq_length, List.findIdx?_eq_none_iff]
    simp [Option.isSome_iff_ne_none]
  have hle := t.inUse_le_capacity
  unfold alloc
  constructor
  · rintro ⟨taken, htaken⟩
    refine Nat.lt_of_le_of_ne hle fun hsame ↦ ?_
    rw [hfull.1 hsame] at htaken
    cases htaken
  · intro hroom
    cases hfirst : t.slots.findIdx? Option.isNone with
    | none => exact absurd (hfull.2 hfirst) (Nat.ne_of_lt hroom)
    | some slot => exact ⟨_, rfl⟩

/-- A settled table holds no more commands than there are sequence numbers. -/
theorem Settled.inUse_le (h : t.Settled) : t.inUse ≤ 256 := by
  have hsub : t.commands.map (·.sequence) ⊆
      (List.range 256).map fun n ↦ some (UInt8.ofNat n) := by
    intro x hx
    obtain ⟨command, hcommand, rfl⟩ := List.mem_map.1 hx
    obtain ⟨i, hget⟩ := mem_commands_iff.1 hcommand
    obtain ⟨seq, hseq⟩ := h.numbered hget
    refine List.mem_map.2 ⟨seq.toNat, List.mem_range.2 seq.toNat_lt, ?_⟩
    rw [hseq, UInt8.ofNat_toNat]
  have hle := (List.subperm_of_subset h.nodup_sequence hsub).length_le
  rw [List.length_map, List.length_map, List.length_range] at hle
  exact hle

/-! ### Counting commands -/

/-- The number of slots that hold a command of an identifier. -/
def holding (t : PendingTable) (id : CorrelationId) : Nat :=
  t.slots.countP fun slot ↦ slot.any (·.id = id)

@[simp] theorem holding_empty (capacity timeout : Nat) (id : CorrelationId) :
    (empty capacity timeout).holding id = 0 := by
  simp [holding, empty, List.countP_replicate]

/-- An identifier is counted just if a command in a slot has it. -/
theorem holding_pos_iff {id : CorrelationId} :
    0 < t.holding id ↔ ∃ i command, t.get? i = some command ∧ command.id = id := by
  rw [holding, List.countP_pos_iff]
  constructor
  · rintro ⟨x, hx, hid⟩
    obtain ⟨command, rfl, hid⟩ := (Option.any_eq_true _ _).1 hid
    obtain ⟨i, hi⟩ := List.mem_iff_getElem?.1 hx
    exact ⟨i, command, get?_eq_some_iff.2 hi, of_decide_eq_true hid⟩
  · rintro ⟨i, command, hget, hid⟩
    exact ⟨some command, List.mem_of_getElem? (get?_eq_some_iff.1 hget), by simpa using hid⟩

/-- A command put into a free slot is counted under its identifier. -/
theorem holding_set (command : PendingCommand) (id : CorrelationId) (hslot : slot < t.capacity)
    (hfree : t.get? slot = none) :
    ({ t with slots := t.slots.set slot (some command) } : PendingTable).holding id =
      t.holding id + (decide (command.id = id)).toNat := by
  have hlength : slot < t.slots.length := hslot
  have hnone : t.slots[slot] = none := by
    simpa only [get?, List.getElem?_eq_getElem hlength, Option.join_some] using hfree
  simp only [holding, List.countP_set hlength, hnone]
  by_cases hid : command.id = id <;> simp [hid]

/-- What is taken out of a slot is no longer counted. -/
theorem holding_free (id : CorrelationId) (hget : t.get? slot = some command) :
    (t.free slot).1.holding id + (decide (command.id = id)).toNat = t.holding id := by
  have hlength : slot < t.slots.length := lt_capacity_of_get? hget
  have hsome : t.slots[slot] = some command := by
    simpa only [get?, List.getElem?_eq_getElem hlength, Option.join_some] using hget
  simp only [holding, free, List.countP_set hlength, hsome]
  by_cases hid : command.id = id
  · have hpos : 0 < t.slots.countP fun slot ↦ slot.any (·.id = id) :=
      List.countP_pos_iff.2 ⟨some command, hsome ▸ List.getElem_mem hlength, by simpa using hid⟩
    simp only [hid, Option.any_some, decide_true, if_true, Option.any_none, Bool.toNat_true]
    simp
    omega
  · simp [hid]

/-- What a release takes out is what the table no longer holds. -/
theorem holding_release (t : PendingTable) (id : CorrelationId) (seq : SequenceNumber) :
    (t.release seq).1.holding id + ((t.release seq).2.any (·.id = id)).toNat = t.holding id := by
  cases hout : (t.release seq).2 with
  | none =>
    have hsame : (t.release seq).1 = t := by
      rw [release, release_snd_eq_none_iff.1 hout]
    rw [hsame]
    rfl
  | some command =>
    obtain ⟨slot, hget, -, hfree⟩ := release_eq_some hout
    rw [hfree]
    exact holding_free id hget

/-- Emptying the slots whose commands have a property splits a count into what stays and what is
taken out. -/
theorem countP_map_filter_add (slots : List (Option PendingCommand))
    (old counted : PendingCommand → Bool) :
    (slots.map fun slot ↦ slot.filter (!old ·)).countP (·.any counted) +
        ((slots.filterMap id).filter old).countP counted =
      slots.countP (·.any counted) := by
  induction slots with
  | nil => rfl
  | cons x rest ih =>
    cases x with
    | none => simpa using ih
    | some command =>
      by_cases hold : old command <;> by_cases hcounted : counted command <;>
        simp [hold, hcounted] at ih ⊢ <;> omega

/-- A sweep hands back what it takes out of the slots. -/
theorem holding_sweep (t : PendingTable) (id : CorrelationId) (now : Nat) :
    (t.sweep now).1.holding id + (t.sweep now).2.countP (·.id = id) = t.holding id :=
  countP_map_filter_add t.slots (t.isExpired now) (·.id = id)

end MeshBridge.PendingTable
