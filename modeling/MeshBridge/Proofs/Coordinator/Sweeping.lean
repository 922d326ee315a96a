import MeshBridge.Proofs.Coordinator.Slots
/-!
Sweeps of the table of pending commands. A sweep empties the slots whose commands are too old and
hands these over in the order of their slots (`sweeps`). As commands only grow older, an earlier
sweep takes nothing out that a later one would not have taken out: two sweeps in turn do what the
later one does alone (`sweep_in_turn`). What was taken out is followed by slots, since nothing
keeps two slots of an arbitrary table from holding equal commands.
-/

set_option autoImplicit false
set_option relaxedAutoImplicit false

namespace MeshBridge.PendingTable

variable {t : PendingTable} {i : Nat} {command : PendingCommand} {now first second : Nat}

/-! ### One sweep -/

/-- The slots of the commands that are too old, in ascending order. -/
def expiredSlots (t : PendingTable) (now : Nat) : List Nat :=
  (List.range t.capacity).filter fun i ↦ (t.get? i).any (t.isExpired now)

theorem mem_expiredSlots_iff :
    i ∈ t.expiredSlots now ↔
      ∃ command, t.get? i = some command ∧ t.timeout ≤ now - command.created := by
  rw [expiredSlots, List.mem_filter, List.mem_range, Option.any_eq_true]
  constructor
  · rintro ⟨-, command, hget, hold⟩
    exact ⟨command, hget, of_decide_eq_true hold⟩
  · rintro ⟨command, hget, hold⟩
    exact ⟨lt_capacity_of_get? hget, command, hget, decide_eq_true hold⟩

theorem ascending_expiredSlots (t : PendingTable) (now : Nat) :
    (t.expiredSlots now).Pairwise (· < ·) :=
  List.pairwise_lt_range.filter _

/-- The commands of a table are read off its slots in ascending order. -/
theorem commands_eq_filterMap (t : PendingTable) :
    t.commands = (List.range t.capacity).filterMap t.get? := by
  have hslots : t.slots = (List.range t.capacity).map t.get? := by
    refine List.ext_getElem (by simp [capacity]) fun i hi _ ↦ ?_
    rw [List.getElem_map, List.getElem_range, get?, List.getElem?_eq_getElem hi, Option.join_some]
  rw [commands, hslots, List.filterMap_map]
  rfl

/-- What a sweep hands over is what the slots of commands too old held, slot by slot. -/
theorem sweep_snd (t : PendingTable) (now : Nat) :
    (t.sweep now).2.map some = (t.expiredSlots now).map t.get? := by
  show (t.commands.filter (t.isExpired now)).map some = _
  rw [commands_eq_filterMap, expiredSlots]
  generalize List.range t.capacity = slots
  induction slots with
  | nil => rfl
  | cons i rest ih =>
    cases hget : t.get? i with
    | none => simpa [hget] using ih
    | some command =>
      cases hold : t.isExpired now command with
      | false => simpa [hget, hold] using ih
      | true => simpa [hget, hold] using ih

theorem get?_sweep_eq_ite (t : PendingTable) (now i : Nat) :
    (t.sweep now).1.get? i = if i ∈ t.expiredSlots now then none else t.get? i := by
  rw [get?_sweep]
  cases hget : t.get? i with
  | none => simp
  | some command =>
    have hmem : i ∈ t.expiredSlots now ↔ t.isExpired now command = true := by
      simp [mem_expiredSlots_iff, hget, isExpired]
    by_cases hold : t.isExpired now command = true <;> simp [hmem, hold]

/-- What one sweep does. The age of a command that was created after the sweep is zero. -/
structure Sweeps (t : PendingTable) (now : Nat) : Prop where
  mem_iff : ∀ i, i ∈ t.expiredSlots now ↔
    ∃ command, t.get? i = some command ∧ t.timeout ≤ now - command.created
  /-- The commands are handed over in the order of their slots, and each once. -/
  ascending : (t.expiredSlots now).Pairwise (· < ·)
  swept : (t.sweep now).2.map some = (t.expiredSlots now).map t.get?
  left : ∀ i, (t.sweep now).1.get? i = if i ∈ t.expiredSlots now then none else t.get? i
  capacity : (t.sweep now).1.capacity = t.capacity
  timeout : (t.sweep now).1.timeout = t.timeout

theorem sweeps (t : PendingTable) (now : Nat) : t.Sweeps now where
  mem_iff _ := mem_expiredSlots_iff
  ascending := t.ascending_expiredSlots now
  swept := t.sweep_snd now
  left := t.get?_sweep_eq_ite now
  capacity := List.length_map _
  timeout := rfl

/-! ### Two sweeps -/

/-- A command that is too old stays so. -/
theorem isExpired_mono (h : first ≤ second) (hold : t.isExpired first command = true) :
    t.isExpired second command = true := by
  have hage : t.timeout ≤ first - command.created := of_decide_eq_true hold
  exact decide_eq_true (Nat.le_trans hage (Nat.sub_le_sub_right h _))

/-- What a stronger filter takes out, and what a weaker one takes out of the rest, is what the
weaker one takes out at once. -/
theorem filter_append_filter_perm {α : Type} {p q : α → Bool} (h : ∀ a, p a = true → q a = true)
    (l : List α) : (l.filter p ++ l.filter fun a ↦ q a && !p a).Perm (l.filter q) := by
  have hp : (l.filter q).filter p = l.filter p := by
    rw [List.filter_filter]
    refine List.filter_congr fun a _ ↦ ?_
    cases hpa : p a with
    | false => rfl
    | true => rw [h a hpa]; rfl
  have hrest : (l.filter q).filter (!p ·) = l.filter fun a ↦ q a && !p a := by
    rw [List.filter_filter]
    exact List.filter_congr fun a _ ↦ Bool.and_comm _ _
  rw [← hp, ← hrest]
  exact List.filter_append_perm p (l.filter q)

/-- What is left after a sweep grows older against the same timeout. -/
theorem isExpired_sweep (t : PendingTable) (first second : Nat) :
    (t.sweep first).1.isExpired second = t.isExpired second := rfl

theorem commands_sweep (t : PendingTable) (now : Nat) :
    (t.sweep now).1.commands = t.commands.filter (!t.isExpired now ·) := by
  show (t.slots.map fun slot ↦ slot.filter fun command ↦ !t.isExpired now command).filterMap id = _
  rw [commands, List.filterMap_map, List.filter_filterMap]
  rfl

/-- The slots that a later sweep empties are those that an earlier one has not emptied yet. -/
theorem expiredSlots_sweep (t : PendingTable) (first second : Nat) :
    (t.sweep first).1.expiredSlots second = (List.range t.capacity).filter fun i ↦
      (t.get? i).any (t.isExpired second) && !(t.get? i).any (t.isExpired first) := by
  rw [expiredSlots, (t.sweeps first).capacity]
  refine List.filter_congr fun i _ ↦ ?_
  rw [get?_sweep, isExpired_sweep]
  cases t.get? i with
  | none => rfl
  | some command =>
    cases hold : t.isExpired first command <;> simp [hold]

/-- What two sweeps in turn do, compared with the second one alone. -/
structure SweepsInTurn (t : PendingTable) (first second : Nat) : Prop where
  table : ((t.sweep first).1.sweep second).1 = (t.sweep second).1
  /-- No slot is emptied twice. -/
  nodup : (t.expiredSlots first ++ (t.sweep first).1.expiredSlots second).Nodup
  slots : (t.expiredSlots first ++ (t.sweep first).1.expiredSlots second).Perm
    (t.expiredSlots second)
  swept : ((t.sweep first).2 ++ ((t.sweep first).1.sweep second).2).Perm (t.sweep second).2

/-- Assumes: the second sweep is not earlier than the first. The table is as after the second one
alone. -/
theorem sweep_sweep_fst (h : first ≤ second) :
    ((t.sweep first).1.sweep second).1 = (t.sweep second).1 := by
  have hyoung : (fun command ↦ !t.isExpired first command && !t.isExpired second command) =
      fun command ↦ !t.isExpired second command := by
    funext command
    cases hold : t.isExpired first command with
    | false => rfl
    | true => rw [isExpired_mono h hold]; rfl
  show PendingTable.mk _ _ = PendingTable.mk _ _
  congr 1
  show List.map _ (t.slots.map _) = t.slots.map _
  rw [List.map_map]
  refine List.map_congr_left fun slot _ ↦ ?_
  show (slot.filter fun command ↦ !t.isExpired first command).filter
    (fun command ↦ !t.isExpired second command) = _
  rw [Option.filter_filter, hyoung]

theorem expiredSlots_perm (h : first ≤ second) :
    (t.expiredSlots first ++ (t.sweep first).1.expiredSlots second).Perm
      (t.expiredSlots second) := by
  rw [expiredSlots_sweep]
  refine filter_append_filter_perm (fun i hold ↦ ?_) (List.range t.capacity)
  obtain ⟨command, hget, hold⟩ := (Option.any_eq_true _ _).1 hold
  exact (Option.any_eq_true _ _).2 ⟨command, hget, isExpired_mono h hold⟩

theorem sweep_snd_perm (h : first ≤ second) :
    ((t.sweep first).2 ++ ((t.sweep first).1.sweep second).2).Perm (t.sweep second).2 := by
  have hrest : ((t.sweep first).1.sweep second).2 =
      t.commands.filter fun command ↦ t.isExpired second command && !t.isExpired first command := by
    show (t.sweep first).1.commands.filter ((t.sweep first).1.isExpired second) = _
    rw [commands_sweep, isExpired_sweep, List.filter_filter]
  rw [hrest]
  exact filter_append_filter_perm (fun command ↦ isExpired_mono h) t.commands

theorem sweepsInTurn (t : PendingTable) (h : first ≤ second) : t.SweepsInTurn first second where
  table := sweep_sweep_fst h
  nodup := (expiredSlots_perm h).nodup_iff.2 ((t.ascending_expiredSlots second).imp Nat.ne_of_lt)
  slots := expiredSlots_perm h
  swept := sweep_snd_perm h

/-- A second sweep at the same time has nothing left to take out. -/
theorem sweep_sweep_self (t : PendingTable) (now : Nat) :
    ((t.sweep now).1.sweep now).2 = [] := by
  have hperm := sweep_snd_perm (t := t) (Nat.le_refl now)
  have hlength := hperm.length_eq
  rw [List.length_append] at hlength
  exact List.length_eq_zero_iff.1 (by omega)

/-- Assumes: two times of which the second is not earlier. Every sweep takes out what is too old, in
the order of slots, and leaves the rest; sweeps at both times do what the second one does alone; and
a sweep made again at once takes nothing out. -/
theorem sweeps_of_le (t : PendingTable) (now : Nat) {first second : Nat} (h : first ≤ second) :
    t.Sweeps now ∧ t.SweepsInTurn first second ∧ ((t.sweep now).1.sweep now).2 = [] :=
  ⟨t.sweeps now, t.sweepsInTurn h, t.sweep_sweep_self now⟩

/-- Two commands three seconds apart with a free slot between them, and one from the future, which
are given up after five seconds. -/
def threeSent : PendingTable :=
  ⟨[some ⟨⟨1⟩, some 7, 0, "on_off"⟩, none, some ⟨⟨2⟩, none, 3000, "level"⟩,
    some ⟨⟨3⟩, some 8, 60000, "bind"⟩], 5000⟩

/-- The first command is given up on time, the second one by the second sweep, and the third one by
neither. -/
theorem sweeps_of_le_threeSent :
    5000 ≤ 8000 ∧ threeSent.SweepsInTurn 5000 8000 ∧
      threeSent.expiredSlots 4999 = [] ∧ threeSent.expiredSlots 5000 = [0] ∧
      (threeSent.sweep 5000).1.expiredSlots 8000 = [2] ∧ threeSent.expiredSlots 8000 = [0, 2] := by
  have hle : 5000 ≤ 8000 := by decide
  obtain ⟨-, hturn, -⟩ := sweeps_of_le threeSent 5000 hle
  exact ⟨hle, hturn, by decide, by decide, by decide, by decide⟩

end MeshBridge.PendingTable
