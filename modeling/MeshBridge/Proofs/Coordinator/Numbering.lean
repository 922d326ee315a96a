import MeshBridge.Proofs.Coordinator.Slots
import MeshBridge.Proofs.History
/-!
Slots and sequence numbers under any calls, in whatever order and with whatever slots and numbers:
slots that are free, that were given back and given out again, or that do not exist, and numbers
that are bound already. The number of a command is the one that its slot was bound to last since it
was given out (`Numbered.sequence_iff`), and no two commands have one number. From these two, kept
by every call, follows what each call answers (`correlates_run`).
-/

set_option autoImplicit false
set_option relaxedAutoImplicit false

namespace MeshBridge

/-- What can be asked of a table of pending commands. -/
inductive PendingCall where
  | alloc (id : CorrelationId) (name : String) (now : Nat)
  | bind (slot : Nat) (seq : SequenceNumber)
  | find (seq : SequenceNumber)
  | free (slot : Nat)
  | sweep (now : Nat)
  deriving DecidableEq, Repr

/-- What a table of pending commands answers. -/
inductive PendingReply where
  | taken (slot : Nat)
  | bound
  | found (slot : Option Nat)
  | freed (command : Option PendingCommand)
  | swept (commands : List PendingCommand)
  deriving DecidableEq, Repr

/-- A call with its answer. -/
abbrev PendingTurn := PendingCall × Except Fault PendingReply

namespace PendingTable

variable {t after : PendingTable} {i slot : Nat} {command : PendingCommand} {seq : SequenceNumber}
  {history : List PendingTurn}

def perform (t : PendingTable) : PendingCall → PendingTable × Except Fault PendingReply
  | .alloc id name now =>
    match t.alloc id name now with
    | .ok (after, slot) => (after, .ok (.taken slot))
    | .error f => (t, .error f)
  | .bind slot seq =>
    match t.bind slot seq with
    | .ok after => (after, .ok .bound)
    | .error f => (t, .error f)
  | .find seq => (t, .ok (.found (t.find? seq)))
  | .free slot => ((t.free slot).1, .ok (.freed (t.free slot).2))
  | .sweep now => ((t.sweep now).1, .ok (.swept (t.sweep now).2))

/-- The table after calls made in turn. -/
def run (t : PendingTable) (calls : List PendingCall) : PendingTable :=
  calls.foldl (fun t call ↦ (t.perform call).1) t

/-- Calls made in turn with their answers, oldest first. -/
def turns (t : PendingTable) : List PendingCall → List PendingTurn
  | [] => []
  | call :: rest => (call, (t.perform call).2) :: (t.perform call).1.turns rest

theorem run_concat (t : PendingTable) (calls : List PendingCall) (call : PendingCall) :
    t.run (calls ++ [call]) = ((t.run calls).perform call).1 :=
  List.foldl_concat _ _ _ _

theorem turns_concat (t : PendingTable) (calls : List PendingCall) (call : PendingCall) :
    t.turns (calls ++ [call]) = t.turns calls ++ [(call, ((t.run calls).perform call).2)] := by
  induction calls generalizing t with
  | nil => rfl
  | cons first rest ih =>
    show _ :: (t.perform first).1.turns (rest ++ [call]) = _
    rw [ih]
    rfl

/-! ### The number of a slot -/

/-- The turn gave the slot out. -/
def GivesOut (slot : Nat) (turn : PendingTurn) : Prop := turn.2 = .ok (.taken slot)

/-- The turn bound the slot to a number. -/
def Binds (slot : Nat) (seq : SequenceNumber) (turn : PendingTurn) : Prop :=
  turn = (.bind slot seq, .ok .bound)

/-- The slot was bound to the number last, and not given out anew since then: what it holds from
then on starts without a number. -/
def LastBound (slot : Nat) (seq : SequenceNumber) (history : List PendingTurn) : Prop :=
  Since (Binds slot seq) (fun turn ↦ ¬GivesOut slot turn ∧ ∀ other, ¬Binds slot other turn) history

/-- No two commands have one number. -/
def Distinct (t : PendingTable) : Prop :=
  ∀ ⦃i j : Nat⦄ ⦃first second : PendingCommand⦄ ⦃seq : SequenceNumber⦄,
    t.get? i = some first → t.get? j = some second →
    first.sequence = some seq → second.sequence = some seq → i = j

/-- The numbers of the commands in a table are all different, and each is the one that the slot was
bound to last. -/
structure Numbered (t : PendingTable) (history : List PendingTurn) : Prop where
  distinct : t.Distinct
  sequence_iff : ∀ {slot command}, t.get? slot = some command →
    ∀ seq, command.sequence = some seq ↔ LastBound slot seq history

theorem numbered_empty (capacity timeout : Nat) : (empty capacity timeout).Numbered [] where
  distinct i j first second seq hfirst := by simp at hfirst
  sequence_iff hget := by simp at hget

/-- Assumes: an answer that gives no slot out and binds none, and commands left that are among those
before. Then no number changes. -/
theorem Numbered.of_sub (h : t.Numbered history) {turn : PendingTurn}
    (hgives : ∀ slot, ¬GivesOut slot turn) (hbinds : turn.2 ≠ .ok .bound)
    (hsub : ∀ {i command}, after.get? i = some command → t.get? i = some command) :
    after.Numbered (history ++ [turn]) where
  distinct i j first second seq hfirst hsecond := h.distinct (hsub hfirst) (hsub hsecond)
  sequence_iff {slot command} hget seq := by
    have hunbound (seq : SequenceNumber) : ¬Binds slot seq turn :=
      fun hbound ↦ hbinds (congrArg Prod.snd hbound)
    rw [h.sequence_iff (hsub hget) seq, LastBound, LastBound]
    exact (since_concat_of_kept (hunbound seq) ⟨hgives slot, hunbound⟩).symm

theorem Numbered.refused (h : t.Numbered history) (call : PendingCall) (f : Fault) :
    t.Numbered (history ++ [(call, .error f)]) :=
  h.of_sub (fun _ hgiven ↦ nomatch hgiven) (fun hbound ↦ nomatch hbound) fun hget ↦ hget

/-! ### Allocation -/

/-- The lowest free slot. -/
structure LowestFree (t : PendingTable) (slot : Nat) : Prop where
  lt : slot < t.capacity
  free : t.get? slot = none
  lower : ∀ i < slot, t.get? i ≠ none

theorem get?_eq_none_iff_isNone (hi : i < t.slots.length) :
    t.get? i = none ↔ t.slots[i].isNone = true := by
  rw [get?, List.getElem?_eq_getElem hi, Option.join_some, Option.isNone_iff_eq_none]

theorem findIdx?_isNone_eq_some_iff :
    t.slots.findIdx? Option.isNone = some slot ↔ t.LowestFree slot := by
  rw [List.findIdx?_eq_some_iff_getElem]
  constructor
  · rintro ⟨hlt, hfree, hlower⟩
    refine ⟨hlt, (get?_eq_none_iff_isNone hlt).2 hfree, fun i hi hnone ↦ ?_⟩
    exact hlower i hi ((get?_eq_none_iff_isNone (Nat.lt_trans hi hlt)).1 hnone)
  · rintro ⟨hlt, hfree, hlower⟩
    refine ⟨hlt, (get?_eq_none_iff_isNone hlt).1 hfree, fun i hi hnone ↦ ?_⟩
    exact hlower i hi ((get?_eq_none_iff_isNone (Nat.lt_trans hi hlt)).2 hnone)

theorem findIdx?_isNone_eq_none_iff :
    t.slots.findIdx? Option.isNone = none ↔ ∀ i < t.capacity, t.get? i ≠ none := by
  rw [List.findIdx?_eq_none_iff, List.forall_mem_iff_forall_getElem]
  refine forall_congr' fun i ↦ forall_congr' fun hi ↦ ?_
  rw [Ne, get?_eq_none_iff_isNone hi, Bool.not_eq_true]

/-- The table with a command in a slot. -/
def write (t : PendingTable) (slot : Nat) (command : PendingCommand) : PendingTable :=
  { t with slots := t.slots.set slot (some command) }

theorem capacity_write (t : PendingTable) (slot : Nat) (command : PendingCommand) :
    (t.write slot command).capacity = t.capacity :=
  List.length_set

theorem get?_write (hslot : slot < t.capacity) (command : PendingCommand) (i : Nat) :
    (t.write slot command).get? i = if i = slot then some command else t.get? i :=
  get?_set _ hslot

/-- The lowest free slot is given out, or there is none. -/
theorem alloc_cases (t : PendingTable) (id : CorrelationId) (name : String) (now : Nat) :
    (∃ slot, t.LowestFree slot ∧
        t.alloc id name now = .ok (t.write slot ⟨id, none, now, name⟩, slot)) ∨
      (∀ i < t.capacity, t.get? i ≠ none) ∧ t.alloc id name now =
        .error (.resourceExhausted ("pending commands (" ++ toString t.capacity ++ " slots)")) := by
  cases hfirst : t.slots.findIdx? Option.isNone with
  | some slot =>
    refine Or.inl ⟨slot, findIdx?_isNone_eq_some_iff.1 hfirst, ?_⟩
    simp only [alloc, hfirst]
    rfl
  | none =>
    refine Or.inr ⟨findIdx?_isNone_eq_none_iff.1 hfirst, ?_⟩
    simp only [alloc, hfirst]

/-- What a table does when a slot is to be given out. -/
structure Allocates (t : PendingTable) (id : CorrelationId) (name : String) (now : Nat) : Prop where
  /-- The slot given out is the lowest that is free. It holds the command, without a number yet. -/
  taken_iff : ∀ after slot, t.alloc id name now = .ok (after, slot) ↔
    t.LowestFree slot ∧ after = t.write slot ⟨id, none, now, name⟩
  refused_iff : (∃ f, t.alloc id name now = .error f) ↔ ∀ i < t.capacity, t.get? i ≠ none

/-- There is one lowest free slot at most. -/
theorem LowestFree.unique (h : t.LowestFree slot) (hi : t.LowestFree i) : slot = i := by
  rcases Nat.lt_trichotomy slot i with hlt | heq | hgt
  · exact absurd h.free (hi.lower slot hlt)
  · exact heq
  · exact absurd hi.free (h.lower i hgt)

theorem allocates (t : PendingTable) (id : CorrelationId) (name : String) (now : Nat) :
    t.Allocates id name now := by
  rcases t.alloc_cases id name now with ⟨lowest, hlowest, halloc⟩ | ⟨hfull, halloc⟩
  · refine ⟨fun after slot ↦ ⟨fun htaken ↦ ?_, fun ⟨hslot, hafter⟩ ↦ ?_⟩, iff_of_false ?_ ?_⟩
    · rw [halloc] at htaken
      cases htaken
      exact ⟨hlowest, rfl⟩
    · rw [halloc, hafter, hlowest.unique hslot]
    · simp [halloc]
    · exact fun hfull ↦ hfull lowest hlowest.lt hlowest.free
  · refine ⟨fun after slot ↦ iff_of_false ?_ ?_, iff_of_true ⟨_, halloc⟩ hfull⟩
    · simp [halloc]
    · exact fun hslot ↦ hfull slot hslot.1.lt hslot.1.free

/-! ### Binding -/

/-- The slot holds a command, and no other slot holds one with the number. -/
structure Bindable (t : PendingTable) (slot : Nat) (seq : SequenceNumber) : Prop where
  occupied : ∃ command, t.get? slot = some command
  unused : ∀ i other, t.get? i = some other → other.sequence = some seq → i = slot

/-- Assumes: no two commands have one number. A slot is bound, or it is free or the number is that
of another slot. -/
theorem Distinct.bind_cases (h : t.Distinct) (slot : Nat) (seq : SequenceNumber) :
    (t.Bindable slot seq ∧ ∃ command, t.get? slot = some command ∧
        t.bind slot seq = .ok (t.write slot { command with sequence := some seq })) ∨
      ¬t.Bindable slot seq ∧ ∃ f, t.bind slot seq = .error f := by
  by_cases hother : (t.find? seq).any (· ≠ slot) = true
  · right
    obtain ⟨i, hfind, hne⟩ := (Option.any_eq_true _ _).1 hother
    obtain ⟨other, hget, hseq⟩ := get?_of_find? hfind
    refine ⟨fun hbindable ↦ of_decide_eq_true hne (hbindable.unused i other hget hseq), ?_⟩
    simp only [bind, hother, if_true]
    exact ⟨_, rfl⟩
  · cases hget : t.get? slot with
    | none =>
      refine Or.inr ⟨fun hbindable ↦ ?_, ?_⟩
      · obtain ⟨command, hcommand⟩ := hbindable.occupied
        rw [hget] at hcommand
        cases hcommand
      · simp only [bind, hother, hget]
        exact ⟨_, rfl⟩
    | some command =>
      refine Or.inl ⟨⟨⟨command, hget⟩, fun i other hheld hseq ↦ ?_⟩, command, rfl, ?_⟩
      · cases hfind : t.find? seq with
        | none => exact absurd hseq (find?_eq_none_iff.1 hfind i other hheld)
        | some found =>
          obtain ⟨first, hfirst, hnumber⟩ := get?_of_find? hfind
          have hslot : found = slot := by simpa [hfind] using hother
          rw [← hslot]
          exact h hheld hfirst hseq hnumber
      · simp only [bind, hother, hget]
        rfl

/-- What a table does when a slot is to be bound to a number. -/
structure BindsSlot (t : PendingTable) (slot : Nat) (seq : SequenceNumber) : Prop where
  bound_iff : (∃ after, t.bind slot seq = .ok after) ↔ t.Bindable slot seq
  /-- The command in the slot gets the number. -/
  bound : ∀ after, t.bind slot seq = .ok after → ∃ command, t.get? slot = some command ∧
    after = t.write slot { command with sequence := some seq }

theorem Distinct.bindsSlot (h : t.Distinct) (slot : Nat) (seq : SequenceNumber) :
    t.BindsSlot slot seq := by
  rcases h.bind_cases slot seq with ⟨hbindable, command, hget, hbind⟩ | ⟨hnot, f, hbind⟩
  · refine ⟨iff_of_true ⟨_, hbind⟩ hbindable, fun after hafter ↦ ⟨command, hget, ?_⟩⟩
    rw [hbind] at hafter
    exact (Except.ok.inj hafter).symm
  · refine ⟨iff_of_false ?_ hnot, fun after hafter ↦ ?_⟩
    · simp [hbind]
    · rw [hbind] at hafter
      cases hafter

/-! ### Every call -/

/-- Assumes: a turn that gives out or binds at most the slot that it writes, and puts a command
there whose number no other slot has. -/
theorem Numbered.of_write (h : t.Numbered history) {turn : PendingTurn}
    (hget : ∀ i, after.get? i = if i = slot then some command else t.get? i)
    (hothers : ∀ i ≠ slot, ¬GivesOut i turn ∧ ∀ seq, ¬Binds i seq turn)
    (hfree : ∀ seq, command.sequence = some seq →
      ∀ i other, t.get? i = some other → other.sequence = some seq → i = slot)
    (hown : ∀ seq, command.sequence = some seq ↔ LastBound slot seq (history ++ [turn])) :
    after.Numbered (history ++ [turn]) where
  distinct i j first second seq hfirst hsecond hseq hsame := by
    rw [hget] at hfirst hsecond
    split_ifs at hfirst hsecond with hi hj hj
    · exact hi.trans hj.symm
    · cases hfirst
      exact hi.trans (hfree seq hseq j second hsecond hsame).symm
    · cases hsecond
      exact (hfree seq hsame i first hfirst hseq).trans hj.symm
    · exact h.distinct hfirst hsecond hseq hsame
  sequence_iff {i held} hheld seq := by
    rw [hget] at hheld
    split_ifs at hheld with hi
    · cases hheld
      rw [hi]
      exact hown seq
    · rw [h.sequence_iff hheld seq]
      exact (since_concat_of_kept ((hothers i hi).2 seq) (hothers i hi)).symm

/-- A slot that was just given out has no number. -/
theorem Numbered.alloc (h : t.Numbered history) (id : CorrelationId) (name : String) (now : Nat) :
    (t.perform (.alloc id name now)).1.Numbered
      (history ++ [(.alloc id name now, (t.perform (.alloc id name now)).2)]) := by
  rcases t.alloc_cases id name now with ⟨slot, hlowest, halloc⟩ | ⟨-, halloc⟩
  · simp only [perform, halloc]
    have hbinds (i : Nat) (seq : SequenceNumber) :
        ¬Binds i seq (.alloc id name now, .ok (.taken slot)) := by
      intro hbound
      cases hbound
    refine h.of_write (get?_write hlowest.lt _) (fun i hi ↦ ⟨?_, hbinds i⟩) ?_ ?_
    · intro hgiven
      cases hgiven
      exact hi rfl
    · intro seq hseq
      cases hseq
    · intro seq
      refine iff_of_false (fun hseq ↦ by cases hseq) fun hbound ↦ ?_
      rcases since_concat_iff.1 hbound with hnow | ⟨⟨hgiven, -⟩, -⟩
      · exact hbinds slot seq hnow
      · exact hgiven rfl
  · simp only [perform, halloc]
    exact h.refused _ _

/-- A slot that was just bound has the number that it was bound to. -/
theorem Numbered.bind (h : t.Numbered history) (slot : Nat) (seq : SequenceNumber) :
    (t.perform (.bind slot seq)).1.Numbered
      (history ++ [(.bind slot seq, (t.perform (.bind slot seq)).2)]) := by
  rcases h.distinct.bind_cases slot seq with ⟨hbindable, command, hget, hbind⟩ | ⟨-, f, hbind⟩
  · simp only [perform, hbind]
    refine h.of_write (get?_write (lt_capacity_of_get? hget) _) (fun i hi ↦ ⟨?_, ?_⟩) ?_ ?_
    · intro hgiven
      cases hgiven
    · intro other hbound
      cases hbound
      exact hi rfl
    · intro other hother
      cases hother
      exact hbindable.unused
    · intro other
      constructor
      · intro hother
        cases hother
        exact since_concat_iff.2 (Or.inl rfl)
      · intro hbound
        rcases since_concat_iff.1 hbound with hnow | ⟨⟨-, hunbound⟩, -⟩
        · cases hnow
          rfl
        · exact absurd rfl (hunbound seq)
  · simp only [perform, hbind]
    exact h.refused _ _

/-- A call leaves every number the one that its slot was bound to last, and different from all
others. -/
theorem Numbered.perform (h : t.Numbered history) (call : PendingCall) :
    (t.perform call).1.Numbered (history ++ [(call, (t.perform call).2)]) := by
  cases call with
  | alloc id name now => exact h.alloc id name now
  | bind slot seq => exact h.bind slot seq
  | find seq =>
    exact h.of_sub (fun _ hgiven ↦ nomatch hgiven) (fun hbound ↦ nomatch hbound) fun hget ↦ hget
  | free slot =>
    refine h.of_sub (fun _ hgiven ↦ nomatch hgiven) (fun hbound ↦ nomatch hbound) ?_
    intro i command hget
    change (t.free slot).1.get? i = some command at hget
    rw [get?_free] at hget
    split_ifs at hget
    exact hget
  | sweep now =>
    refine h.of_sub (fun _ hgiven ↦ nomatch hgiven) (fun hbound ↦ nomatch hbound) ?_
    intro i command hget
    change (t.sweep now).1.get? i = some command at hget
    rw [get?_sweep] at hget
    exact (Option.filter_eq_some_iff.1 hget).1

theorem Distinct.capacity_perform (h : t.Distinct) (call : PendingCall) :
    (t.perform call).1.capacity = t.capacity := by
  cases call with
  | alloc id name now =>
    unfold perform
    rcases t.alloc_cases id name now with ⟨slot, -, halloc⟩ | ⟨-, halloc⟩
    · simp only [halloc, capacity_write]
    · simp only [halloc]
  | bind slot seq =>
    unfold perform
    rcases h.bind_cases slot seq with ⟨-, command, -, hbind⟩ | ⟨-, f, hbind⟩
    · simp only [hbind, capacity_write]
    · simp only [hbind]
  | find seq => rfl
  | free slot => exact List.length_set
  | sweep now => exact List.length_map _

/-- At every point of a run the numbers are those that the slots were bound to last. -/
theorem numbered_run (capacity timeout : Nat) (calls : List PendingCall) :
    ((empty capacity timeout).run calls).Numbered ((empty capacity timeout).turns calls) ∧
      ((empty capacity timeout).run calls).capacity = capacity := by
  induction calls using List.reverseRecOn with
  | nil => exact ⟨numbered_empty capacity timeout, List.length_replicate⟩
  | append_singleton calls call ih =>
    obtain ⟨hnumbered, hcapacity⟩ := ih
    rw [run_concat, turns_concat]
    exact ⟨hnumbered.perform call, (hnumbered.distinct.capacity_perform call).trans hcapacity⟩

/-! ### What is answered -/

/-- The slot found for a number is the one that was bound to it last and still holds a command. -/
theorem Numbered.find?_eq_some_iff (h : t.Numbered history) :
    t.find? seq = some slot ↔
      (∃ command, t.get? slot = some command) ∧ LastBound slot seq history := by
  constructor
  · intro hfind
    obtain ⟨command, hget, hseq⟩ := get?_of_find? hfind
    exact ⟨⟨command, hget⟩, (h.sequence_iff hget seq).1 hseq⟩
  · rintro ⟨⟨command, hget⟩, hbound⟩
    have hseq := (h.sequence_iff hget seq).2 hbound
    cases hfind : t.find? seq with
    | none => exact absurd hseq (find?_eq_none_iff.1 hfind slot command hget)
    | some found =>
      obtain ⟨other, hother, hsame⟩ := get?_of_find? hfind
      rw [h.distinct hother hget hsame hseq]

/-- What a table with a past answers to a further call. -/
structure Correlates (t : PendingTable) (history : List PendingTurn) : Prop where
  distinct : t.Distinct
  find_iff : ∀ seq slot, t.find? seq = some slot ↔
    (∃ command, t.get? slot = some command) ∧ LastBound slot seq history
  allocates : ∀ id name now, t.Allocates id name now
  bindsSlot : ∀ slot seq, t.BindsSlot slot seq
  /-- A slot that is given back is free, and what it held is handed over. -/
  free : ∀ slot, (t.free slot).2 = t.get? slot ∧
    ∀ i, (t.free slot).1.get? i = if i = slot then none else t.get? i
  /-- A refused call changes nothing, nor does giving back a slot that is free. -/
  refused : ∀ call f, (t.perform call).2 = .error f → (t.perform call).1 = t
  free_none : ∀ slot, (t.free slot).2 = none → (t.free slot).1 = t

theorem perform_error {call : PendingCall} {f : Fault} (h : (t.perform call).2 = .error f) :
    (t.perform call).1 = t := by
  cases call with
  | alloc id name now =>
    unfold perform at h ⊢
    cases halloc : t.alloc id name now <;> simp [halloc] at h ⊢
  | bind slot seq =>
    unfold perform at h ⊢
    cases hbind : t.bind slot seq <;> simp [hbind] at h ⊢
  | find seq => rfl
  | free slot => cases h
  | sweep now => cases h

theorem free_of_none (h : (t.free slot).2 = none) : (t.free slot).1 = t := by
  have hsame := free_set_of_get?_eq_none none h
  rwa [free, List.set_set] at hsame

theorem Numbered.correlates (h : t.Numbered history) : t.Correlates history where
  distinct := h.distinct
  find_iff _ _ := h.find?_eq_some_iff
  allocates := t.allocates
  bindsSlot := h.distinct.bindsSlot
  free _ := ⟨rfl, fun _ ↦ get?_free⟩
  refused _ _ := perform_error
  free_none _ := free_of_none

/-- However slots were given out, bound, given back and swept, there are as many as at the start,
and the table answers by its past: a number is found in the slot that was bound to it last, and no
two slots have one number. -/
theorem correlates_run (capacity timeout : Nat) (calls : List PendingCall) :
    ((empty capacity timeout).run calls).capacity = capacity ∧
      ((empty capacity timeout).run calls).Correlates ((empty capacity timeout).turns calls) :=
  have ⟨hnumbered, hcapacity⟩ := numbered_run capacity timeout calls
  ⟨hcapacity, hnumbered.correlates⟩

/-- A number that was bound before the slot was given out again is not found there. -/
example : ((empty 2 5000).run [.alloc ⟨1⟩ "on_off" 0, .bind 0 7, .free 0,
    .alloc ⟨2⟩ "level" 1]).find? 7 = none := by decide

end PendingTable

end MeshBridge
