import MeshBridge.Proofs.Coordinator.Outcomes
import MeshBridge.Radio.Simulated
import MeshBridge.Store.Memory
/-!
Commands as their sender sees them: the identifiers that sends gave back, the frames the radio
refused, and the outcomes that were told. `Turn.handing` says what one call gives back and tells
about the frame it handed over, and the accounts of a run put this together with its balance.
-/

set_option autoImplicit false
set_option relaxedAutoImplicit false

namespace MeshBridge.Coordinator

variable {ρ σ : Type} [Radio ρ] [KeyValueStore σ]

/-! ### What a call says about its frame -/

/-- What becomes of the frame a call may hand to the radio. -/
inductive Turn.Handing (t : Turn ρ σ) : Prop
  | nothing (hhanded : t.handed = []) (hissued : t.issued? = none) (haccepted : t.accepted? = none)
      (hrejected : t.rejected? = none)
  /-- Its identifier is given back. -/
  | accepted (seq : SequenceNumber) (hhanded : t.handed = [t.before.nextId])
      (hissued : t.issued? = some t.before.nextId) (haccepted : t.accepted? = some seq)
      (hrejected : t.rejected? = none)
  /-- Its failure is told at once. -/
  | rejected (rejection : Rejection) (hhanded : t.handed = [t.before.nextId])
      (hissued : t.issued? = none) (haccepted : t.accepted? = none)
      (hrejected : t.rejected? = some rejection)
      (hevents : t.events = [.commandFailed t.before.nextId rejection.code])

/-- Only a send gives back an identifier. -/
theorem Turn.issued?_of_not_send {t : Turn ρ σ}
    (h : ∀ device endpoint request, t.call ≠ .send device endpoint request) : t.issued? = none := by
  obtain ⟨c, now, call⟩ := t
  have hdone {r : Except Fault Unit} (id : CorrelationId) :
      r.map (fun _ ↦ CallReply.done) ≠ .ok (.issued id) := by
    cases r with
    | error f => simp [Except.map]
    | ok => simp [Except.map]
  have hnone : ∀ id, (Turn.mk c now call).result ≠ .ok (.issued id) := by
    intro id hid
    cases call with
    | send device endpoint request => exact h device endpoint request rfl
    | sweep => cases hid
    | _ => exact hdone id hid
  unfold issued?
  split
  · next id hid => exact absurd hid (hnone id)
  · rfl

/-- No other call than a send hears of a frame from the radio. -/
theorem Turn.answers_of_not_send {t : Turn ρ σ}
    (h : ∀ device endpoint request, t.call ≠ .send device endpoint request) :
    t.accepted? = none ∧ t.rejected? = none := by
  have hother {α : Type} {answer? : Exchange → Option α}
      (hframe : ∀ exchange, exchange.frame? = none → answer? exchange = none) :
      t.exchanges.findSome? answer? = none := by
    rw [List.findSome?_eq_none_iff]
    intro exchange hexchange
    exact hframe exchange (frame?_of_not_send h hexchange)
  constructor
  · refine hother fun exchange hframe ↦ ?_
    cases exchange with
    | send frame answer => cases hframe
    | start | permitJoin => rfl
  · refine hother fun exchange hframe ↦ ?_
    cases exchange with
    | send frame answer => cases hframe
    | start | permitJoin => rfl

/-- Assumes: a settled table. A call hands over no frame, or one that is accepted, or one that is
refused. -/
theorem Turn.handing {t : Turn ρ σ} (h : t.before.pending.Settled) : t.Handing := by
  obtain ⟨c, now, call⟩ := t
  rcases call.eq_send_or with ⟨device, endpoint, request, rfl⟩ | hother
  · have hend := sendEnd h now device endpoint request
    have hevents : (Turn.mk c now (.send device endpoint request)).events =
      (c.send now device endpoint request).events := rfl
    have hresult : (Turn.mk c now (.send device endpoint request)).result =
      (c.send now device endpoint request).result.map CallReply.issued := rfl
    generalize hexchanges : (Turn.mk c now (.send device endpoint request)).exchanges = exchanges
      at hend
    generalize c.send now device endpoint request = s at hend hevents hresult
    cases hend with
    | unfit | untargeted | full =>
      exact .nothing (by rw [handed, hexchanges]; rfl) (by rw [issued?, hresult]; rfl)
        (by rw [accepted?, hexchanges]; rfl) (by rw [rejected?, hexchanges]; rfl)
    | @rejected _ _ _ _ rejection =>
      exact .rejected rejection (by rw [handed, hexchanges]; rfl) (by rw [issued?, hresult]; rfl)
        (by rw [accepted?, hexchanges]; rfl) (by rw [rejected?, hexchanges]; rfl) hevents
    | @accepted _ _ _ _ seq =>
      exact .accepted seq (by rw [handed, hexchanges]; rfl) (by rw [issued?, hresult]; rfl)
        (by rw [accepted?, hexchanges]; rfl) (by rw [rejected?, hexchanges]; rfl)
  · obtain ⟨haccepted, hrejected⟩ := answers_of_not_send (t := ⟨c, now, call⟩) hother
    exact .nothing (handed_of_not_send hother) (issued?_of_not_send hother) haccepted hrejected

/-- The identifier of a frame that was accepted is given back. -/
theorem Turn.Handing.of_accepted {t : Turn ρ σ} (h : t.Handing) {seq : SequenceNumber}
    (haccepted : t.accepted? = some seq) :
    t.issued? = some t.before.nextId ∧ t.handed = [t.before.nextId] := by
  cases h with
  | nothing _ _ hnone _ | rejected _ _ _ hnone _ =>
    rw [haccepted] at hnone
    cases hnone
  | accepted _ hhanded hissued _ _ => exact ⟨hissued, hhanded⟩

/-- The refusal of a frame is told at once. -/
theorem Turn.Handing.events_of_rejected {t : Turn ρ σ} (h : t.Handing) {rejection : Rejection}
    (hrejection : t.rejected? = some rejection) :
    t.events = [.commandFailed t.before.nextId rejection.code] := by
  cases h with
  | nothing _ _ _ hnone | accepted _ _ _ _ hnone =>
    rw [hrejection] at hnone
    cases hnone
  | rejected other _ _ _ hother hevents =>
    rw [hrejection] at hother
    cases hother
    exact hevents

/-- The identifier under which the radio refused a frame. -/
def Turn.refused? (t : Turn ρ σ) : Option CorrelationId :=
  t.rejected?.map fun _ ↦ t.before.nextId

/-- What a call hands over is either given back or refused. -/
theorem Turn.Handing.handed_eq {t : Turn ρ σ} (h : t.Handing) :
    t.handed = t.issued?.toList ++ t.refused?.toList := by
  cases h with
  | nothing hhanded hissued _ hrejected | accepted _ hhanded hissued _ hrejected
  | rejected _ hhanded hissued _ hrejected => rw [hhanded, hissued, refused?, hrejected]; rfl

/-! ### Accounts of a run -/

/-- The identifiers that sends gave back in a run. -/
def issued (c : Coordinator ρ σ) (calls : List (Moment × Call)) : List CorrelationId :=
  (c.turns calls).filterMap (·.issued?)

/-- The identifiers under which the radio refused frames in a run. -/
def refused (c : Coordinator ρ σ) (calls : List (Moment × Call)) : List CorrelationId :=
  (c.turns calls).filterMap (·.refused?)

theorem filterMap_concat {α β : Type} (f : α → Option β) (as : List α) (a : α) :
    (as ++ [a]).filterMap f = as.filterMap f ++ (f a).toList := by
  rw [List.filterMap_append]
  cases hfa : f a <;> simp [hfa]

/-- The identifiers a run hands to the radio are those it gives back and those it has refused. -/
theorem handed_perm (config : AdapterConfig) (corrections : CorrectionTable) (radio : ρ)
    (store : Option σ) (calls : List (Moment × Call)) :
    ((new config corrections radio store).handed calls).Perm
      ((new config corrections radio store).issued calls ++
        (new config corrections radio store).refused calls) := by
  set start := new config corrections radio store with hstart
  induction calls using List.reverseRecOn with
  | nil => exact List.Perm.nil
  | append_singleton calls timed ih =>
    have hsettled : (start.nextTurn calls timed).before.pending.Settled :=
      settled_run config corrections radio store calls
    rw [handed_concat, (Turn.handing hsettled).handed_eq, issued, refused, turns_concat,
      filterMap_concat, filterMap_concat, List.append_assoc]
    refine (ih.append_right _).trans ?_
    rw [List.append_assoc]
    exact List.perm_append_comm_assoc _ _ _ |>.append_left _

/-- The commands of a run are accounted for. -/
structure Accounted (c : Coordinator ρ σ) (calls : List (Moment × Call)) : Prop where
  /-- No identifier is given back twice. -/
  nodup_issued : (c.issued calls).Nodup
  /-- A command is in one slot and has no outcome yet, or it is in no slot and has one outcome. -/
  pending_or_told : ∀ id ∈ c.issued calls,
    (c.run calls).pending.holding id = 1 ∧ outcomes id (c.log calls) = [] ∨
      (c.run calls).pending.holding id = 0 ∧ ∃ e, outcomes id (c.log calls) = [e]
  /-- The failure of a frame that the radio refused is told at once, under an identifier that was
  given back to nobody, and it is the one outcome ever told under it. -/
  rejected_failed : ∀ t ∈ c.turns calls, ∀ rejection, t.rejected? = some rejection →
    ∃ id, t.events = [.commandFailed id rejection.code] ∧ id ∉ c.issued calls ∧
      (c.run calls).pending.holding id = 0 ∧
      outcomes id (c.log calls) = [.commandFailed id rejection.code]
  /-- No outcome is told of anything else. -/
  told_of_command : ∀ e ∈ c.log calls, ∀ id, e.command? = some id →
    id ∈ c.issued calls ∨
      ∃ t ∈ c.turns calls, ∃ rejection, t.rejected? = some rejection ∧
        t.events = [.commandFailed id rejection.code]

/-- Assumes: fewer than 2^32 attempts. Whatever the radio answers and in whatever order the calls
are made, every command has one outcome, told once and only once it has left its slot. -/
theorem outcomes_of_commands (config : AdapterConfig) (corrections : CorrectionTable) (radio : ρ)
    (store : Option σ) {calls : List (Moment × Call)} (hattempts : attempts calls < UInt32.size) :
    Accounted (new config corrections radio store) calls := by
  set start := new config corrections radio store with hstart
  have hbalance := run_balance config corrections radio store calls
  have hperm := handed_perm config corrections radio store calls
  have hnodup := handed_nodup config corrections radio store hattempts
  have happend := hperm.nodup_iff.1 hnodup
  have hone {id : CorrelationId} (hid : id ∈ start.issued calls ++ start.refused calls) :
      (start.run calls).pending.holding id + (outcomes id (start.log calls)).length = 1 := by
    rw [hbalance, List.count_eq_one_of_mem hnodup (hperm.mem_iff.2 hid)]
  refine ⟨(List.nodup_append.1 happend).1, ?_, ?_, ?_⟩
  · intro id hid
    have hone := hone (List.mem_append_left _ hid)
    cases houtcomes : outcomes id (start.log calls) with
    | nil =>
      rw [houtcomes] at hone
      exact Or.inl ⟨hone, rfl⟩
    | cons e more =>
      rw [houtcomes, List.length_cons] at hone
      have hmore : more = [] := List.length_eq_zero_iff.1 (by omega)
      exact Or.inr ⟨by omega, e, by rw [hmore]⟩
  · intro t ht rejection hrejection
    have hrefused : t.before.nextId ∈ start.refused calls :=
      List.mem_filterMap.2 ⟨t, ht, by rw [Turn.refused?, hrejection]; rfl⟩
    have hevents := (Turn.handing (settled_of_mem_turns ht)).events_of_rejected hrejection
    have htold : Event.commandFailed t.before.nextId rejection.code ∈
        outcomes t.before.nextId (start.log calls) := by
      rw [mem_outcomes_iff]
      refine ⟨List.mem_flatMap.2 ⟨t, ht, ?_⟩, rfl⟩
      rw [hevents]
      exact List.mem_singleton_self _
    have hone := hone (List.mem_append_right _ hrefused)
    have hpos := List.length_pos_of_mem htold
    refine ⟨t.before.nextId, hevents, ?_, by omega, ?_⟩
    · intro hissued
      exact (List.nodup_append.1 happend).2.2 _ hissued _ hrefused rfl
    · obtain ⟨e, he⟩ := List.length_eq_one_iff.1
        (by omega : (outcomes t.before.nextId (start.log calls)).length = 1)
      rw [he] at htold ⊢
      rw [List.mem_singleton.1 htold]
  · intro e he id hcommand
    have htold : e ∈ outcomes id (start.log calls) := mem_outcomes_iff.2 ⟨he, hcommand⟩
    have hcount : 0 < (start.handed calls).count id := by
      rw [← hbalance]
      exact Nat.add_pos_right _ (List.length_pos_of_mem htold)
    rcases List.mem_append.1 (hperm.mem_iff.1 (List.count_pos_iff.1 hcount)) with hissued | hrefused
    · exact Or.inl hissued
    · right
      obtain ⟨t, ht, hid⟩ := List.mem_filterMap.1 hrefused
      obtain ⟨rejection, hrejection, rfl⟩ := Option.map_eq_some_iff.1 hid
      exact ⟨t, ht, rejection, hrejection,
        (Turn.handing (settled_of_mem_turns ht)).events_of_rejected hrejection⟩

/-- A device is sent four frames: the radio refuses the first one, the second one is confirmed, the
third one is given up, and the fourth one is under way. -/
def fourFrames : List (Moment × Call) :=
  let toggle : Call := .send ⟨7⟩ 1 (.onOff .toggle)
  [(⟨0, 0⟩, .init), (⟨0, 0⟩, .formed 0 0x1A62 15), (⟨1, 0⟩, .announce ⟨7⟩ 0x1234), (⟨2, 0⟩, toggle),
    (⟨3, 0⟩, toggle), (⟨4, 0⟩, .status 0 0), (⟨5, 0⟩, toggle), (⟨6000, 0⟩, .sweep),
    (⟨6001, 0⟩, toggle)]

theorem outcomes_of_commands_fourFrames :
    let start := new default .empty { SimulatedRadio.empty with refusal := some 0x00B1 }
      (none : Option MemoryStore)
    attempts fourFrames < UInt32.size ∧ start.issued fourFrames = [⟨2⟩, ⟨3⟩, ⟨4⟩] ∧
      start.log fourFrames = [.stackUp 0x1A62 15, .deviceJoined ⟨7⟩ 0x1234,
        .commandFailed ⟨1⟩ 0x00B1, .commandConfirmed ⟨2⟩, .commandTimeout ⟨3⟩] ∧
      Accounted start fourFrames :=
  ⟨by decide, by decide, by decide, outcomes_of_commands _ _ _ _ (by decide)⟩

end MeshBridge.Coordinator
