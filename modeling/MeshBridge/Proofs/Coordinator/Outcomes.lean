import MeshBridge.Proofs.Coordinator.Recording
import MeshBridge.Proofs.Coordinator.Turns
import Mathlib.Data.List.Induction
import Mathlib.Data.List.Nodup
import Mathlib.Data.List.Pairwise
/-!
Every command is accounted for. The identifiers under which frames were handed to the radio are
balanced by the slots that hold them and the outcomes that were told of them or wait to be told:
`Turn.balance` says so of one call, `Past.balance` of every past and `run_balance` of a run, without
any bound on their length. As long as the identifiers have not wrapped they are fresh
(`Past.nextId_unused`, `handed_nodup`), so each of them is either in one slot or was told of once.
-/

set_option autoImplicit false
set_option relaxedAutoImplicit false

namespace MeshBridge.Coordinator

variable {ρ σ : Type}

/-- The outcomes of a command among events. -/
def outcomes (id : CorrelationId) (events : List Event) : List Event :=
  events.filter (·.command? = some id)

theorem outcomes_append (id : CorrelationId) (events more : List Event) :
    outcomes id (events ++ more) = outcomes id events ++ outcomes id more :=
  List.filter_append ..

theorem mem_outcomes_iff {id : CorrelationId} {events : List Event} {e : Event} :
    e ∈ outcomes id events ↔ e ∈ events ∧ e.command? = some id := by
  simp [outcomes]

/-- A command that was given up is told of once, under its own identifier. -/
theorem length_outcomes_timeouts (id : CorrelationId) (commands : List PendingCommand) :
    (outcomes id (commands.map fun command ↦ .commandTimeout command.id)).length =
      commands.countP (·.id = id) := by
  rw [outcomes, ← List.countP_eq_length_filter, List.countP_map]
  congr 1
  funext command
  simp [Event.command?]

variable [Radio ρ] [KeyValueStore σ]

/-- The identifiers under which a call handed frames to the radio. -/
def Turn.handed (t : Turn ρ σ) : List CorrelationId :=
  (t.exchanges.filterMap Exchange.frame?).map fun _ ↦ t.before.nextId

theorem Turn.handed_of_not_send {t : Turn ρ σ}
    (h : ∀ device endpoint request, t.call ≠ .send device endpoint request) : t.handed = [] := by
  have hnone : t.exchanges.filterMap Exchange.frame? = [] :=
    List.filterMap_eq_nil_iff.2 fun _ hexchange ↦ frame?_of_not_send h hexchange
  rw [handed, hnone]
  rfl

omit [KeyValueStore σ] in
/-- Assumes: a settled table. A send is balanced: what the slots hold after it and what it told was
in the slots before it or is the command it handed to the radio. -/
theorem SendEnd.balance {c : Coordinator ρ σ} {now : Moment} {device : Eui64} {endpoint : UInt8}
    {request : Request} {s : Step ρ σ CorrelationId} {exchanges : List Exchange}
    (hend : SendEnd c now device endpoint request s exchanges) (h : c.pending.Settled)
    (id : CorrelationId) :
    s.after.pending.holding id + (outcomes id s.events).length =
      c.pending.holding id +
        ((exchanges.filterMap Exchange.frame?).map fun _ ↦ c.nextId).count id := by
  cases hend with
  | unfit | untargeted | full => rfl
  | rejected =>
    by_cases hid : c.nextId = id <;> simp [outcomes, Event.command?, Exchange.frame?, hid]
  | @accepted address allocated slot radio seq _ _ halloc _ =>
    obtain ⟨hslot, hfree, -⟩ := PendingTable.alloc_eq_ok halloc
    have haccept := h.holding_accept hslot hfree ⟨c.nextId, none, now.ticks, request.name⟩ seq id
    have htold : (outcomes id ((c.pending.release seq).2.toList.map
        fun old ↦ .commandTimeout old.id)).length =
          ((c.pending.release seq).2.any (·.id = id)).toNat := by
      rw [length_outcomes_timeouts]
      cases (c.pending.release seq).2 with
      | none => rfl
      | some old => by_cases hold : old.id = id <;> simp [hold]
    have hhanded : ([Exchange.send ⟨address, endpoint, request⟩ (.ok seq)].filterMap
        Exchange.frame?).map (fun _ ↦ c.nextId) = [c.nextId] := rfl
    rw [hhanded, List.count_singleton]
    show (c.pending.accept slot ⟨c.nextId, none, now.ticks, request.name⟩ seq).holding id + _ = _
    rw [htold, haccept]
    by_cases hid : c.nextId = id <;> simp [hid]

omit [Radio ρ] [KeyValueStore σ] in
/-- A status is balanced: the command it takes out of its slot is the one whose outcome it tells. -/
theorem status_balance (c : Coordinator ρ σ) (seq : SequenceNumber) (status : UInt16)
    (id : CorrelationId) :
    (c.status seq status).after.pending.holding id +
        (outcomes id (c.status seq status).events).length = c.pending.holding id := by
  have hrelease := PendingTable.holding_release c.pending id seq
  rw [status_eq_release]
  cases hreleased : c.pending.release seq with
  | mk pending released =>
    rw [hreleased] at hrelease
    cases released with
    | none => exact Nat.add_zero _
    | some command =>
      show pending.holding id + (outcomes id [outcomeOf command.id status]).length = _
      rw [← hrelease, outcomes, ← List.countP_eq_length_filter, List.countP_singleton,
        command?_outcomeOf]
      by_cases hid : command.id = id <;> simp [hid]

omit [Radio ρ] [KeyValueStore σ] in
/-- A sweep is balanced: it tells of the commands that it takes out of their slots. -/
theorem sweep_balance (c : Coordinator ρ σ) (now : Moment) (id : CorrelationId) :
    (c.sweep now).after.pending.holding id + (outcomes id (c.sweep now).events).length =
      c.pending.holding id := by
  have hsweep := PendingTable.holding_sweep c.pending id now.ticks
  rw [← length_outcomes_timeouts] at hsweep
  exact hsweep

/-- Calls that do not concern commands are balanced: they change no slot and tell no outcome. -/
theorem balance_of_quiet (c : Coordinator ρ σ) (now : Moment) {call : Call}
    (hquiet : call.movesCommands = false) (id : CorrelationId) :
    (c.perform now call).after.pending.holding id +
        (outcomes id (c.perform now call).events).length = c.pending.holding id := by
  have hsilent : outcomes id (c.perform now call).events = [] := by
    rw [outcomes, List.filter_eq_nil_iff]
    intro e he
    simp [command?_of_quiet hquiet he]
  rw [((c.framed_perform now call).commands hquiet).1, hsilent]
  rfl

/-- Assumes: a settled table. Every call is balanced. -/
theorem Turn.balance {t : Turn ρ σ} (h : t.before.pending.Settled) (id : CorrelationId) :
    t.after.pending.holding id + (outcomes id t.events).length =
      t.before.pending.holding id + t.handed.count id := by
  obtain ⟨c, now, call⟩ := t
  rcases call.eq_send_or with ⟨device, endpoint, request, rfl⟩ | hother
  · exact (sendEnd h now device endpoint request).balance h id
  · rw [handed_of_not_send hother, List.count_nil, Nat.add_zero]
    cases call with
    | send device endpoint request => exact absurd rfl (hother device endpoint request)
    | status seq status => exact c.status_balance seq status id
    | sweep => exact c.sweep_balance now id
    | _ => exact c.balance_of_quiet now rfl id

/-! ### Fresh identifiers -/

/-- The identifier of the attempt number `n`, counted from zero. They repeat after 2^32 attempts. -/
def nthId (n : Nat) : CorrelationId := ⟨UInt32.ofNat (n + 1)⟩

theorem next_nthId (n : Nat) : (⟨(nthId n).value + 1⟩ : CorrelationId) = nthId (n + 1) := by
  show (⟨UInt32.ofNat (n + 1) + 1⟩ : CorrelationId) = ⟨UInt32.ofNat (n + 1 + 1)⟩
  rw [UInt32.ofNat_add (n + 1) 1]
  rfl

/-- Fewer than 2^32 attempts apart no identifier is met again. -/
theorem nthId_ne {first second : Nat} (hlt : first < second)
    (hnear : second < first + UInt32.size) : nthId first ≠ nthId second := by
  intro hsame
  have hvalue : (first + 1) % 2 ^ 32 = (second + 1) % 2 ^ 32 := by
    simpa [nthId] using congrArg (·.value.toNat) hsame
  have hsize : UInt32.size = 2 ^ 32 := rfl
  omega

theorem nthId_injOn {bound : Nat} (hbound : bound < UInt32.size) :
    ((List.range bound).map nthId).Nodup := by
  refine List.Nodup.map_on (fun first hfirst second hsecond hsame ↦ ?_) List.nodup_range
  have hfirst := List.mem_range.1 hfirst
  have hsecond := List.mem_range.1 hsecond
  rcases Nat.lt_trichotomy first second with hlt | heq | hgt
  · exact absurd hsame (nthId_ne hlt (by omega))
  · exact heq
  · exact absurd hsame.symm (nthId_ne hgt (by omega))

def Call.isSend : Call → Bool
  | .send .. => true
  | _ => false

/-- The number of attempts to send a command. -/
def attempts (calls : List (Moment × Call)) : Nat := calls.countP (·.2.isSend)

omit [KeyValueStore σ] in
/-- A send uses up one identifier or none, and hands a frame to the radio under that one only. -/
theorem SendEnd.identifiers {c : Coordinator ρ σ} {now : Moment} {device : Eui64} {endpoint : UInt8}
    {request : Request} {s : Step ρ σ CorrelationId} {exchanges : List Exchange}
    (hend : SendEnd c now device endpoint request s exchanges) :
    s.after.nextId = c.nextId ∧ exchanges.filterMap Exchange.frame? = [] ∨
      s.after.nextId = ⟨c.nextId.value + 1⟩ ∧
        (exchanges.filterMap Exchange.frame?).length ≤ 1 := by
  cases hend with
  | unfit | untargeted => exact Or.inl ⟨rfl, rfl⟩
  | full => exact Or.inr ⟨rfl, Nat.zero_le 1⟩
  | rejected | accepted => exact Or.inr ⟨rfl, Nat.le_refl 1⟩

/-- Assumes: a settled table. A call uses up one identifier or none, and hands a frame to the radio
under that one only. -/
theorem Turn.identifiers {t : Turn ρ σ} (h : t.before.pending.Settled) :
    t.after.nextId = t.before.nextId ∧ t.handed = [] ∨
      t.call.isSend = true ∧ t.after.nextId = ⟨t.before.nextId.value + 1⟩ ∧
        t.handed.Sublist [t.before.nextId] := by
  obtain ⟨c, now, call⟩ := t
  rcases call.eq_send_or with ⟨device, endpoint, request, rfl⟩ | hother
  · rcases (sendEnd h now device endpoint request).identifiers with ⟨hnext, hnone⟩ | ⟨hnext, hone⟩
    · exact Or.inl ⟨hnext, congrArg (List.map _) hnone⟩
    · refine Or.inr ⟨rfl, hnext, ?_⟩
      show ((_ : List Frame).map fun _ ↦ c.nextId).Sublist [c.nextId]
      rw [List.map_const']
      exact (List.replicate_sublist_replicate _).2 hone
  · refine Or.inl ⟨?_, handed_of_not_send hother⟩
    show (c.perform now call).after.nextId = c.nextId
    cases call with
    | status seq status => exact congrArg (·.nextId) (c.status_frame seq status)
    | sweep => rfl
    | send device endpoint request => exact absurd rfl (hother device endpoint request)
    | _ => exact ((c.framed_perform now _).commands rfl).2

/-! ### Pasts -/

section Past

variable {others : Registry → Registry → Prop} {config : AdapterConfig}
  {corrections : CorrectionTable} {c : Coordinator ρ σ} {h : History ρ σ}

/-- The identifiers under which frames were handed to the radio. -/
def History.handed (h : History ρ σ) : List CorrelationId := h.turns.flatMap (·.handed)

/-- The number of attempts to send a command. -/
def sends (turns : List (Turn ρ σ)) : Nat := turns.countP (·.call.isSend)

omit [Radio ρ] [KeyValueStore σ] in
theorem sends_concat (turns : List (Turn ρ σ)) (t : Turn ρ σ) :
    sends (turns ++ [t]) = sends turns + t.call.isSend.toNat := by
  cases hsend : t.call.isSend <;> simp [sends, hsend]

/-- Every past is balanced, also after the identifiers have wrapped: what was handed to the radio is
in a slot, or its outcome was told, or waits to be told. -/
theorem Past.balance (hpast : Past others config corrections c h) (id : CorrelationId) :
    c.pending.holding id + (outcomes id (h.told ++ h.waiting)).length = h.handed.count id := by
  induction hpast with
  | made => exact PendingTable.holding_empty ..
  | @called c h hpast now call ih =>
    have hturn := Turn.balance (t := ⟨c, now, call⟩) hpast.settled id
    have hevents : (outcomes id ((Turn.mk c now call).events.take 1)).length +
        (outcomes id ((Turn.mk c now call).events.drop 1)).length =
          (outcomes id (Turn.mk c now call).events).length := by
      rw [← List.length_append, ← outcomes_append, List.take_append_drop]
    have hwaiting : (h.call ⟨c, now, call⟩).waiting =
      (Turn.mk c now call).events.drop 1 ++ h.waiting := rfl
    rw [History.handed, History.turns_call, List.flatMap_append, List.flatMap_singleton,
      List.count_append, ← History.handed, ← ih, History.told_call, hwaiting]
    simp only [outcomes_append, List.length_append]
    change (c.perform now call).after.pending.holding id + _ = c.pending.holding id + _ at hturn
    omega
  | told _ ih =>
    rw [History.told_tell, History.handed, History.turns_tell]
    show _ + (outcomes id ((_ ++ _) ++ List.drop 1 _)).length = _
    rw [List.append_assoc, List.take_append_drop]
    exact ih
  | changed _ _ _ _ ih => exact ih

/-- Of the calls so far, those that came last handed over frames under the identifiers that they
took in turn. -/
theorem Past.handed_sublist (hpast : Past others config corrections c h)
    {prior recent : List (Turn ρ σ)} (hturns : h.turns = prior ++ recent) :
    ∃ first used, first ≤ sends prior ∧ used ≤ sends recent ∧ c.nextId = nthId (first + used) ∧
      (recent.flatMap (·.handed)).Sublist ((List.range' first used).map nthId) := by
  induction hpast generalizing prior recent with
  | made =>
    obtain ⟨rfl, rfl⟩ := List.append_eq_nil_iff.1 hturns.symm
    exact ⟨0, 0, Nat.le_refl 0, Nat.le_refl 0, rfl, List.Sublist.slnil⟩
  | @called c h hpast now call ih =>
    have hidentifiers := Turn.identifiers (t := ⟨c, now, call⟩) hpast.settled
    rw [History.turns_call] at hturns
    rcases List.eq_nil_or_concat recent with rfl | ⟨recent, t, rfl⟩
    · rw [List.append_nil] at hturns
      obtain ⟨first, used, hfirst, hused, hnext, -⟩ := ih (List.append_nil h.turns).symm
      have hzero : used = 0 := Nat.le_zero.1 hused
      rw [hzero, Nat.add_zero] at hnext
      rw [← hturns, sends_concat]
      rcases hidentifiers with ⟨hsame, -⟩ | ⟨hsend, hafter, -⟩
      · exact ⟨first, 0, by omega, Nat.le_refl 0, hsame.trans hnext, List.Sublist.slnil⟩
      · refine ⟨first + 1, 0, by rw [hsend]; exact Nat.succ_le_succ hfirst, Nat.le_refl 0, ?_,
          List.Sublist.slnil⟩
        rw [Nat.add_zero, ← next_nthId, ← hnext]
        exact hafter
    · rw [List.concat_eq_append, ← List.append_assoc] at hturns
      obtain ⟨hearlier, hlast⟩ := List.append_inj' hturns rfl
      cases List.singleton_inj.1 hlast
      obtain ⟨first, used, hfirst, hused, hnext, hsub⟩ := ih hearlier
      rw [List.concat_eq_append, sends_concat, List.flatMap_append, List.flatMap_singleton]
      rcases hidentifiers with ⟨hsame, hnone⟩ | ⟨hsend, hafter, hone⟩
      · refine ⟨first, used, hfirst, by omega, hsame.trans hnext, ?_⟩
        rw [hnone, List.append_nil]
        exact hsub
      · refine ⟨first, used + 1, hfirst, by rw [hsend]; exact Nat.succ_le_succ hused, ?_, ?_⟩
        · rw [← Nat.add_assoc, ← next_nthId, ← hnext]
          exact hafter
        · change List.Sublist _ [c.nextId] at hone
          rw [hnext] at hone
          rw [List.range'_concat, List.map_append, Nat.one_mul]
          exact hsub.append hone
  | told _ ih =>
    rw [History.turns_tell] at hturns
    exact ih hturns
  | changed _ _ _ _ ih => exact ih hturns

/-- The identifier of the next command is fresh: none of the last 2^32 - 1 attempts handed a frame
over under it. -/
theorem Past.nextId_not_mem (hpast : Past others config corrections c h)
    {prior recent : List (Turn ρ σ)} (hturns : h.turns = prior ++ recent)
    (hrecent : sends recent < UInt32.size) : c.nextId ∉ recent.flatMap (·.handed) := by
  obtain ⟨first, used, -, hused, hnext, hsub⟩ := hpast.handed_sublist hturns
  intro hmem
  obtain ⟨n, hn, hsame⟩ := List.mem_map.1 (hsub.subset hmem)
  have hrange := List.mem_range'_1.1 hn
  rw [hnext] at hsame
  exact nthId_ne (by omega) (by omega) hsame

/-- Assumes: fewer than 2^32 attempts. No slot holds the identifier of the next command, and no
event has told or is going to tell of it. -/
theorem Past.nextId_unused (hpast : Past others config corrections c h)
    (hsends : sends h.turns < UInt32.size) :
    c.pending.holding c.nextId = 0 ∧ outcomes c.nextId (h.told ++ h.waiting) = [] := by
  have hbalance := hpast.balance c.nextId
  have hfresh := hpast.nextId_not_mem (List.nil_append h.turns).symm hsends
  rw [History.handed, List.count_eq_zero_of_not_mem hfresh, Nat.add_eq_zero_iff] at hbalance
  exact ⟨hbalance.1, List.length_eq_zero_iff.1 hbalance.2⟩

end Past

/-! ### Runs -/

/-- The identifiers under which frames were handed to the radio in a run. -/
def handed (c : Coordinator ρ σ) (calls : List (Moment × Call)) : List CorrelationId :=
  (c.turns calls).flatMap (·.handed)

theorem handed_concat (c : Coordinator ρ σ) (calls : List (Moment × Call))
    (timed : Moment × Call) :
    c.handed (calls ++ [timed]) = c.handed calls ++ (c.nextTurn calls timed).handed := by
  simp only [handed, turns_concat, List.flatMap_append, List.flatMap_singleton]

/-- The attempts of a run are those of its turns. -/
theorem sends_turns (c : Coordinator ρ σ) (calls : List (Moment × Call)) :
    sends (c.turns calls) = attempts calls := by
  induction calls using List.reverseRecOn with
  | nil => rfl
  | append_singleton calls timed ih =>
    rw [turns_concat, sends_concat, ih, attempts, attempts, List.countP_append,
      List.countP_singleton]
    show _ + timed.2.isSend.toNat = _
    cases timed.2.isSend <;> rfl

section Run

variable (config : AdapterConfig) (corrections : CorrectionTable) (radio : ρ) (store : Option σ)

/-- Every run is balanced, also after the identifiers have wrapped. -/
theorem run_balance (calls : List (Moment × Call)) (id : CorrelationId) :
    ((new config corrections radio store).run calls).pending.holding id +
        (outcomes id ((new config corrections radio store).log calls)).length =
      ((new config corrections radio store).handed calls).count id := by
  obtain ⟨h, hpast, hturns, htold, hwaiting⟩ := past_run Eq config corrections radio store calls
  have hbalance := hpast.balance id
  rw [History.handed, hturns, htold, hwaiting, List.append_nil] at hbalance
  exact hbalance

/-- The identifiers a run hands to the radio are taken in turn from the first one on. -/
theorem handed_sublist (calls : List (Moment × Call)) :
    ∃ used ≤ attempts calls,
      ((new config corrections radio store).run calls).nextId = nthId used ∧
        ((new config corrections radio store).handed calls).Sublist
          ((List.range used).map nthId) := by
  obtain ⟨h, hpast, hturns, -⟩ := past_run Eq config corrections radio store calls
  have hall : h.turns = [] ++ h.turns := (List.nil_append _).symm
  obtain ⟨first, used, hfirst, hused, hnext, hsub⟩ := hpast.handed_sublist hall
  have hzero : first = 0 := Nat.le_zero.1 hfirst
  rw [hzero, Nat.zero_add] at hnext
  rw [hzero, ← List.range_eq_range', hturns] at hsub
  rw [hturns, sends_turns] at hused
  exact ⟨used, hused, hnext, hsub⟩

/-- Assumes: fewer than 2^32 attempts. No two frames of a run are handed over under one
identifier. -/
theorem handed_nodup {calls : List (Moment × Call)} (hattempts : attempts calls < UInt32.size) :
    ((new config corrections radio store).handed calls).Nodup := by
  obtain ⟨used, hused, -, hsub⟩ := handed_sublist config corrections radio store calls
  exact (nthId_injOn (Nat.lt_of_le_of_lt hused hattempts)).sublist hsub

/-- Assumes: fewer than 2^32 attempts. An identifier is handed to the radio in one turn only. -/
theorem eq_of_mem_handed {calls : List (Moment × Call)} (hattempts : attempts calls < UInt32.size)
    {t u : Turn ρ σ} (ht : t ∈ (new config corrections radio store).turns calls)
    (hu : u ∈ (new config corrections radio store).turns calls) {id : CorrelationId}
    (hidt : id ∈ t.handed) (hidu : id ∈ u.handed) : t = u := by
  by_contra hne
  have hdisjoint :=
    (List.nodup_flatMap.1 (handed_nodup config corrections radio store hattempts)).2
  have hsymm : Std.Symm (Function.onFun List.Disjoint fun t : Turn ρ σ ↦ t.handed) :=
    ⟨fun _ _ h _ hy hx ↦ h hx hy⟩
  exact hdisjoint.forall ht hu hne hidt hidu

end Run

end MeshBridge.Coordinator
