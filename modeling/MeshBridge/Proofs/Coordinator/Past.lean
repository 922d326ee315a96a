import MeshBridge.Coordinator.Run
import MeshBridge.Proofs.Coordinator.Frames
import Mathlib.Data.List.Induction
/-!
What a coordinator went through. A call changes the coordinator at once, but it tells its events one
at a time, and whoever is told of one may make calls before the next one is told. So a history has
the calls in the order in which they took effect, the events in the order in which they were told,
and the events that are still waiting to be told. `Past` says of a coordinator and a history that
the one can have the other as its past, whatever the radio and the store do of themselves, and
whatever others do to the known devices as far as they are allowed to.

A run of calls made in turn is the case in which no event is left waiting (`past_run`), so what is
shown of every past holds of every run. In any past, only the joining of devices and the giving up
of commands may be told late: all other events are told in the order of their calls, at once
(`filter_told_call`) and never of what waited (`Past.filter_told_tell`).
-/

set_option autoImplicit false
set_option relaxedAutoImplicit false

namespace MeshBridge.Coordinator

variable {ρ σ : Type}

/-- A thing that happened to a coordinator. -/
inductive Entry (ρ σ : Type) where
  /-- A call took effect. -/
  | called (t : Turn ρ σ)
  | told (e : Event)

namespace Entry

def turn? : Entry ρ σ → Option (Turn ρ σ)
  | called t => some t
  | told _ => none

def event? : Entry ρ σ → Option Event
  | called _ => none
  | told e => some e

end Entry

/-- What happened to a coordinator since it was made. -/
structure History (ρ σ : Type) where
  /-- Oldest first. -/
  entries : List (Entry ρ σ)
  /-- The events of earlier calls that are still to be told, the next one first. -/
  waiting : List Event

namespace History

def empty : History ρ σ := ⟨[], []⟩

/-- The calls in the order in which they took effect. -/
def turns (h : History ρ σ) : List (Turn ρ σ) := h.entries.filterMap Entry.turn?

/-- The events told so far, oldest first. -/
def told (h : History ρ σ) : List Event := h.entries.filterMap Entry.event?

/-- The next event that waits is told. -/
def tell (h : History ρ σ) : History ρ σ :=
  ⟨h.entries ++ (h.waiting.take 1).map .told, h.waiting.drop 1⟩

/-- A call takes effect. Its first event is told at once, and the others before those that wait
already. -/
def call [Radio ρ] [KeyValueStore σ] (h : History ρ σ) (t : Turn ρ σ) : History ρ σ :=
  ⟨h.entries ++ .called t :: (t.events.take 1).map .told, t.events.drop 1 ++ h.waiting⟩

theorem filterMap_turn?_map_told (events : List Event) :
    (events.map (Entry.told (ρ := ρ) (σ := σ))).filterMap Entry.turn? = [] := by
  rw [List.filterMap_map]
  exact List.filterMap_eq_nil_iff.2 fun _ _ ↦ rfl

theorem filterMap_event?_map_told (events : List Event) :
    (events.map (Entry.told (ρ := ρ) (σ := σ))).filterMap Entry.event? = events := by
  rw [List.filterMap_map]
  exact List.filterMap_some

@[simp] theorem turns_tell (h : History ρ σ) : h.tell.turns = h.turns := by
  simp only [turns, tell, List.filterMap_append, filterMap_turn?_map_told, List.append_nil]

@[simp] theorem told_tell (h : History ρ σ) : h.tell.told = h.told ++ h.waiting.take 1 := by
  simp only [told, tell, List.filterMap_append, filterMap_event?_map_told]

section Call

variable [Radio ρ] [KeyValueStore σ]

@[simp] theorem turns_call (h : History ρ σ) (t : Turn ρ σ) :
    (h.call t).turns = h.turns ++ [t] := by
  simp only [turns, call, List.filterMap_append, List.filterMap_cons, Entry.turn?,
    filterMap_turn?_map_told]

@[simp] theorem told_call (h : History ρ σ) (t : Turn ρ σ) :
    (h.call t).told = h.told ++ t.events.take 1 := by
  simp only [told, call, List.filterMap_append, List.filterMap_cons, Entry.event?,
    filterMap_event?_map_told]

end Call

/-- All events that wait are told. -/
def settle (h : History ρ σ) : History ρ σ := ⟨h.entries ++ h.waiting.map .told, []⟩

@[simp] theorem turns_settle (h : History ρ σ) : h.settle.turns = h.turns := by
  simp only [turns, settle, List.filterMap_append, filterMap_turn?_map_told, List.append_nil]

@[simp] theorem told_settle (h : History ρ σ) : h.settle.told = h.told ++ h.waiting := by
  simp only [told, settle, List.filterMap_append, filterMap_event?_map_told]

/-- Where nothing waits, all events of a call may be told before the next one. -/
theorem told_settle_call [Radio ρ] [KeyValueStore σ] {h : History ρ σ} (hwaiting : h.waiting = [])
    (t : Turn ρ σ) : (h.call t).settle.told = h.told ++ t.events := by
  have hevents : t.events.take 1 ++ (h.call t).waiting = t.events := by
    show _ ++ (t.events.drop 1 ++ h.waiting) = _
    rw [hwaiting, List.append_nil, List.take_append_drop]
  rw [told_settle, told_call, List.append_assoc, hevents]

end History

/-! ### Pasts -/

section Past

variable [Radio ρ] [KeyValueStore σ]

/-- A coordinator of these settings can have this history. Others may change the known devices as
they are allowed to, and the radio and the store change as they like. -/
inductive Past (others : Registry → Registry → Prop) (config : AdapterConfig)
    (corrections : CorrectionTable) : Coordinator ρ σ → History ρ σ → Prop
  | made (radio : ρ) (store : Option σ) :
    Past others config corrections (new config corrections radio store) .empty
  | called {c : Coordinator ρ σ} {h : History ρ σ} (hpast : Past others config corrections c h)
      (now : Moment) (call : Call) :
    Past others config corrections (c.perform now call).after (h.call ⟨c, now, call⟩)
  | told {c : Coordinator ρ σ} {h : History ρ σ} (hpast : Past others config corrections c h) :
    Past others config corrections c h.tell
  | changed {c : Coordinator ρ σ} {h : History ρ σ} (hpast : Past others config corrections c h)
      {devices : Registry} (hdevices : others c.devices devices) (radio : ρ) (store : Option σ) :
    Past others config corrections { c with devices, radio, store } h

variable {others : Registry → Registry → Prop} {config : AdapterConfig}
  {corrections : CorrectionTable} {c : Coordinator ρ σ} {h : History ρ σ}

/-- Events that wait may be told with no call in between. -/
theorem Past.settle (hpast : Past others config corrections c h) :
    Past others config corrections c h.settle := by
  obtain ⟨entries, waiting⟩ := h
  induction waiting generalizing entries with
  | nil =>
    have hsame : History.settle (⟨entries, []⟩ : History ρ σ) = ⟨entries, []⟩ := by
      simp [History.settle]
    rw [hsame]
    exact hpast
  | cons e rest ih =>
    have hsettle := ih _ hpast.told
    simpa [History.settle, History.tell] using hsettle

/-- Calls made in turn, each after all events of the one before were told, are a past of the
coordinator they lead to. -/
theorem past_run (others : Registry → Registry → Prop) (config : AdapterConfig)
    (corrections : CorrectionTable) (radio : ρ) (store : Option σ)
    (calls : List (Moment × Call)) :
    ∃ h : History ρ σ,
      Past others config corrections ((new config corrections radio store).run calls) h ∧
        h.turns = (new config corrections radio store).turns calls ∧
        h.told = (new config corrections radio store).log calls ∧ h.waiting = [] := by
  set start := new config corrections radio store with hstart
  induction calls using List.reverseRecOn with
  | nil => exact ⟨.empty, .made radio store, rfl, rfl, rfl⟩
  | append_singleton calls timed ih =>
    obtain ⟨h, hpast, hturns, htold, hwaiting⟩ := ih
    refine ⟨(h.call (start.nextTurn calls timed)).settle, ?_, ?_, ?_, rfl⟩
    · rw [run_concat]
      exact (hpast.called timed.1 timed.2).settle
    · rw [turns_concat, History.turns_settle, History.turns_call, hturns]
    · rw [log_concat, History.told_settle_call hwaiting, htold]

/-- A past goes on with any calls. -/
theorem Past.run (hpast : Past others config corrections c h) (calls : List (Moment × Call)) :
    ∃ h, Past others config corrections (c.run calls) h := by
  induction calls generalizing c h with
  | nil => exact ⟨h, hpast⟩
  | cons timed rest ih => exact ih (hpast.called timed.1 timed.2)

/-- What every call and every change from outside keep holds at every point. -/
theorem Past.preserves {P : Coordinator ρ σ → Prop}
    (hnew : ∀ radio store, P (new config corrections radio store))
    (hcall : ∀ c now call, P c → P (c.perform now call).after)
    (hchanged : ∀ (c : Coordinator ρ σ) devices radio store, others c.devices devices → P c →
      P { c with devices, radio, store })
    (hpast : Past others config corrections c h) : P c := by
  induction hpast with
  | made radio store => exact hnew radio store
  | called _ now call ih => exact hcall _ now call ih
  | told _ ih => exact ih
  | changed _ hdevices radio store ih => exact hchanged _ _ radio store hdevices ih

/-- Every call was made on a coordinator that had the calls before it as its past. -/
theorem Past.before (hpast : Past others config corrections c h) {t : Turn ρ σ}
    (ht : t ∈ h.turns) :
    ∃ earlier : History ρ σ, Past others config corrections t.before earlier ∧
      ∃ later, h.turns = earlier.turns ++ t :: later := by
  induction hpast with
  | made => cases ht
  | @called c h hpast now call ih =>
    rw [History.turns_call] at ht ⊢
    rcases List.mem_append.1 ht with hearlier | hlast
    · obtain ⟨earlier, hbefore, later, hturns⟩ := ih hearlier
      exact ⟨earlier, hbefore, later ++ [⟨c, now, call⟩], by rw [hturns]; simp⟩
    · rw [List.mem_singleton.1 hlast]
      exact ⟨h, hpast, [], rfl⟩
  | told _ ih =>
    rw [History.turns_tell] at ht ⊢
    exact ih ht
  | changed _ _ _ _ ih => exact ih ht

/-- The settings and the corrections never change. -/
theorem Past.config_eq (hpast : Past others config corrections c h) :
    c.config = config ∧ c.corrections = corrections := by
  refine hpast.preserves (P := fun c ↦ c.config = config ∧ c.corrections = corrections)
    (fun _ _ ↦ ⟨rfl, rfl⟩) ?_ (fun _ _ _ _ _ hsame ↦ hsame)
  intro c now call hsame
  have hframed := c.framed_perform now call
  exact ⟨hframed.config.trans hsame.1, hframed.corrections.trans hsame.2⟩

/-! ### Events that wait -/

/-- Two calls tell several events. Of the others none has to wait. -/
def Call.tellsMany : Call → Bool
  | .announce .. | .sweep => true
  | _ => false

omit [Radio ρ] [KeyValueStore σ] in
theorem length_takeOffline_le (devices : Registry) (displaced : Option CacheEntry) :
    (takeOffline devices displaced).2.length ≤ 1 := by
  unfold takeOffline
  split
  · exact Nat.zero_le 1
  · split
    · split_ifs <;> simp
    · exact Nat.zero_le 1

omit [Radio ρ] [KeyValueStore σ] in
theorem length_reclaim_le (pending : PendingTable) (slot : Nat) (seq : SequenceNumber) :
    (reclaim pending slot seq).2.length ≤ 1 := by
  unfold reclaim
  split
  · exact Nat.zero_le 1
  · split <;> simp

omit [KeyValueStore σ] in
theorem length_send_events_le (c : Coordinator ρ σ) (now : Moment) (device : Eui64)
    (endpoint : UInt8) (request : Request) :
    (c.send now device endpoint request).events.length ≤ 1 := by
  unfold send
  split
  · exact Nat.zero_le 1
  · unfold dispatch
    split
    · exact Nat.zero_le 1
    · dsimp only
      split
      · exact Nat.zero_le 1
      · unfold transmit
        split
        · dsimp only
          split
          · exact length_reclaim_le ..
          · exact Nat.zero_le 1
        · exact Nat.le_refl 1

/-- Calls that do not tell many events tell one or none. -/
theorem length_events_le (c : Coordinator ρ σ) (now : Moment) {call : Call}
    (hfew : call.tellsMany = false) : (c.perform now call).events.length ≤ 1 := by
  cases call with
  | announce | sweep => cases hfew
  | init =>
    show c.init.events.length ≤ 1
    rw [init_events]
    exact Nat.zero_le 1
  | permitJoin seconds =>
    show (c.permitJoin seconds).events.length ≤ 1
    rw [permitJoin_events]
    exact Nat.zero_le 1
  | send device endpoint request => exact c.length_send_events_le now device endpoint request
  | start =>
    show c.start.events.length ≤ 1
    unfold start
    split
    · exact Nat.zero_le 1
    · exact Nat.zero_le 1
    · exact Nat.zero_le 1
    · split <;> simp
  | formed status panId channel =>
    show (c.formed status panId channel).events.length ≤ 1
    unfold formed
    split_ifs <;> split <;> simp [refuse]
  | fatal reason =>
    show (c.fatal reason).events.length ≤ 1
    unfold fatal
    split <;> simp [refuse]
  | leave device =>
    show (c.leave device).events.length ≤ 1
    unfold leave
    split
    · exact Nat.zero_le 1
    · split <;> simp [refuse]
  | report r =>
    show (c.report now r).events.length ≤ 1
    unfold report
    split
    · exact Nat.zero_le 1
    · split
      · exact Nat.zero_le 1
      · split
        · exact Nat.zero_le 1
        · split
          · exact Nat.zero_le 1
          · split_ifs <;> simp
  | status seq status =>
    show (c.status seq status).events.length ≤ 1
    unfold Coordinator.status
    split
    · exact Nat.zero_le 1
    · split <;> simp [refuse]
  | remove device =>
    show (c.remove device).events.length ≤ 1
    unfold remove
    split
    · exact Nat.zero_le 1
    · split
      · exact Nat.zero_le 1
      · exact Nat.zero_le 1
      · split_ifs <;> simp

/-- Only devices that joined and commands that were given up have to wait for another event of the
same call to be told. -/
theorem kind_of_mem_drop {c : Coordinator ρ σ} {now : Moment} {call : Call} {e : Event}
    (he : e ∈ (c.perform now call).events.drop 1) :
    e.kind = .deviceJoined ∨ e.kind = .commandTimeout := by
  cases hmany : call.tellsMany with
  | false =>
    rw [List.drop_eq_nil_of_le (c.length_events_le now hmany)] at he
    cases he
  | true =>
    cases call with
    | announce device address =>
      left
      have hevents : e ∈ (c.announce now device address).events.drop 1 := he
      unfold announce at hevents
      split at hevents
      · cases hevents
      · split at hevents
        · cases hevents
        · next displaced _ =>
          have hjoined : e ∈ [Event.deviceJoined device address] := by
            rw [List.drop_append,
              List.drop_eq_nil_of_le (length_takeOffline_le c.devices displaced)] at hevents
            exact List.mem_of_mem_drop hevents
          rw [List.mem_singleton.1 hjoined]
          rfl
    | sweep => exact Or.inr (sweep_kind (List.mem_of_mem_drop he))
    | _ => cases hmany

/-- Only such events are ever left waiting. -/
theorem Past.kind_of_mem_waiting (hpast : Past others config corrections c h) {e : Event}
    (he : e ∈ h.waiting) : e.kind = .deviceJoined ∨ e.kind = .commandTimeout := by
  induction hpast with
  | made => cases he
  | called _ now call ih =>
    rcases List.mem_append.1 he with hlater | hwaiting
    · exact kind_of_mem_drop hlater
    · exact ih hwaiting
  | told _ ih => exact ih (List.mem_of_mem_drop he)
  | changed _ _ _ _ ih => exact ih he

/-- A property of events that are told as soon as their call takes effect. -/
def Prompt (p : Event → Bool) : Prop :=
  ∀ e, e.kind = .deviceJoined ∨ e.kind = .commandTimeout → p e = false

/-- What is told of a call at once has all its prompt events. -/
theorem filter_told_call {p : Event → Bool} (hp : Prompt p) (h : History ρ σ) (t : Turn ρ σ) :
    (h.call t).told.filter p = h.told.filter p ++ t.events.filter p := by
  have hlater : (t.events.drop 1).filter p = [] := by
    rw [List.filter_eq_nil_iff]
    intro e he
    rw [hp e (kind_of_mem_drop he)]
    exact Bool.false_ne_true
  have hfirst : (t.events.take 1).filter p = t.events.filter p := by
    conv_rhs => rw [← List.take_append_drop 1 t.events, List.filter_append, hlater, List.append_nil]
  rw [History.told_call, List.filter_append, hfirst]

/-- Prompt events are not among those that waited. -/
theorem Past.filter_told_tell (hpast : Past others config corrections c h) {p : Event → Bool}
    (hp : Prompt p) : h.tell.told.filter p = h.told.filter p := by
  have hwaited : (h.waiting.take 1).filter p = [] := by
    rw [List.filter_eq_nil_iff]
    intro e he
    rw [hp e (hpast.kind_of_mem_waiting (List.mem_of_mem_take he))]
    exact Bool.false_ne_true
  rw [History.told_tell, List.filter_append, hwaited, List.append_nil]

end Past

end MeshBridge.Coordinator
