import MeshBridge.Proofs.Coordinator.Accounting
import MeshBridge.Proofs.Coordinator.Reach
/-!
Calls that fail. A clean call changes nothing and tells nothing when it fails, and almost every call
is clean: what is changed before the last check is changed only where the check cannot fail any
more. The radio may refuse what it is asked; of this the sender of a frame and the start of the
network tell, and nothing else is changed by it (`failing`). Both always tell, and once
(`perform_start_of_refused`, `perform_send_of_refused`). So a command is sent just if all that
stands in its way is out of it (`exists_issued_iff`).
-/

set_option autoImplicit false
set_option relaxedAutoImplicit false

namespace MeshBridge.Coordinator

variable {ρ σ α β : Type}

/-! ### Clean steps -/

/-- A step that failed changed nothing and told nothing. -/
def Clean (c : Coordinator ρ σ) (s : Step ρ σ α) : Prop :=
  ∀ f, s.result = .error f → s.after = c ∧ s.events = []

theorem clean_refuse {c : Coordinator ρ σ} {f : Fault} : Clean c (c.refuse f : Step ρ σ α) :=
  fun _ _ ↦ ⟨rfl, rfl⟩

theorem clean_of_ok {c : Coordinator ρ σ} {s : Step ρ σ α} {a : α} (h : s.result = .ok a) :
    Clean c s := by
  intro f hfail
  rw [h] at hfail
  cases hfail

theorem error_of_map {s : Step ρ σ α} {g : α → β} {f : Fault} (h : (s.map g).result = .error f) :
    s.result = .error f := by
  change s.result.map g = .error f at h
  cases hresult : s.result with
  | ok a =>
    rw [hresult] at h
    cases h
  | error other =>
    rw [hresult] at h
    cases h
    rfl

theorem clean_init (c : Coordinator ρ σ) : Clean c c.init := by
  unfold init
  split_ifs
  · exact clean_of_ok rfl
  · exact clean_refuse

theorem clean_formed [KeyValueStore σ] (c : Coordinator ρ σ) (status panId : UInt16)
    (channel : UInt8) : Clean c (c.formed status panId channel) := by
  unfold formed
  split_ifs
  · split
    · exact clean_refuse
    · exact clean_of_ok rfl
  · split
    · exact clean_refuse
    · exact clean_of_ok rfl

theorem clean_fatal (c : Coordinator ρ σ) (reason : String) : Clean c (c.fatal reason) := by
  unfold fatal
  split
  · exact clean_refuse
  · exact clean_of_ok rfl

/-- Assumes: a proper cache. Where it has no room for a device, nothing was displaced. -/
theorem clean_announce {c : Coordinator ρ σ} (h : c.cache.Proper) (now : Moment) (device : Eui64)
    (address : NetworkAddress) : Clean c (c.announce now device address) := by
  unfold announce
  split
  · exact clean_refuse
  · split
    · next hput =>
      rw [(h.put_error hput).1]
      exact fun _ _ ↦ ⟨rfl, rfl⟩
    · exact clean_of_ok rfl

theorem clean_leave (c : Coordinator ρ σ) (device : Eui64) : Clean c (c.leave device) := by
  unfold leave
  split
  · exact clean_refuse
  · split
    · exact clean_refuse
    · exact clean_of_ok rfl
    · exact clean_of_ok rfl
    · exact clean_of_ok rfl

/-- Assumes: a proper cache. Refreshing an entry of it changes nothing, so a report of a device that
is no longer known changes nothing either. -/
theorem clean_report {c : Coordinator ρ σ} (h : c.cache.Proper) (now : Moment) (r : Report) :
    Clean c (c.report now r) := by
  unfold report
  rw [reporter_eq h]
  split
  · exact clean_refuse
  · split
    · exact clean_refuse
    · cases c.cache.lookupByAddress r.address with
      | none => exact fun _ _ ↦ ⟨rfl, rfl⟩
      | some entry =>
        dsimp only
        split
        · exact fun _ _ ↦ ⟨rfl, rfl⟩
        · split_ifs
          · exact clean_of_ok rfl
          · exact clean_of_ok rfl

theorem clean_status (c : Coordinator ρ σ) (seq : SequenceNumber) (status : UInt16) :
    Clean c (c.status seq status) := by
  unfold Coordinator.status
  split
  · exact clean_refuse
  · split
    · exact clean_of_ok rfl
    · exact clean_refuse

theorem clean_remove (c : Coordinator ρ σ) (device : Eui64) : Clean c (c.remove device) := by
  unfold remove
  split
  · exact clean_refuse
  · split
    · exact clean_refuse
    · exact clean_of_ok rfl
    · exact clean_of_ok rfl

/-! ### Failing calls -/

variable [Radio ρ] [KeyValueStore σ]

/-- How a call fails. Whichever way, the network, the cache, the slots and the known devices are as
they were, and the radio accepted no frame. -/
inductive Turn.Failing (t : Turn ρ σ) : Fault → Prop
  /-- Nothing is told. At most an identifier was used up, or the radio declined to be opened: it
  refused no frame, and was not asked to form a network. -/
  | quietly {f : Fault}
      (hafter : t.after = { t.before with nextId := t.after.nextId, radio := t.after.radio })
      (hevents : t.events = []) (haccepted : t.accepted? = none) (hrejected : t.rejected? = none)
      (hstart : t.call = .start → t.before.lifecycle ≠ .initializing) :
    Failing t f
  /-- The radio refuses the frame of a command, and the failure of the command is told under the
  next identifier, which is used up by it. -/
  | rejected (rejection : Rejection) (hsend : t.call.isSend = true)
      (hafter : t.after =
        { t.before with nextId := ⟨t.before.nextId.value + 1⟩, radio := t.after.radio })
      (hevents : t.events = [.commandFailed t.before.nextId rejection.code])
      (haccepted : t.accepted? = none) (hrejected : t.rejected? = some rejection) :
    Failing t (.protocolFailure rejection.code)
  /-- The radio refuses to form a network, which is told as the failure of the stack. -/
  | refusedStart (rejection : Rejection) (hcall : t.call = .start)
      (hbefore : t.before.lifecycle = .initializing)
      (hanswer : (Radio.start t.before.radio).2 = .error rejection)
      (hafter : t.after = { t.before with lifecycle := .error, radio := t.after.radio })
      (hevents : t.events = [.stackDown ("formation request refused: " ++ rejection.message)])
      (haccepted : t.accepted? = none) (hrejected : t.rejected? = none) :
    Failing t (.stackFatal ("formation request refused: " ++ rejection.message))

/-- A call that fails fails quietly if it changed and told nothing, and asked the radio neither for
a frame nor for a network. -/
theorem Turn.failing_of_unchanged {t : Turn ρ σ} {f : Fault}
    (hother : ∀ device endpoint request, t.call ≠ .send device endpoint request)
    (hstart : t.call = .start → t.before.lifecycle ≠ .initializing)
    (hafter : t.after = t.before) (hevents : t.events = []) : t.Failing f := by
  obtain ⟨haccepted, hrejected⟩ := answers_of_not_send hother
  exact .quietly (by rw [hafter]) hevents haccepted hrejected hstart

theorem Turn.failing_start {c : Coordinator ρ σ} {now : Moment} {f : Fault}
    (hfail : c.start.result = .error f) : (Turn.mk c now .start).Failing f := by
  have hafter : (Turn.mk c now .start).after = c.start.after := rfl
  have hevents : (Turn.mk c now .start).events = c.start.events := rfl
  unfold Coordinator.start at hfail hafter hevents
  cases hlifecycle : c.lifecycle with
  | ready =>
    rw [hlifecycle] at hfail
    cases hfail
  | uninitialized | error =>
    rw [hlifecycle] at hafter hevents
    refine failing_of_unchanged (by simp) ?_ hafter hevents
    intro _ hinitializing
    cases hlifecycle.symm.trans hinitializing
  | initializing =>
    rw [hlifecycle] at hfail hafter hevents
    cases hanswer : Radio.start c.radio with
    | mk radio answer =>
      rw [hanswer] at hfail hafter hevents
      cases answer with
      | ok => cases hfail
      | error rejection =>
        obtain ⟨haccepted, hrejected⟩ := answers_of_not_send (t := ⟨c, now, .start⟩) (by simp)
        cases hfail
        exact .refusedStart rejection rfl hlifecycle (by rw [hanswer]) (by rw [hafter]) hevents
          haccepted hrejected

theorem Turn.failing_permitJoin {c : Coordinator ρ σ} {now : Moment} {seconds : UInt8} (f : Fault) :
    (Turn.mk c now (.permitJoin seconds)).Failing f := by
  obtain ⟨haccepted, hrejected⟩ :=
    answers_of_not_send (t := ⟨c, now, .permitJoin seconds⟩) (by simp)
  have hafter : (Turn.mk c now (.permitJoin seconds)).after =
      { c with radio := (c.permitJoin seconds).after.radio } := c.permitJoin_frame seconds
  exact .quietly (by rw [hafter]) (c.permitJoin_events seconds) haccepted hrejected nofun

/-- Assumes: a settled table. -/
theorem Turn.failing_send {c : Coordinator ρ σ} (h : c.pending.Settled) {now : Moment}
    {device : Eui64} {endpoint : UInt8} {request : Request} {f : Fault}
    (hfail : (c.send now device endpoint request).result = .error f) :
    (Turn.mk c now (.send device endpoint request)).Failing f := by
  have hend := sendEnd h now device endpoint request
  have hafter : (Turn.mk c now (.send device endpoint request)).after =
    (c.send now device endpoint request).after := rfl
  have hevents : (Turn.mk c now (.send device endpoint request)).events =
    (c.send now device endpoint request).events := rfl
  generalize hexchanges : (Turn.mk c now (.send device endpoint request)).exchanges = exchanges
    at hend
  generalize c.send now device endpoint request = s at hend hfail hafter hevents
  cases hend with
  | unfit | untargeted =>
    exact .quietly (by rw [hafter]; rfl) hevents (by rw [accepted?, hexchanges]; rfl)
      (by rw [rejected?, hexchanges]; rfl) nofun
  | full =>
    exact .quietly (by rw [hafter]) hevents (by rw [accepted?, hexchanges]; rfl)
      (by rw [rejected?, hexchanges]; rfl) nofun
  | @rejected _ _ _ _ rejection =>
    cases hfail
    exact .rejected rejection rfl (by rw [hafter]) hevents (by rw [accepted?, hexchanges]; rfl)
      (by rw [rejected?, hexchanges]; rfl)
  | accepted => cases hfail

/-- Assumes: a settled table and a proper cache. Whatever call fails, it fails in one of three
ways. -/
theorem Turn.failing {t : Turn ρ σ} (hsettled : t.before.pending.Settled)
    (hproper : t.before.cache.Proper) {f : Fault} (hfail : t.result = .error f) : t.Failing f := by
  obtain ⟨c, now, call⟩ := t
  have hquiet (hother : ∀ device endpoint request, call ≠ .send device endpoint request)
      (hstart : call ≠ .start)
      (hclean : (c.perform now call).after = c ∧ (c.perform now call).events = []) :
      (Turn.mk c now call).Failing f :=
    failing_of_unchanged hother (fun hcall ↦ absurd hcall hstart) hclean.1 hclean.2
  cases call with
  | init => exact hquiet (by simp) nofun (c.clean_init f (error_of_map hfail))
  | start => exact failing_start (error_of_map hfail)
  | permitJoin seconds => exact failing_permitJoin f
  | formed status panId channel =>
    exact hquiet (by simp) nofun (c.clean_formed status panId channel f (error_of_map hfail))
  | fatal reason => exact hquiet (by simp) nofun (c.clean_fatal reason f (error_of_map hfail))
  | announce device address =>
    exact hquiet (by simp) nofun (clean_announce hproper now device address f (error_of_map hfail))
  | leave device => exact hquiet (by simp) nofun (c.clean_leave device f (error_of_map hfail))
  | report r => exact hquiet (by simp) nofun (clean_report hproper now r f (error_of_map hfail))
  | status seq status =>
    exact hquiet (by simp) nofun (c.clean_status seq status f (error_of_map hfail))
  | remove device => exact hquiet (by simp) nofun (c.clean_remove device f (error_of_map hfail))
  | sweep => cases hfail
  | send device endpoint request => exact failing_send hsettled (error_of_map hfail)

/-! ### Refusals -/

/-- A start that the radio refuses is told as the failure of the stack, which is in error then. -/
theorem perform_start_of_refused {c : Coordinator ρ σ} (now : Moment) {rejection : Rejection}
    (hlifecycle : c.lifecycle = .initializing)
    (hanswer : (Radio.start c.radio).2 = .error rejection) :
    c.perform now .start =
      ⟨{ c with lifecycle := .error, radio := (Radio.start c.radio).1 },
        [.stackDown ("formation request refused: " ++ rejection.message)],
        .error (.stackFatal ("formation request refused: " ++ rejection.message))⟩ := by
  have hradio : Radio.start c.radio = ((Radio.start c.radio).1, .error rejection) :=
    Prod.ext rfl hanswer
  rw [perform, Coordinator.start, hlifecycle, hradio]
  rfl

/-- A frame that the radio refuses is told as the failure of its command. -/
theorem perform_send_of_refused {c : Coordinator ρ σ} (now : Moment) {device : Eui64}
    {endpoint : UInt8} {request : Request} {address : NetworkAddress} {rejection : Rejection}
    (hcheck : request.check = .ok ()) (hready : c.lifecycle = .ready)
    (haddress : c.address? device = some address) (hroom : c.pending.inUse < c.pending.capacity)
    (hanswer : (Radio.send ⟨address, endpoint, request⟩ c.radio).2 = .error rejection) :
    c.perform now (.send device endpoint request) =
      ⟨{ c with
          nextId := ⟨c.nextId.value + 1⟩
          radio := (Radio.send ⟨address, endpoint, request⟩ c.radio).1 },
        [.commandFailed c.nextId rejection.code], .error (.protocolFailure rejection.code)⟩ := by
  obtain ⟨⟨allocated, slot⟩, halloc⟩ :
      ∃ taken, c.pending.alloc c.nextId request.name now.ticks = .ok taken :=
    PendingTable.exists_alloc_iff.2 hroom
  have hradio : Radio.send ⟨address, endpoint, request⟩ c.radio =
    ((Radio.send ⟨address, endpoint, request⟩ c.radio).1, .error rejection) := Prod.ext rfl hanswer
  rw [perform, send_of_rejected hcheck (target_eq_ok_iff.2 ⟨hready, haddress⟩) halloc hradio]
  rfl

/-! ### Sends that succeed -/

/-- Assumes: a settled table, and a request that may be sent. The send succeeds just if the
coordinator is ready, the device is in reach, a slot is free and the radio accepts the frame. -/
theorem exists_issued_iff {c : Coordinator ρ σ} (h : c.pending.Settled) (now : Moment)
    (device : Eui64) (endpoint : UInt8) {request : Request} (hcheck : request.check = .ok ()) :
    (∃ id, (c.send now device endpoint request).result = .ok id) ↔
      c.lifecycle = .ready ∧ ∃ address, c.address? device = some address ∧
        c.pending.inUse < c.pending.capacity ∧
        ∃ seq, (Radio.send ⟨address, endpoint, request⟩ c.radio).2 = .ok seq := by
  constructor
  · rintro ⟨id, hissued⟩
    have hend := sendEnd h now device endpoint request
    generalize (Turn.mk c now (.send device endpoint request)).exchanges = exchanges at hend
    generalize c.send now device endpoint request = s at hend hissued
    cases hend with
    | unfit | untargeted | full | rejected => cases hissued
    | @accepted address _ _ _ seq _ htarget halloc hanswer =>
      obtain ⟨hready, haddress⟩ := target_eq_ok_iff.1 htarget
      exact ⟨hready, address, haddress, PendingTable.exists_alloc_iff.1 ⟨_, halloc⟩, seq,
        by rw [hanswer]⟩
  · rintro ⟨hready, address, haddress, hroom, seq, hanswer⟩
    have htarget := target_eq_ok_iff.2 ⟨hready, haddress⟩
    obtain ⟨⟨allocated, slot⟩, halloc⟩ :
        ∃ taken, c.pending.alloc c.nextId request.name now.ticks = .ok taken :=
      PendingTable.exists_alloc_iff.2 hroom
    have hradio : Radio.send ⟨address, endpoint, request⟩ c.radio =
      ((Radio.send ⟨address, endpoint, request⟩ c.radio).1, .ok seq) := Prod.ext rfl hanswer
    rw [send_of_accepted h hcheck htarget halloc hradio]
    exact ⟨c.nextId, rfl⟩

/-! ### Pasts -/

/-- A call that fails does so in one of three ways, of which two are just the refusals of the radio,
and a command fails only where something stands in its way. -/
structure FailsWell (config : AdapterConfig) (c : Coordinator ρ σ) (h : History ρ σ) : Prop where
  failing : ∀ now call f, (c.perform now call).result = .error f → (Turn.mk c now call).Failing f
  /-- When the radio refuses to form a network, the stack is in error, which is told once. -/
  refusedStart : ∀ now rejection, c.lifecycle = .initializing →
    (Radio.start c.radio).2 = .error rejection →
    c.perform now .start =
      ⟨{ c with lifecycle := .error, radio := (Radio.start c.radio).1 },
        [.stackDown ("formation request refused: " ++ rejection.message)],
        .error (.stackFatal ("formation request refused: " ++ rejection.message))⟩
  /-- When it refuses the frame of a command, the command has failed, which is told once. -/
  rejectedSend : ∀ now device endpoint request address rejection, request.check = .ok () →
    c.lifecycle = .ready → c.address? device = some address →
    c.pending.inUse < config.maxPending →
    (Radio.send ⟨address, endpoint, request⟩ c.radio).2 = .error rejection →
    c.perform now (.send device endpoint request) =
      ⟨{ c with
          nextId := ⟨c.nextId.value + 1⟩
          radio := (Radio.send ⟨address, endpoint, request⟩ c.radio).1 },
        [.commandFailed c.nextId rejection.code], .error (.protocolFailure rejection.code)⟩
  /-- The identifier under which a failure would be told is fresh: none of the last 2^32 - 1
  attempts handed a frame over under it. -/
  fresh : ∀ prior recent, h.turns = prior ++ recent → sends recent < UInt32.size →
    c.nextId ∉ recent.flatMap (·.handed)
  /-- Before the identifiers wrap it is in no slot, and no event ever told of it. -/
  unused : sends h.turns < UInt32.size →
    c.pending.holding c.nextId = 0 ∧ outcomes c.nextId (h.told ++ h.waiting) = []
  issued_iff : ∀ now device endpoint request, request.check = .ok () →
    ((∃ id, (c.send now device endpoint request).result = .ok id) ↔
      c.lifecycle = .ready ∧ ∃ address, c.address? device = some address ∧
        c.pending.inUse < config.maxPending ∧
        ∃ seq, (Radio.send ⟨address, endpoint, request⟩ c.radio).2 = .ok seq)

variable {others : Registry → Registry → Prop} {config : AdapterConfig}
  {corrections : CorrectionTable} {c : Coordinator ρ σ} {h : History ρ σ}

/-- However a coordinator came to be as it is, and whatever others did to the known devices, calls
on it fail well. -/
theorem failsWell_of_past (hpast : Past others config corrections c h) : FailsWell config c h where
  failing _ _ _ hfail := Turn.failing hpast.settled hpast.proper.1 hfail
  refusedStart now _ hlifecycle hanswer := perform_start_of_refused now hlifecycle hanswer
  rejectedSend now device endpoint request address rejection hcheck hready haddress hroom := by
    rw [← hpast.dimensions.1] at hroom
    exact perform_send_of_refused now hcheck hready haddress hroom
  fresh _ _ hturns hrecent := hpast.nextId_not_mem hturns hrecent
  unused hsends := hpast.nextId_unused hsends
  issued_iff now device endpoint request hcheck := by
    rw [exists_issued_iff hpast.settled now device endpoint hcheck, hpast.dimensions.1]

/-- The radio refuses to form a network, or, once a device is in reach, the frame of a command. -/
theorem failsWell_of_past_refusal :
    (∃ (c : Coordinator SimulatedRadio MemoryStore) (h : History SimulatedRadio MemoryStore),
      Past Eq default .empty c h ∧ c.lifecycle = .initializing ∧
        (Radio.start c.radio).2 = .error ⟨0x00B1⟩ ∧ FailsWell default c h) ∧
    ∃ (c : Coordinator SimulatedRadio MemoryStore) (h : History SimulatedRadio MemoryStore),
      Past Eq default .empty c h ∧
        (c.send ⟨2, 0⟩ ⟨7⟩ 1 (.onOff .toggle)).result = .error (.protocolFailure 0x00B1) ∧
        FailsWell default c h := by
  have hmade : Past Eq default .empty (new default .empty
      { SimulatedRadio.empty with refusal := some 0x00B1 } (none : Option MemoryStore)) .empty :=
    .made _ _
  have hopened := hmade.called ⟨0, 0⟩ .init
  have hreached := (hopened.called ⟨0, 0⟩ (.formed 0 0x1A62 15)).called ⟨1, 0⟩
    (.announce ⟨7⟩ 0x1234)
  exact ⟨⟨_, _, hopened, rfl, rfl, failsWell_of_past hopened⟩,
    _, _, hreached, by decide, failsWell_of_past hreached⟩

end MeshBridge.Coordinator
