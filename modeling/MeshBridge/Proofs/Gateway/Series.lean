import MeshBridge.Proofs.Coordinator.Sending
import MeshBridge.Proofs.Gateway.Watching
/-!
Series of commands. The commands of a series are attempted in their order until one fails, and the
rest are not. What a series gives back accounts exactly for what it sent, whether it got to its end
or stopped part way: the identifiers it gives and the frames of its own that the radio accepted are
two columns of one list (`accounted_runPlan`).
-/

set_option autoImplicit false
set_option relaxedAutoImplicit false

namespace MeshBridge

/-- Whether the radio accepted a frame. -/
def Exchange.isAccepted (e : Exchange) : Bool := e.accepted?.isSome

/-- A frame that the radio accepted under a number, with the identifier of its command. -/
structure Sent where
  id : CorrelationId
  frame : Frame
  sequence : SequenceNumber

/-- How the radio was asked for it. -/
def Sent.exchange (s : Sent) : Exchange := .send s.frame (.ok s.sequence)

namespace Gateway

open Coordinator (History Past SendEnd Turn sendEnd)

variable {ρ σ : Type}

/-- A command of a series whose turn came, and the gateway that it found. -/
structure Attempt (ρ σ : Type) where
  before : Gateway ρ σ
  target : Target
  intent : Intent

namespace Attempt

variable [Radio ρ]

/-- What is done to the coordinator. -/
def step (a : Attempt ρ σ) : Step ρ σ CorrelationId :=
  a.before.coordinator.carryOut a.before.now a.target a.intent

/-- What the command itself asks of the radio. -/
def own (a : Attempt ρ σ) : List Exchange :=
  ((a.before.coordinator.watched []).carryOut a.before.now a.target a.intent).after.radio.exchanges

/-- It delivered a frame to the radio that is what was to be sent. -/
structure Delivers (a : Attempt ρ σ) (s : Sent) : Prop where
  result : a.step.result = .ok s.id
  own : a.own = [s.exchange]
  request : a.before.coordinator.resolve a.target a.intent = .ok s.frame.request
  endpoint : s.frame.endpoint = a.target.endpoint
  address : a.before.coordinator.address? a.target.device = some s.frame.address

variable [KeyValueStore σ]

/-- The gateway when all events of the command were published. -/
def after (a : Attempt ρ σ) : Gateway ρ σ := (settle publish a.before a.step).1

/-- What the handlers ask of the radio when these events are published. -/
def meanwhile (a : Attempt ρ σ) : List Exchange :=
  (publishAll publish ({ a.before with coordinator := a.step.after }.watched [])
    a.step.events).coordinator.radio.exchanges

omit [KeyValueStore σ] in
theorem own_of_unresolved {a : Attempt ρ σ} {f : Fault}
    (h : a.before.coordinator.resolve a.target a.intent = .error f) :
    a.step = a.before.coordinator.refuse f ∧ a.own = [] := by
  constructor
  · rw [step, Coordinator.carryOut, h]
  · rw [own, Coordinator.carryOut, Coordinator.resolve_watched, h]
    rfl

/-- A command that cannot be resolved leaves the gateway as it was. -/
theorem after_of_unresolved {a : Attempt ρ σ} {f : Fault}
    (h : a.before.coordinator.resolve a.target a.intent = .error f) : a.after = a.before := by
  obtain ⟨hstep, -⟩ := own_of_unresolved h
  exact settle_of_quiet publish (by rw [hstep]; rfl) (by rw [hstep]; rfl)

theorem sendEnd_of_resolved {a : Attempt ρ σ} (h : a.before.coordinator.pending.Settled)
    {request : Request} (hrequest : a.before.coordinator.resolve a.target a.intent = .ok request) :
    SendEnd a.before.coordinator a.before.now a.target.device a.target.endpoint request a.step
      a.own := by
  have hend := sendEnd h a.before.now a.target.device a.target.endpoint request
  have hown : a.own = (Turn.mk a.before.coordinator a.before.now
      (.send a.target.device a.target.endpoint request)).exchanges := by
    rw [own, Coordinator.carryOut, Coordinator.resolve_watched, hrequest]
    rfl
  rw [step, Coordinator.carryOut, hrequest, hown]
  exact hend

/-- Assumes: a settled table of pending commands. A command either fails without a frame that the
radio accepted, or it delivers one frame and gives the identifier that goes with it. -/
theorem delivers_or_fails (a : Attempt ρ σ) (h : a.before.coordinator.pending.Settled) :
    (∃ s, a.Delivers s) ∨
      ∃ f, a.step.result = .error f ∧ ∀ exchange ∈ a.own, exchange.isAccepted = false := by
  cases hrequest : a.before.coordinator.resolve a.target a.intent with
  | error f =>
    obtain ⟨hstep, hown⟩ := own_of_unresolved hrequest
    exact Or.inr ⟨f, by rw [hstep]; rfl, by simp [hown]⟩
  | ok request =>
    have hend := sendEnd_of_resolved h hrequest
    generalize hstep : a.step = s at hend
    generalize hown : a.own = own at hend
    cases hend with
    | unfit | untargeted | full => exact Or.inr ⟨_, rfl, by simp⟩
    | rejected hcheck htarget halloc hanswer =>
      exact Or.inr ⟨_, rfl, by simp [Exchange.isAccepted, Exchange.accepted?]⟩
    | @accepted address _ _ _ seq hcheck htarget halloc hanswer =>
      refine Or.inl ⟨⟨a.before.coordinator.nextId, ⟨address, a.target.endpoint, request⟩, seq⟩, ?_⟩
      exact {
        result := by rw [hstep]
        own := hown
        request := hrequest
        endpoint := rfl
        address := (Coordinator.target_eq_ok_iff.1 htarget).2 }

/-- Assumes: a settled table of pending commands. -/
theorem delivers_of_ok {a : Attempt ρ σ} (h : a.before.coordinator.pending.Settled)
    {id : CorrelationId} (hresult : a.step.result = .ok id) : ∃ s, a.Delivers s := by
  rcases a.delivers_or_fails h with hdelivers | ⟨f, hfails, -⟩
  · exact hdelivers
  · cases hresult.symm.trans hfails

omit [KeyValueStore σ] in
/-- A command changes nothing of what is known of the devices. -/
theorem devices_after (a : Attempt ρ σ) :
    a.step.after.devices = a.before.coordinator.devices ∧
      a.step.after.corrections = a.before.coordinator.corrections := by
  rw [step, Coordinator.carryOut]
  split
  · exact ⟨rfl, rfl⟩
  · rw [Coordinator.send_frame]
    exact ⟨rfl, rfl⟩

theorem exists_past {others : Registry → Registry → Prop} {config : AdapterConfig}
    {corrections : CorrectionTable} {h : History ρ σ} (a : Attempt ρ σ)
    (hpast : Past others config corrections a.before.coordinator h) :
    ∃ h, Past others config corrections a.step.after h := by
  rw [step, Coordinator.carryOut]
  split
  · exact ⟨h, hpast⟩
  · exact hpast.run [(a.before.now, .send a.target.device a.target.endpoint _)]

end Attempt

/-! ### Series -/

/-- The turn of a command. -/
def attempt (g : Gateway ρ σ) (item : Target × Intent) : Attempt ρ σ := ⟨g, item.1, item.2⟩

variable [Radio ρ] [KeyValueStore σ]

/-- The commands of a series that are attempted: all up to the first that fails, each on the gateway
that the one before it left. -/
def attempts (g : Gateway ρ σ) : List (Target × Intent) → List (Attempt ρ σ)
  | [] => []
  | item :: rest =>
    match (g.attempt item).step.result with
    | .ok _ => g.attempt item :: (g.attempt item).after.attempts rest
    | .error _ => [g.attempt item]

/-- The identifiers that a series gives, whether it got to its end or stopped part way. -/
def issued : Except (BatchFault CorrelationId) (List CorrelationId) → List CorrelationId
  | .ok ids => ids
  | .error f => f.issued

/-- How a series is accounted for: what it asked of the radio with all that the handlers asked
meanwhile, what it left and gave, and the frames that it sent. -/
structure Accounted (g : Gateway ρ σ) (plan : List (Target × Intent)) (exchanges : List Exchange)
    (outcome : Gateway ρ σ × Except (BatchFault CorrelationId) (List CorrelationId))
    (sent : List Sent) : Prop where
  /-- One identifier is given for each frame that was sent, in their order. -/
  issued : issued outcome.2 = sent.map (·.id)
  /-- The radio accepted these frames of the series, and no others. -/
  accepted : ((g.attempts plan).flatMap (·.own)).filter (·.isAccepted) = sent.map (·.exchange)
  /-- Each frame is what its command was to send. -/
  delivered : List.Forall₂ Attempt.Delivers ((g.attempts plan).take sent.length) sent
  /-- The commands were attempted in the order of the plan. -/
  ordered : (g.attempts plan).map (fun a ↦ (a.target, a.intent)) =
    plan.take (g.attempts plan).length
  /-- The end is reached when the radio accepted a frame for every command. -/
  ok : ∀ ids, outcome.2 = .ok ids → (g.attempts plan).length = plan.length ∧
    sent.length = plan.length
  /-- A series stops at the one command that fails, and attempts none of those after it. -/
  error : ∀ f, outcome.2 = .error f → ∃ earlier last, g.attempts plan = earlier ++ [last] ∧
    earlier.length = sent.length ∧ last.step.result = .error f.cause
  /-- Nothing else was asked of the radio but by handlers, when they were told of a command. -/
  asked : exchanges = (g.attempts plan).flatMap fun a ↦ a.own ++ a.meanwhile
  /-- So where handlers have no frame accepted meanwhile, the frames of the series are all that the
  radio accepted. -/
  alone : (∀ a ∈ g.attempts plan, ∀ exchange ∈ a.meanwhile, exchange.isAccepted = false) →
    exchanges.filter (·.isAccepted) = sent.map (·.exchange)
  /-- The gateway is as the last attempt left it. -/
  left : outcome.1 = ((g.attempts plan).getLast?.map (·.after)).getD g

section Turns

variable {g : Gateway ρ σ} {item : Target × Intent} {id : CorrelationId} {cause : Fault}

theorem runPlan_of_ok (h : (g.attempt item).step.result = .ok id) (given : List CorrelationId)
    (rest : List (Target × Intent)) :
    runPlan publish given (item :: rest) g =
      runPlan publish (given ++ [id]) rest (g.attempt item).after := by
  have hsettle : settle publish g (g.coordinator.carryOut g.now item.1 item.2) =
    ((g.attempt item).after, .ok id) := Prod.ext rfl h
  simp only [runPlan, hsettle]

theorem runPlan_of_error (h : (g.attempt item).step.result = .error cause)
    (given : List CorrelationId) (rest : List (Target × Intent)) :
    runPlan publish given (item :: rest) g =
      ((g.attempt item).after, .error ⟨given, cause⟩) := by
  have hsettle : settle publish g (g.coordinator.carryOut g.now item.1 item.2) =
    ((g.attempt item).after, .error cause) := Prod.ext rfl h
  simp only [runPlan, hsettle]

theorem attempts_of_ok (h : (g.attempt item).step.result = .ok id)
    (rest : List (Target × Intent)) :
    g.attempts (item :: rest) = g.attempt item :: (g.attempt item).after.attempts rest := by
  rw [attempts, h]

theorem attempts_of_error (h : (g.attempt item).step.result = .error cause)
    (rest : List (Target × Intent)) : g.attempts (item :: rest) = [g.attempt item] := by
  rw [attempts, h]

end Turns

theorem Attempt.settled_after (a : Attempt ρ σ) (h : a.before.coordinator.pending.Settled) :
    a.after.coordinator.pending.Settled :=
  Kept.settle (P := fun c ↦ c.pending.Settled) settled_publish
    (kept_settled.carryOut h a.before.now a.target a.intent)

/-- Assumes: a settled table of pending commands. All attempts but one that fails at the end deliver
a frame each, and the identifiers of these are what is given. -/
theorem runPlan_cases {g : Gateway ρ σ} (h : g.coordinator.pending.Settled)
    (plan : List (Target × Intent)) (given : List CorrelationId) :
    ∃ earlier sent, List.Forall₂ Attempt.Delivers earlier sent ∧
      (g.attempts plan = earlier ∧ earlier.length = plan.length ∧
          (runPlan publish given plan g).2 = .ok (given ++ sent.map (·.id)) ∨
        ∃ last cause, g.attempts plan = earlier ++ [last] ∧ last.step.result = .error cause ∧
          (∀ exchange ∈ last.own, exchange.isAccepted = false) ∧
            (runPlan publish given plan g).2 = .error ⟨given ++ sent.map (·.id), cause⟩) := by
  induction plan generalizing g given with
  | nil => exact ⟨[], [], .nil, Or.inl ⟨rfl, rfl, congrArg Except.ok (List.append_nil given).symm⟩⟩
  | cons item rest ih =>
    rcases (g.attempt item).delivers_or_fails h with ⟨s, hs⟩ | ⟨f, hfailed, hnone⟩
    · have hgiven (sent : List Sent) :
          given ++ [s.id] ++ sent.map (·.id) = given ++ (s :: sent).map (·.id) := by simp
      obtain ⟨earlier, sent, hdelivered, hcase⟩ :=
        ih ((g.attempt item).settled_after h) (given ++ [s.id])
      refine ⟨g.attempt item :: earlier, s :: sent, .cons hs hdelivered, ?_⟩
      rw [attempts_of_ok hs.result, runPlan_of_ok hs.result, ← hgiven]
      rcases hcase with ⟨hall, hlength, hresult⟩ | ⟨last, cause, hall, hfailed, hnone, hresult⟩
      · exact Or.inl ⟨by rw [hall], congrArg (· + 1) hlength, hresult⟩
      · exact Or.inr ⟨last, cause, by rw [hall]; rfl, hfailed, hnone, hresult⟩
    · refine ⟨[], [], .nil, Or.inr ⟨g.attempt item, f, attempts_of_error hfailed rest, hfailed,
        hnone, ?_⟩⟩
      rw [runPlan_of_error hfailed, List.map_nil, List.append_nil]

/-- The commands are attempted in their order. -/
theorem attempts_ordered (g : Gateway ρ σ) (plan : List (Target × Intent)) :
    (g.attempts plan).map (fun a ↦ (a.target, a.intent)) =
      plan.take (g.attempts plan).length := by
  induction plan generalizing g with
  | nil => rfl
  | cons item rest ih =>
    cases hresult : (g.attempt item).step.result with
    | ok id =>
      rw [attempts_of_ok hresult, List.map_cons, ih, List.length_cons, List.take_succ_cons]
      rfl
    | error cause =>
      rw [attempts_of_error hresult]
      rfl

/-- After the last attempt nothing more is done. -/
theorem runPlan_left (g : Gateway ρ σ) (plan : List (Target × Intent))
    (given : List CorrelationId) :
    (runPlan publish given plan g).1 = ((g.attempts plan).getLast?.map (·.after)).getD g := by
  induction plan generalizing g given with
  | nil => rfl
  | cons item rest ih =>
    cases hresult : (g.attempt item).step.result with
    | ok id =>
      rw [attempts_of_ok hresult, runPlan_of_ok hresult, ih, List.getLast?_cons]
      cases ((g.attempt item).after.attempts rest).getLast? <;> rfl
    | error cause =>
      rw [attempts_of_error hresult, runPlan_of_error hresult]
      rfl

omit [KeyValueStore σ] in
/-- Commands that deliver ask for nothing to be accepted but their frames. -/
theorem accepted_of_delivered {attempts : List (Attempt ρ σ)} {sent : List Sent}
    (h : List.Forall₂ Attempt.Delivers attempts sent) :
    (attempts.flatMap (·.own)).filter (·.isAccepted) = sent.map (·.exchange) := by
  induction h with
  | nil => rfl
  | cons hfirst _ ih =>
    rw [List.flatMap_cons, List.filter_append, ih, hfirst.own]
    rfl

omit [KeyValueStore σ] in
/-- Commands that fail ask for nothing that is accepted. -/
theorem accepted_of_failed {exchanges : List Exchange}
    (h : ∀ exchange ∈ exchanges, exchange.isAccepted = false) :
    exchanges.filter (·.isAccepted) = [] :=
  List.filter_eq_nil_iff.2 fun exchange hexchange ↦ by simp [h exchange hexchange]

/-- What handlers ask for does not count if none of it is accepted. -/
theorem accepted_alone {attempts : List (Attempt ρ σ)}
    (h : ∀ a ∈ attempts, ∀ exchange ∈ a.meanwhile, exchange.isAccepted = false) :
    (attempts.flatMap fun a ↦ a.own ++ a.meanwhile).filter (·.isAccepted) =
      (attempts.flatMap (·.own)).filter (·.isAccepted) := by
  induction attempts with
  | nil => rfl
  | cons a rest ih =>
    obtain ⟨hfirst, hrest⟩ := List.forall_mem_cons.1 h
    simp only [List.flatMap_cons, List.filter_append, accepted_of_failed hfirst, ih hrest,
      List.append_nil]

/-! ### Series over a watched radio -/

theorem Attempt.settle_watched (g : Gateway ρ σ) (item : Target × Intent) (past : List Exchange) :
    settle publish (g.watched past) ((g.watched past).attempt item).step =
      ((g.attempt item).after.watched
          (past ++ ((g.attempt item).own ++ (g.attempt item).meanwhile)),
        (g.attempt item).step.result) := by
  set a := g.attempt item with ha
  obtain ⟨own, hown⟩ := g.coordinator.carryOut_watched g.now item.1 item.2
  obtain ⟨meanwhile, hmeanwhile⟩ := publishAll_watched transparent_publish
    { g with coordinator := a.step.after } a.step.events
  have hownBlank : a.own = own := congrArg (fun s ↦ s.after.radio.exchanges) (hown [])
  have hmeanwhileBlank : a.meanwhile = meanwhile :=
    congrArg (fun g ↦ g.coordinator.radio.exchanges) (hmeanwhile [])
  have hstep : ((g.watched past).attempt item).step =
    Coordinator.watchedStep a.step (past ++ own) := hown past
  rw [hstep, hownBlank, hmeanwhileBlank, ← List.append_assoc]
  exact Prod.ext (hmeanwhile (past ++ own)) rfl

theorem Attempt.result_watched (g : Gateway ρ σ) (item : Target × Intent) (past : List Exchange) :
    ((g.watched past).attempt item).step.result = (g.attempt item).step.result :=
  congrArg (·.2) (settle_watched g item past)

theorem Attempt.after_watched (g : Gateway ρ σ) (item : Target × Intent) (past : List Exchange) :
    ((g.watched past).attempt item).after =
      (g.attempt item).after.watched
        (past ++ ((g.attempt item).own ++ (g.attempt item).meanwhile)) :=
  congrArg (·.1) (settle_watched g item past)

/-- A command asks for what it needs, and then the handlers ask for what they want. -/
theorem exchanges_carryOut (g : Gateway ρ σ) (target : Target) (intent : Intent) :
    g.exchanges (.carryOut target intent) =
      (g.attempt (target, intent)).own ++ (g.attempt (target, intent)).meanwhile := by
  have hasks : Asks (fun g ↦ settle publish g (g.coordinator.carryOut g.now target intent))
      (fun g ↦ settle publish g (g.coordinator.carryOut g.now target intent)) g _ :=
    Attempt.settle_watched g (target, intent)
  exact exchanges_eq_of_asks (hasks.map (plain .issued))

/-- A series asks for what its attempts ask for, each time followed by what the handlers ask for
when they are told of it. -/
theorem asks_runPlan (plan : List (Target × Intent)) (given : List CorrelationId)
    (g : Gateway ρ σ) :
    Asks (runPlan publish given plan) (runPlan publish given plan) g
      ((g.attempts plan).flatMap fun a ↦ a.own ++ a.meanwhile) := by
  induction plan generalizing g given with
  | nil =>
    intro past
    rw [attempts, List.flatMap_nil, List.append_nil]
    rfl
  | cons item rest ih =>
    intro past
    have hwatched := Attempt.result_watched g item past
    have hafter := Attempt.after_watched g item past
    cases hresult : (g.attempt item).step.result with
    | ok id =>
      rw [attempts_of_ok hresult, runPlan_of_ok hresult, runPlan_of_ok (hwatched.trans hresult),
        hafter, ih, List.flatMap_cons, List.append_assoc]
    | error cause =>
      rw [attempts_of_error hresult, runPlan_of_error hresult,
        runPlan_of_error (hwatched.trans hresult), hafter, List.flatMap_singleton]

/-- Assumes: a settled table of pending commands. Every series is accounted for. -/
theorem accounted_runPlan {g : Gateway ρ σ} (h : g.coordinator.pending.Settled)
    (plan : List (Target × Intent)) {exchanges : List Exchange}
    (hasked : exchanges = (g.attempts plan).flatMap fun a ↦ a.own ++ a.meanwhile) :
    ∃ sent, Accounted g plan exchanges (runPlan publish [] plan g) sent := by
  have hordered := g.attempts_ordered plan
  have hleft := g.runPlan_left plan []
  obtain ⟨earlier, sent, hdelivered, hcase⟩ := runPlan_cases h plan []
  have hlength := hdelivered.length_eq
  have haccepted := accepted_of_delivered hdelivered
  refine ⟨sent, ?_⟩
  have hown : ((g.attempts plan).flatMap (·.own)).filter (·.isAccepted) =
      sent.map (·.exchange) := by
    rcases hcase with ⟨hall, -⟩ | ⟨last, cause, hall, -, hnone, -⟩
    · rw [hall, haccepted]
    · rw [hall, List.flatMap_append, List.filter_append, haccepted, List.flatMap_singleton,
        accepted_of_failed hnone, List.append_nil]
  have halone (h : ∀ a ∈ g.attempts plan, ∀ exchange ∈ a.meanwhile, exchange.isAccepted = false) :
      exchanges.filter (·.isAccepted) = sent.map (·.exchange) := by
    rw [hasked, accepted_alone h, hown]
  rcases hcase with ⟨hall, hwhole, hresult⟩ | ⟨last, cause, hall, hfailed, -, hresult⟩
  · exact {
      issued := by rw [hresult]; rfl
      accepted := hown
      delivered := by rw [hall, ← hlength, List.take_length]; exact hdelivered
      ordered := hordered
      ok := fun _ _ ↦ by rw [hall]; exact ⟨hwhole, hlength.symm.trans hwhole⟩
      error := by rw [hresult]; nofun
      asked := hasked
      alone := halone
      left := hleft }
  · exact {
      issued := by rw [hresult]; rfl
      accepted := hown
      delivered := by rw [hall, ← hlength, List.take_left]; exact hdelivered
      ordered := hordered
      ok := by rw [hresult]; nofun
      error := by
        intro f hf
        rw [hresult] at hf
        cases hf
        exact ⟨earlier, last, hall, hlength, hfailed⟩
      asked := hasked
      alone := halone
      left := hleft }

end Gateway

end MeshBridge
