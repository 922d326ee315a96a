import MeshBridge.Proofs.Gateway.Onlooking
import MeshBridge.Proofs.Gateway.Requests
import MeshBridge.Proofs.Mqtt.Images
import MeshBridge.Radio.Simulated
import MeshBridge.Store.Memory
/-!
What the broker is told in a run. Whatever a gateway does comes to calls on its coordinator, one
after the other (`turns`). With the bridge attached from the start and everyone else looking on, the
messages to the broker are the images of the events of these calls, one for one and in their order,
and for every device they say last whether it is online (`mirrored_of_untouched`).
-/

set_option autoImplicit false
set_option relaxedAutoImplicit false

namespace MeshBridge.Gateway

open Coordinator (Turn Course images)

variable {ρ σ α : Type} [Radio ρ] [KeyValueStore σ]

/-! ### Calls -/

omit [KeyValueStore σ] in
/-- The call that a command of a series comes to, if it can be resolved. -/
def Attempt.turns (a : Attempt ρ σ) : List (Turn ρ σ) :=
  match a.before.coordinator.resolve a.target a.intent with
  | .ok request =>
    [⟨a.before.coordinator, a.before.now, .send a.target.device a.target.endpoint request⟩]
  | .error _ => []

/-- The calls on the coordinator that an action makes. -/
def turnsOf (g : Gateway ρ σ) : Action → List (Turn ρ σ)
  | .call call => [⟨g.coordinator, g.now, call⟩]
  | .poll => [⟨g.coordinator, g.now, .sweep⟩]
  | .carryOut target intent => (g.attempt (target, intent)).turns
  | .paint target hue saturation value =>
    (g.attempts (painting target hue saturation value)).flatMap (·.turns)
  | .receive topic payload =>
    match g.broker.plan g.coordinator topic payload with
    | .ok plan => (g.attempts plan).flatMap (·.turns)
    | .error _ => []
  | _ => []

/-- The gateway after actions done in turn. -/
def run (g : Gateway ρ σ) (actions : List Action) : Gateway ρ σ :=
  actions.foldl (fun g action ↦ (g.perform action).1) g

/-- The calls on the coordinator in a run, oldest first. -/
def turns (g : Gateway ρ σ) : List Action → List (Turn ρ σ)
  | [] => []
  | action :: rest => g.turnsOf action ++ (g.perform action).1.turns rest

/-! ### What the broker is told of them -/

/-- These calls led from one gateway to another, and the broker was told of each of their events
what the bridge had to tell of it. -/
structure Tells (turns : List (Turn ρ σ)) (g after : Gateway ρ σ) : Prop where
  course : Course g.coordinator turns after.coordinator
  messages : after.messages.toList = g.messages.toList ++
    turns.flatMap fun t ↦ t.events.filterMap (g.broker.message? t.after)
  broker : after.broker = g.broker
  tended : Tended after
  /-- There is room for further publications. -/
  room : after.depth < after.bus.maxDepth

section Tells

variable {turns more : List (Turn ρ σ)} {g between after : Gateway ρ σ}

/-- Where no message was handed over, no call was made. -/
theorem Posts.tells (h : Posts [] g after) (hroom : g.depth < g.bus.maxDepth) :
    Tells [] g after where
  course := by
    obtain ⟨radio, store, hcoordinator⟩ := h.coordinator
    rw [hcoordinator]
    exact .stays radio store
  messages := h.messages
  broker := h.broker
  tended := h.tended
  room := by
    rw [h.depth, h.maxDepth]
    exact hroom

theorem Tended.tells_nothing (h : Tended g) (hroom : g.depth < g.bus.maxDepth) : Tells [] g g :=
  (Posts.refl h).tells hroom

theorem Tells.trans (hfirst : Tells turns g between) (hrest : Tells more between after) :
    Tells (turns ++ more) g after where
  course := hfirst.course.trans hrest.course
  messages := by
    rw [hrest.messages, hfirst.messages, hfirst.broker, List.append_assoc, List.flatMap_append]
  broker := hrest.broker.trans hfirst.broker
  tended := hrest.tended
  room := hrest.room

/-- A call is told of by the messages for its events. -/
theorem Tended.tells_settle (h : Tended g) (hroom : g.depth < g.bus.maxDepth)
    {now : Moment} {call : Coordinator.Call} {s : Step ρ σ α}
    (hafter : s.after = (g.coordinator.perform now call).after)
    (hevents : s.events = (g.coordinator.perform now call).events) :
    Tells [⟨g.coordinator, now, call⟩] g (settle publish g s).1 := by
  have hposts := posts_settle h hroom s
  obtain ⟨radio, store, hcoordinator⟩ := hposts.coordinator
  refine ⟨?_, ?_, hposts.broker, hposts.tended, ?_⟩
  · rw [hcoordinator]
    show Course g.coordinator _ { s.after with radio, store }
    rw [hafter]
    exact (Course.single g.coordinator now call).aside radio store
  · rw [hposts.messages, List.flatMap_singleton, hafter, hevents]
    rfl
  · rw [hposts.depth, hposts.maxDepth]
    exact hroom

/-- A command that cannot be resolved makes no call, and the broker hears nothing of it. Any other
is the call that sends its request, but for the form of the result. -/
theorem Attempt.tells (a : Attempt ρ σ) (h : Tended a.before)
    (hroom : a.before.depth < a.before.bus.maxDepth) : Tells a.turns a.before a.after := by
  unfold turns
  cases hrequest : a.before.coordinator.resolve a.target a.intent with
  | error f =>
    rw [after_of_unresolved hrequest]
    exact h.tells_nothing hroom
  | ok request =>
    have hstep : a.step = a.before.coordinator.send a.before.now a.target.device
        a.target.endpoint request := by
      rw [step, Coordinator.carryOut, hrequest]
    exact h.tells_settle hroom (by rw [hstep]; rfl) (by rw [hstep]; rfl)

/-- A series makes the calls of its attempts. -/
theorem Tended.tells_runPlan (h : Tended g) (hroom : g.depth < g.bus.maxDepth)
    (plan : List (Target × Intent)) (given : List CorrelationId) :
    Tells ((g.attempts plan).flatMap (·.turns)) g (runPlan publish given plan g).1 := by
  induction plan generalizing g given with
  | nil => exact h.tells_nothing hroom
  | cons item rest ih =>
    have hfirst := (g.attempt item).tells h hroom
    cases hresult : (g.attempt item).step.result with
    | ok id =>
      rw [attempts_of_ok hresult, runPlan_of_ok hresult, List.flatMap_cons]
      exact hfirst.trans (ih hfirst.tended hfirst.room _)
    | error cause =>
      rw [attempts_of_error hresult, runPlan_of_error hresult, List.flatMap_singleton]
      exact hfirst

end Tells

variable {g : Gateway ρ σ}

theorem Tended.tells_drive (h : Tended g) (hroom : g.depth < g.bus.maxDepth) {action : Action}
    (haction : action.drives = true) : Tells (g.turnsOf action) g (g.perform action).1 := by
  cases action with
  | call call => exact h.tells_settle hroom rfl rfl
  | poll => exact h.tells_settle hroom rfl rfl
  | carryOut target intent => exact (g.attempt (target, intent)).tells h hroom
  | paint target hue saturation value => exact h.tells_runPlan hroom _ []
  | receive topic payload =>
    cases hplan : g.broker.plan g.coordinator topic payload with
    | error f =>
      have hturns : g.turnsOf (.receive topic payload) = [] := by simp only [turnsOf, hplan]
      rw [hturns, receive_of_unplanned hplan]
      exact h.tells_nothing hroom
    | ok plan =>
      have hturns : g.turnsOf (.receive topic payload) =
          (g.attempts plan).flatMap (·.turns) := by simp only [turnsOf, hplan]
      rw [hturns, perform_receive hplan]
      exact h.tells_runPlan hroom plan []
  | _ => cases haction

/-- Who looks on makes no calls. -/
theorem turnsOf_of_onlooking {action : Action} (h : Onlooking action) (g : Gateway ρ σ) :
    g.turnsOf action = [] := by
  have hdrives := h.drives_eq
  cases action with
  | call | poll | carryOut | paint | receive => cases hdrives
  | _ => rfl

theorem Tended.tells_perform (h : Tended g) (hroom : g.depth < g.bus.maxDepth) {action : Action}
    (haction : action.drives = true ∨ Onlooking action) :
    Tells (g.turnsOf action) g (g.perform action).1 := by
  rcases haction with hdrives | honlooking
  · exact h.tells_drive hroom hdrives
  · rw [turnsOf_of_onlooking honlooking]
    exact (honlooking.posts_act quiet_publish h).tells hroom

/-- By induction on the actions of a run. -/
theorem Tended.tells_run (h : Tended g) (hroom : g.depth < g.bus.maxDepth) {actions : List Action}
    (hactions : ∀ action ∈ actions, action.drives = true ∨ Onlooking action) :
    Tells (g.turns actions) g (g.run actions) := by
  induction actions generalizing g with
  | nil => exact h.tells_nothing hroom
  | cons action rest ih =>
    obtain ⟨hfirst, hrest⟩ := List.forall_mem_cons.1 hactions
    have htold := h.tells_perform hroom hfirst
    exact htold.trans (ih htold.tended htold.room hrest)

/-! ### From the start -/

/-- What a run tells the broker, from the moment on at which the bridge was attached. This is said
of every run, so it is said of every point between two actions of a run. -/
structure Mirrored (parts : Parts ρ σ) (attached : Gateway ρ σ) (actions : List Action) : Prop where
  /-- The calls of the run are all that happened to the coordinator. -/
  course : Course attached.coordinator (attached.turns actions) (attached.run actions).coordinator
  /-- The messages are the images of the events of these calls, in their order. -/
  messages : (attached.run actions).messages.toList =
    images (.new parts.mqtt) parts.corrections (attached.turns actions)
  /-- The last message on the availability of a device says that it is online just if it is. -/
  availability : ∀ device,
    (payloadsOn (Topic.availability (MqttBridge.new parts.mqtt).baseTopic device)
        (attached.run actions).messages.toList).getLast? = some "online" ↔
      ∃ node, (attached.run actions).coordinator.devices.find? device = some node ∧
        node.online = true

omit [Radio ρ] [KeyValueStore σ] in
/-- What is told does not depend on how the bridge is attached. -/
theorem message?_of_attached (b : MqttBridge) (ids : List Nat) :
    MqttBridge.message? { b with subscriptions := ids } =
      MqttBridge.message? (ρ := ρ) (σ := σ) b := by
  funext c e
  cases e <;> rfl

/-- Assumes: the bus publishes at all, the bridge was attached before anything was done, and nobody
but the coordinator changes the known devices, the bridge or the messages. Whatever is done then and
whoever looks on, the messages to the broker mirror the events. -/
theorem mirrored_of_untouched {parts : Parts ρ σ} {attached : Gateway ρ σ}
    (h : Untouched parts g) (hopen : 1 ≤ parts.eventBus.maxDepth)
    (hattach : g.perform .attach = (attached, .ok .done)) {actions : List Action}
    (hactions : ∀ action ∈ actions, action.drives = true ∨ Onlooking action) :
    Mirrored parts attached actions := by
  obtain ⟨htended, ids, bus, hmaxDepth, hattached⟩ :=
    tended_of_attach h.onlookers h.listens hattach
  have hroom : attached.depth < attached.bus.maxDepth := by
    rw [hattached]
    show g.depth < bus.maxDepth
    rw [hmaxDepth, h.depth, h.maxDepth]
    exact hopen
  have htells := htended.tells_run hroom hactions
  obtain ⟨radio, store, hcoordinator⟩ := h.coordinator
  have hstart : attached.coordinator = .new parts.adapter parts.corrections radio store := by
    rw [hattached]
    exact hcoordinator
  have hcourse := htells.course
  rw [hstart] at hcourse
  have hbroker : attached.broker = { MqttBridge.new parts.mqtt with subscriptions := ids } := by
    rw [hattached, ← h.broker]
  have hnothing : attached.messages = #[] := by
    rw [hattached]
    exact h.messages
  have hmessages : (attached.run actions).messages.toList =
      images (.new parts.mqtt) parts.corrections (attached.turns actions) := by
    rw [htells.messages, hnothing, hbroker, message?_of_attached, hcourse.messages_eq]
    rfl
  refine ⟨htells.course, hmessages, fun device ↦ ?_⟩
  rw [hmessages]
  exact hcourse.announces _ device

/-- Parts with the default settings and no corrections, over the simulated radio. -/
def simulatedParts : Parts SimulatedRadio MemoryStore :=
  ⟨default, default, default, .empty, SimulatedRadio.empty, none⟩

/-- A gateway on whose bus a script looks on when devices leave: it asks what is known, subscribes
another onlooker and publishes that a command was confirmed. -/
def lookedOn : Gateway SimulatedRadio MemoryStore :=
  ((ofParts simulatedParts).perform (.subscribe .deviceLeft
    [("known", .snapshot), ("more", .subscribe .deviceJoined [("pause", .wait 5)]),
      ("confirmed", .publish (.commandConfirmed ⟨1⟩))])).1

theorem untouched_lookedOn : Untouched simulatedParts lookedOn := by
  refine (untouched_ofParts simulatedParts).subscribed rfl (.script ?_)
  intro step hstep
  simp only [List.mem_cons, List.not_mem_nil, or_false] at hstep
  rcases hstep with rfl | rfl | rfl
  · exact .aside rfl
  · refine .subscribe .deviceJoined fun step hstep ↦ ?_
    rw [List.mem_singleton.1 hstep]
    exact .aside rfl
  · exact .publish (by decide)

/-- A device joins and tells that it is on. Then another one takes its address. -/
def takeover : List Action :=
  [.call (.announce ⟨7⟩ 0x1234), .call (.report ⟨0x1234, 1, 0x0006, 0x0000, 0x10, [1]⟩), .wait 10,
    .call (.announce ⟨8⟩ 0x1234), .poll]

/-- The device that lost its address is told to be offline before the other one is told to be
online. -/
theorem mirrored_of_untouched_takeover :
    ((lookedOn.perform .attach).1.run takeover).messages.toList =
        [⟨"zigbee2mqtt/0000000000000007/availability", "online", true⟩,
          ⟨"zigbee2mqtt/0000000000000007/on_off/state",
            "\x7b\"value\":true,\"endpoint\":1\x7d", false⟩,
          ⟨"zigbee2mqtt/0000000000000007/availability", "offline", true⟩,
          ⟨"zigbee2mqtt/0000000000000008/availability", "online", true⟩] ∧
      Mirrored simulatedParts (lookedOn.perform .attach).1 takeover := by
  have hactions : ∀ action ∈ takeover, action.drives = true ∨ Onlooking action := by
    intro action haction
    simp only [takeover, List.mem_cons, List.not_mem_nil, or_false] at haction
    rcases haction with rfl | rfl | rfl | rfl | rfl
    · exact Or.inl rfl
    · exact Or.inl rfl
    · exact Or.inr (.aside rfl)
    · exact Or.inl rfl
    · exact Or.inl rfl
  exact ⟨by decide, mirrored_of_untouched untouched_lookedOn (by decide) rfl hactions⟩

end MeshBridge.Gateway
