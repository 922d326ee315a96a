import MeshBridge.Proofs.Gateway.Activity
import Mathlib.Data.List.Nodup
/-!
Looking on. An onlooker may ask whatever can be asked, let time pass, subscribe more onlookers and
publish events that the bridge does not tell. It leaves alone the coordinator, but for its radio and
its store, and the bridge and the messages. On a bus where the bridge is attached and all other
handlers look on, a publication hands the broker the one message that tells of its event, whatever
handlers there are before and after the one of the bridge (`posts_publish`), and a step of the
coordinator hands it the messages of its events in their order (`posts_settle`).
-/

set_option autoImplicit false
set_option relaxedAutoImplicit false

namespace MeshBridge

/-! ### Requests that only read -/

/-- Whether a request to the registry only reads. -/
def RegistryRequest.reads : RegistryRequest → Bool
  | .find _ | .findByAddress _ | .getAttribute _ | .endpointWith .. | .endpoints _ | .size
  | .isEmpty | .nodes | .snapshot | .hasCluster .. | .attributes .. => true
  | _ => false

theorem Registry.perform_of_reads {r devices : Registry} {now : Int64} {request : RegistryRequest}
    {reply : Except Fault RegistryReply} (hreads : request.reads = true)
    (h : r.perform now request = some (devices, reply)) : devices = r := by
  cases request with
  | find | findByAddress | getAttribute | size | isEmpty | nodes | snapshot =>
    cases h
    rfl
  | endpointWith | endpoints =>
    obtain ⟨node, -, hsame⟩ := Option.map_eq_some_iff.1 h
    cases hsame
    rfl
  | hasCluster | attributes =>
    obtain ⟨node, -, hrest⟩ := Option.bind_eq_some_iff.1 h
    obtain ⟨level, -, hsame⟩ := Option.bind_eq_some_iff.1 hrest
    cases hsame
    rfl
  | _ => cases hreads

namespace Gateway

variable {ρ σ α : Type}

/-! ### Onlookers -/

/-- Whether an action leaves alone the known devices, the bus and the messages, whatever is asked or
set by it. -/
def Action.isAside : Action → Bool
  | .control _ | .wait _ | .read .. | .correct .. | .reportingFor .. | .measure .. | .topics
  | .snapshot | .messagesOn _ | .handlerCount _ | .breakOff | .address _ | .network
  | .persistedNetwork | .store .. | .corrections | .refused _ => true
  | _ => false

/-- An action by which one looks on. -/
inductive Onlooking : Action → Prop
  | aside {action : Action} (h : action.isAside = true) : Onlooking action
  | reads {request : RegistryRequest} (h : request.reads = true) : Onlooking (.registry request)
  /-- The bridge is attached once only, so this is refused. -/
  | attach : Onlooking .attach
  | publish {event : Event} (h : event.kind ∉ MqttBridge.kinds) : Onlooking (.publish event)
  | subscribe (kind : EventKind) {script : List (String × Action)}
      (h : ∀ step ∈ script, Onlooking step.2) : Onlooking (.subscribe kind script)

/-- Whether an action has the coordinator do something. -/
def Action.drives : Action → Bool
  | .call _ | .poll | .carryOut .. | .paint .. | .receive .. => true
  | _ => false

theorem Onlooking.drives_eq {action : Action} (h : Onlooking action) : action.drives = false := by
  cases h with
  | @aside action haside => cases action <;> first | rfl | cases haside
  | _ => rfl

namespace Handler

def isBroker : Handler → Bool
  | .broker => true
  | _ => false

/-- A handler that does nothing but look on. -/
inductive LooksOn : Handler → Prop
  | record : LooksOn .record
  | script {steps : List (String × Action)} (h : ∀ step ∈ steps, Onlooking step.2) :
    LooksOn (.script steps)

theorem LooksOn.isBroker_eq {handler : Handler} (h : handler.LooksOn) :
    handler.isBroker = false := by
  cases h <;> rfl

end Handler

/-- How often the bridge is subscribed to a kind of event. -/
def brokerCount (bus : EventBus Handler) (kind : EventKind) : Nat :=
  ((bus.handlers kind).map (·.handler)).countP (·.isBroker)

/-- The bridge is attached, messages reach the broker, and everyone else looks on. -/
structure Tended (g : Gateway ρ σ) : Prop where
  others : ∀ s ∈ g.bus.subscriptions, s.handler = .broker ∨ s.handler.LooksOn
  once : ∀ kind ∈ MqttBridge.kinds, brokerCount g.bus kind = 1
  attached : g.broker.subscriptions.isEmpty = false
  listens : g.brokerListens = true

/-- What a tended gateway is like once these messages were handed to the broker. The coordinator is
as it was, but for its radio and its store. -/
structure Posts (posted : List MqttMessage) (g after : Gateway ρ σ) : Prop where
  coordinator : ∃ radio store, after.coordinator = { g.coordinator with radio, store }
  broker : after.broker = g.broker
  messages : after.messages.toList = g.messages.toList ++ posted
  depth : after.depth = g.depth
  maxDepth : after.bus.maxDepth = g.bus.maxDepth
  tended : Tended after

section Posts

variable {posted more : List MqttMessage} {g between after : Gateway ρ σ}

theorem Posts.refl (h : Tended g) : Posts [] g g :=
  ⟨⟨_, _, rfl⟩, rfl, (List.append_nil _).symm, rfl, rfl, h⟩

theorem Posts.trans (hfirst : Posts posted g between) (hrest : Posts more between after) :
    Posts (posted ++ more) g after where
  coordinator := by
    obtain ⟨_, _, hbetween⟩ := hfirst.coordinator
    obtain ⟨radio, store, hafter⟩ := hrest.coordinator
    exact ⟨radio, store, by rw [hafter, hbetween]⟩
  broker := hrest.broker.trans hfirst.broker
  messages := by rw [hrest.messages, hfirst.messages, List.append_assoc]
  depth := hrest.depth.trans hfirst.depth
  maxDepth := hrest.maxDepth.trans hfirst.maxDepth
  tended := hrest.tended

/-- What lies beside the coordinator, the bridge and the bus may change. -/
theorem Tended.posts_of_same (h : Tended g)
    (hcoordinator : ∃ radio store, after.coordinator = { g.coordinator with radio, store })
    (hbroker : after.broker = g.broker) (hlistens : after.brokerListens = g.brokerListens)
    (hmessages : after.messages = g.messages) (hdepth : after.depth = g.depth)
    (hbus : after.bus = g.bus) : Posts [] g after where
  coordinator := hcoordinator
  broker := hbroker
  messages := by rw [hmessages, List.append_nil]
  depth := hdepth
  maxDepth := by rw [hbus]
  tended := ⟨by rw [hbus]; exact h.others, by rw [hbus]; exact h.once,
    by rw [hbroker]; exact h.attached, by rw [hlistens]; exact h.listens⟩

theorem Tended.posts_note (h : Tended g) (entry : TraceEntry) : Posts [] g (g.note entry) :=
  h.posts_of_same ⟨_, _, rfl⟩ rfl rfl rfl rfl rfl

/-- A message that is posted reaches the broker. -/
theorem Tended.posts_post (h : Tended g) (m : MqttMessage) : Posts [m] g (g.post m) := by
  have hpost : g.post m = { g.note (.message m) with messages := g.messages.push m } :=
    if_pos h.listens
  rw [hpost]
  exact ⟨⟨_, _, rfl⟩, rfl, Array.toList_push, rfl, rfl, ⟨h.others, h.once, h.attached, h.listens⟩⟩

/-- What is told of an event does not depend on the radio or the store. -/
theorem Posts.message? (h : Posts posted g after) (e : Event) :
    after.broker.message? after.coordinator e = g.broker.message? g.coordinator e := by
  obtain ⟨radio, store, hcoordinator⟩ := h.coordinator
  rw [h.broker, hcoordinator]
  cases e <;> rfl

end Posts

/-- Events of other kinds are not told. -/
theorem message?_of_kind (b : MqttBridge) (c : Coordinator ρ σ) {e : Event}
    (h : e.kind ∉ MqttBridge.kinds) : b.message? c e = none := by
  cases e with
  | commandConfirmed | commandFailed | commandTimeout => rfl
  | _ => simp [Event.kind, MqttBridge.kinds] at h

/-! ### Subscriptions -/

/-- A subscription is one that there was before, or it is for the handler that was subscribed. -/
theorem handler_of_subscribe {bus after : EventBus Handler} {kind : EventKind} {handler : Handler}
    {id : Nat} (h : bus.subscribe kind handler = .ok (after, id)) {s : Subscription Handler}
    (hs : s ∈ after.subscriptions) : s ∈ bus.subscriptions ∨ s.handler = handler := by
  rw [EventBus.subscribe_eq_ok h] at hs
  rcases List.mem_append.1 hs with hearlier | hlast
  · exact Or.inl hearlier
  · exact Or.inr (by rw [List.mem_singleton.1 hlast])

/-- A further subscription counts where it is one of the bridge to the kind. -/
theorem brokerCount_subscribe {bus after : EventBus Handler} {kind : EventKind} {handler : Handler}
    {id : Nat} (h : bus.subscribe kind handler = .ok (after, id)) (k : EventKind) :
    brokerCount after k =
      brokerCount bus k + if kind = k ∧ handler.isBroker = true then 1 else 0 := by
  rw [EventBus.subscribe_eq_ok h]
  simp only [brokerCount, EventBus.handlers, List.filter_append, List.map_append,
    List.countP_append]
  by_cases hkind : kind = k <;> simp [hkind, List.countP_singleton]

/-- More onlookers may be subscribed. -/
theorem Tended.posts_subscribe {g : Gateway ρ σ} (h : Tended g) {bus : EventBus Handler}
    {kind : EventKind} {handler : Handler} {id : Nat}
    (hsubscribe : g.bus.subscribe kind handler = .ok (bus, id)) (hhandler : handler.LooksOn) :
    Posts [] g { g with bus } := by
  have hbus := EventBus.subscribe_eq_ok hsubscribe
  refine ⟨⟨_, _, rfl⟩, rfl, (List.append_nil _).symm, rfl, by rw [hbus], ?_⟩
  refine ⟨?_, ?_, h.attached, h.listens⟩
  · intro s hs
    rcases handler_of_subscribe hsubscribe hs with hearlier | hlast
    · exact h.others s hearlier
    · rw [hlast]
      exact Or.inr hhandler
  · intro k hk
    show brokerCount bus k = 1
    rw [brokerCount_subscribe hsubscribe, h.once k hk, hhandler.isBroker_eq]
    simp

/-! ### The start -/

/-- A gateway of these parts that was not used yet. Others than the bridge may be subscribed
already, as long as they only look on. -/
structure Untouched (parts : Parts ρ σ) (g : Gateway ρ σ) : Prop where
  coordinator : ∃ radio store,
    g.coordinator = .new parts.adapter parts.corrections radio store
  broker : g.broker = .new parts.mqtt
  listens : g.brokerListens = true
  messages : g.messages = #[]
  depth : g.depth = 0
  maxDepth : g.bus.maxDepth = parts.eventBus.maxDepth
  onlookers : ∀ s ∈ g.bus.subscriptions, s.handler.LooksOn

theorem untouched_ofParts (parts : Parts ρ σ) : Untouched parts (ofParts parts) :=
  ⟨⟨_, _, rfl⟩, rfl, rfl, rfl, rfl, rfl, nofun⟩

theorem Untouched.subscribed {parts : Parts ρ σ} {g : Gateway ρ σ} (h : Untouched parts g)
    {bus : EventBus Handler} {kind : EventKind} {handler : Handler} {id : Nat}
    (hsubscribe : g.bus.subscribe kind handler = .ok (bus, id)) (hhandler : handler.LooksOn) :
    Untouched parts { g with bus } := by
  have hbus := EventBus.subscribe_eq_ok hsubscribe
  refine ⟨h.coordinator, h.broker, h.listens, h.messages, h.depth, ?_, ?_⟩
  · rw [hbus]
    exact h.maxDepth
  · intro s hs
    rcases handler_of_subscribe hsubscribe hs with hearlier | hlast
    · exact h.onlookers s hearlier
    · rw [hlast]
      exact hhandler

/-- What it takes to subscribe the bridge to several kinds: all subscriptions that are added are its
own, and it has one number for each. -/
theorem subscribeAll_eq_ok {bus after : EventBus Handler} {kinds : List EventKind}
    {made ids : List Nat}
    (h : MqttBridge.subscribeAll bus .broker made kinds = (after, .ok ids)) :
    after.maxDepth = bus.maxDepth ∧ ids.length = made.length + kinds.length ∧
      (∀ k, brokerCount after k = brokerCount bus k + kinds.count k) ∧
        ∀ s ∈ after.subscriptions, s ∈ bus.subscriptions ∨ s.handler = .broker := by
  induction kinds generalizing bus made with
  | nil =>
    cases h
    exact ⟨rfl, rfl, fun _ ↦ rfl, fun s hs ↦ Or.inl hs⟩
  | cons kind rest ih =>
    unfold MqttBridge.subscribeAll at h
    split at h
    · next between id hsubscribe =>
      obtain ⟨hdepth, hlength, hcount, hsubscriptions⟩ := ih h
      have hbetween := EventBus.subscribe_eq_ok hsubscribe
      refine ⟨?_, ?_, ?_, ?_⟩
      · rw [hdepth, hbetween]
      · rw [hlength, List.length_append, List.length_singleton, List.length_cons]
        omega
      · intro k
        rw [hcount, brokerCount_subscribe hsubscribe, List.count_cons, Nat.add_assoc]
        simp [Handler.isBroker, Nat.add_comm]
      · intro s hs
        rcases hsubscriptions s hs with hearlier | hbroker
        · exact handler_of_subscribe hsubscribe hearlier
        · exact Or.inr hbroker
    · cases h

/-- Where everyone looks on, the bridge has no handler yet. -/
theorem brokerCount_of_onlookers {bus : EventBus Handler}
    (h : ∀ s ∈ bus.subscriptions, s.handler.LooksOn) (kind : EventKind) :
    brokerCount bus kind = 0 := by
  refine List.countP_eq_zero.2 fun handler hhandler ↦ ?_
  obtain ⟨s, hs, rfl⟩ := List.mem_map.1 hhandler
  rw [(h s (List.mem_of_mem_filter hs)).isBroker_eq]
  exact Bool.false_ne_true

/-- Where everyone looked on before the bridge was attached, everything is tended after it. -/
theorem tended_of_attach [Radio ρ] [KeyValueStore σ] {publish : Publish ρ σ}
    {g attached : Gateway ρ σ} (honlookers : ∀ s ∈ g.bus.subscriptions, s.handler.LooksOn)
    (hlistens : g.brokerListens = true)
    (h : g.act publish .attach = (attached, .ok .done)) :
    Tended attached ∧ ∃ ids bus, bus.maxDepth = g.bus.maxDepth ∧
      attached = { g with broker := { g.broker with subscriptions := ids }, bus } := by
  dsimp only [act] at h
  unfold MqttBridge.attach at h
  split at h
  · split at h
    · next bus ids hsubscribe =>
      cases h
      obtain ⟨hdepth, hlength, hcount, hsubscriptions⟩ := subscribeAll_eq_ok hsubscribe
      refine ⟨⟨?_, ?_, ?_, hlistens⟩, ids, bus, hdepth, rfl⟩
      · intro s hs
        exact (hsubscriptions s hs).symm.imp_right (honlookers s)
      · intro kind hkind
        rw [hcount, brokerCount_of_onlookers honlookers, Nat.zero_add]
        exact List.count_eq_one_of_mem (by decide) hkind
      · rw [List.isEmpty_eq_false_iff, ← List.length_pos_iff, hlength]
        decide
    · cases h
  · cases h

/-! ### What onlookers do -/

/-- An event that the bridge does not tell leaves everything as it was when it is published. -/
def Quiet (publish : Publish ρ σ) : Prop :=
  ∀ e g, e.kind ∉ MqttBridge.kinds → Tended g → Posts [] g (publish e g).1

section Quiet

variable [Radio ρ] [KeyValueStore σ] {publish : Publish ρ σ} {g : Gateway ρ σ}

omit [Radio ρ] in
theorem Tended.posts_storeValue (h : Tended g) (key : String) (value : StoredValue) :
    Posts [] g (g.storeValue key value).1 := by
  unfold storeValue
  split
  · exact .refl h
  · split
    · exact .refl h
    · exact h.posts_of_same ⟨_, _, rfl⟩ rfl rfl rfl rfl rfl

theorem Tended.posts_aside (h : Tended g) {action : Action} (haside : action.isAside = true) :
    Posts [] g (g.act publish action).1 := by
  cases action with
  | control | wait => exact h.posts_of_same ⟨_, _, rfl⟩ rfl rfl rfl rfl rfl
  | store key value => exact h.posts_storeValue key value
  | call | poll | carryOut | paint | attach | detach | receive | publishDevices | clearMessages
  | publish | subscribe | registry => cases haside
  | _ => exact .refl h

/-- An onlooker leaves everything as it was. -/
theorem Onlooking.posts_act {action : Action} (haction : Onlooking action)
    (hpublish : Quiet publish) (h : Tended g) : Posts [] g (g.act publish action).1 := by
  cases haction with
  | aside haside => exact h.posts_aside haside
  | reads hreads =>
    dsimp only [act]
    split
    · exact .refl h
    · next devices _ hperform =>
      rw [Registry.perform_of_reads hreads hperform]
      exact .refl h
  | attach =>
    have hrefused : g.broker.attach g.bus .broker =
        (g.broker, g.bus, .error (.alreadyExists "MQTT bridge already attached")) := by
      rw [MqttBridge.attach, h.attached]
      rfl
    dsimp only [act]
    rw [hrefused]
    exact .refl h
  | publish hkind => exact hpublish _ g hkind h
  | subscribe kind hscript =>
    dsimp only [act]
    split
    · next hsubscribe => exact h.posts_subscribe hsubscribe (.script hscript)
    · exact .refl h

theorem posts_runScript (hpublish : Quiet publish) {steps : List (String × Action)}
    (hsteps : ∀ step ∈ steps, Onlooking step.2) (h : Tended g) :
    Posts [] g (runScript publish steps g).1 := by
  induction steps generalizing g with
  | nil => exact .refl h
  | cons step rest ih =>
    obtain ⟨hfirst, hrest⟩ := List.forall_mem_cons.1 hsteps
    have hacted := hfirst.posts_act hpublish h
    unfold runScript
    split
    · next hact =>
      rw [hact] at hacted
      exact hacted
    · next after outcome _ hact =>
      rw [hact] at hacted
      have hnoted := hacted.trans (hacted.tended.posts_note (.did step.1 outcome))
      exact hnoted.trans (ih hrest hnoted.tended)

/-- A handler of the bridge hands over the message that tells of an event, and an onlooker none. -/
theorem posts_handle (hpublish : Quiet publish) (e : Event) {handler : Handler}
    (hhandler : handler = .broker ∨ handler.LooksOn) (h : Tended g) :
    Posts (if handler.isBroker then (g.broker.message? g.coordinator e).toList else []) g
      (handle publish e g handler).1 := by
  rcases hhandler with rfl | hhandler
  · dsimp only [handle, Handler.isBroker]
    cases hmessage : g.broker.message? g.coordinator e with
    | none => exact .refl h
    | some m => exact h.posts_post m
  · cases hhandler with
    | record => exact h.posts_note (.event e)
    | script hsteps => exact posts_runScript hpublish hsteps h

/-- Each handler of the bridge hands over the message that tells of the event. -/
theorem posts_deliver (hpublish : Quiet publish) (e : Event) {handlers : List Handler}
    (hhandlers : ∀ handler ∈ handlers, handler = .broker ∨ handler.LooksOn) (h : Tended g) :
    Posts ((handlers.filter (·.isBroker)).flatMap fun _ ↦
      (g.broker.message? g.coordinator e).toList) g (deliver publish e handlers g).1 := by
  induction handlers generalizing g with
  | nil => exact .refl h
  | cons handler rest ih =>
    obtain ⟨hfirst, hrest⟩ := List.forall_mem_cons.1 hhandlers
    have hhandled := posts_handle hpublish e hfirst h
    have hdelivered := hhandled.trans (ih hrest hhandled.tended)
    rw [hhandled.message?] at hdelivered
    rw [List.filter_cons]
    cases hbroker : handler.isBroker with
    | true =>
      rw [hbroker] at hdelivered
      exact hdelivered
    | false =>
      rw [hbroker] at hdelivered
      exact hdelivered

end Quiet

/-! ### Publications -/

/-- How deep a publication is does not matter for what it leaves. -/
theorem Posts.of_depth {posted : List MqttMessage} {g after : Gateway ρ σ} {depth : Nat}
    (h : Posts posted { g with depth } after) : Posts posted g { after with depth := g.depth } where
  coordinator := h.coordinator
  broker := h.broker
  messages := h.messages
  depth := rfl
  maxDepth := h.maxDepth
  tended := ⟨h.tended.others, h.tended.once, h.tended.attached, h.tended.listens⟩

section Publish

variable [Radio ρ] [KeyValueStore σ] {g : Gateway ρ σ}

/-- Where there is room for it, a publication hands over what the handlers of the bridge hand
over. -/
theorem posts_publishWithin {room : Nat} (hpublish : Quiet (publishWithin room : Publish ρ σ))
    (h : Tended g) (hopen : g.depth < g.bus.maxDepth) (e : Event) :
    Posts ((((g.bus.handlers e.kind).map (·.handler)).filter (·.isBroker)).flatMap fun _ ↦
      (g.broker.message? g.coordinator e).toList) g (publishWithin (room + 1) e g).1 := by
  have hhandlers : ∀ handler ∈ (g.bus.handlers e.kind).map (·.handler),
      handler = .broker ∨ handler.LooksOn := by
    intro handler hhandler
    obtain ⟨s, hs, rfl⟩ := List.mem_map.1 hhandler
    exact h.others s (List.mem_of_mem_filter hs)
  have hdeeper : Tended { g with depth := g.depth + 1 } :=
    ⟨h.others, h.once, h.attached, h.listens⟩
  rw [publishWithin_of_lt hopen]
  exact (posts_deliver hpublish e hhandlers hdeeper).of_depth

/-- By induction on the room that is left for publications under way. -/
theorem quiet_publishWithin (room : Nat) : Quiet (publishWithin room : Publish ρ σ) := by
  induction room with
  | zero =>
    intro e g _ h
    unfold publishWithin
    split <;> exact .refl h
  | succ room ih =>
    intro e g hkind h
    rcases Nat.lt_or_ge g.depth g.bus.maxDepth with hopen | hdeep
    · have hposts := posts_publishWithin ih h hopen e
      rw [message?_of_kind _ _ hkind, Option.toList_none,
        List.flatMap_eq_nil_iff.2 fun _ _ ↦ rfl] at hposts
      exact hposts
    · rw [publishWithin_of_le hdeep]
      exact .refl h

theorem quiet_publish : Quiet (publish : Publish ρ σ) := fun e g ↦
  quiet_publishWithin (g.bus.maxDepth - g.depth) e g

/-- From outside of all handlers every event is told as it has to be: by the one message for it, or
not at all. Among the handlers of its kind there is at most one of the bridge. -/
theorem posts_publish (h : Tended g) (hopen : g.depth < g.bus.maxDepth) (e : Event) :
    Posts (g.broker.message? g.coordinator e).toList g (publish e g).1 := by
  obtain ⟨room, hroom⟩ := Nat.exists_eq_add_one.2 (Nat.sub_pos_of_lt hopen)
  unfold publish
  rw [hroom]
  by_cases hkind : e.kind ∈ MqttBridge.kinds
  · have hposts := posts_publishWithin (quiet_publishWithin room) h hopen e
    have honce := h.once e.kind hkind
    rw [brokerCount, List.countP_eq_length_filter] at honce
    obtain ⟨handler, hbroker⟩ := List.length_eq_one_iff.1 honce
    rw [hbroker, List.flatMap_singleton] at hposts
    exact hposts
  · rw [message?_of_kind _ _ hkind]
    exact quiet_publishWithin (room + 1) e g hkind h

/-- Events that are published in turn are told in turn: handlers between two of them change nothing
by which the later one is told. -/
theorem posts_publishAll (h : Tended g) (hopen : g.depth < g.bus.maxDepth) (events : List Event) :
    Posts (events.filterMap (g.broker.message? g.coordinator)) g
      (publishAll publish g events) := by
  induction events generalizing g with
  | nil => exact .refl h
  | cons e rest ih =>
    have hfirst := posts_publish h hopen e
    have hstill : (publish e g).1.depth < (publish e g).1.bus.maxDepth := by
      rw [hfirst.depth, hfirst.maxDepth]
      exact hopen
    have hall := hfirst.trans (ih hfirst.tended hstill)
    rw [funext hfirst.message?] at hall
    rw [List.filterMap_cons]
    cases hmessage : g.broker.message? g.coordinator e with
    | none =>
      rw [hmessage] at hall
      exact hall
    | some m =>
      rw [hmessage] at hall
      exact hall

/-- A step of the coordinator is told by the messages for its events, as the coordinator is after
it. -/
theorem posts_settle (h : Tended g) (hopen : g.depth < g.bus.maxDepth) (s : Step ρ σ α) :
    Posts (s.events.filterMap (g.broker.message? s.after)) { g with coordinator := s.after }
      (settle publish g s).1 := by
  have hstepped : Tended { g with coordinator := s.after } :=
    ⟨h.others, h.once, h.attached, h.listens⟩
  exact posts_publishAll hstepped hopen s.events

end Publish

end Gateway

end MeshBridge
