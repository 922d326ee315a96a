import MeshBridge.Gateway.Basic
/-!
Running actions on a gateway. A call first changes the coordinator and then publishes its events, so
a handler finds the coordinator as the call left it and may act on it in turn. Publications are
nested no deeper than the bus allows, and one that is refused is passed over.
-/

set_option autoImplicit false
set_option relaxedAutoImplicit false

namespace MeshBridge.Gateway

variable {ρ σ : Type}

/-- How events are published: the way that is open at the depth of a script. -/
abbrev Publish (ρ σ : Type) := Event → Gateway ρ σ → Gateway ρ σ × Except Fault Nat

/-- Publishes events in turn, whether they are delivered or refused. -/
def publishAll (publish : Publish ρ σ) (g : Gateway ρ σ) (events : List Event) : Gateway ρ σ :=
  events.foldl (fun g e ↦ (publish e g).1) g

/-- Takes a step of the coordinator and publishes its events. -/
def settle {α : Type} (publish : Publish ρ σ) (g : Gateway ρ σ) (s : Step ρ σ α) :
    Gateway ρ σ × Except Fault α :=
  (publishAll publish { g with coordinator := s.after } s.events, s.result)

/-- Carries out intents in turn until one fails. Each is resolved when its turn comes. -/
def runPlan [Radio ρ] (publish : Publish ρ σ) (issued : List CorrelationId) :
    List (Target × Intent) → Gateway ρ σ →
      Gateway ρ σ × Except (BatchFault CorrelationId) (List CorrelationId)
  | [], g => (g, .ok issued)
  | (target, intent) :: rest, g =>
    match settle publish g (g.coordinator.carryOut g.now target intent) with
    | (g, .ok id) => runPlan publish (issued ++ [id]) rest g
    | (g, .error cause) => (g, .error ⟨issued, cause⟩)

/-- The outcome of an action with a plain fault. -/
def plain {α : Type} (reply : α → Reply) : Except Fault α → Outcome
  | .ok a => .ok (reply a)
  | .error f => .error (.fault f)

/-- The outcome of an action that sends a series of commands. -/
def series : Except (BatchFault CorrelationId) (List CorrelationId) → Outcome
  | .ok ids => .ok (.issuedAll ids)
  | .error f => .error (.batch f)

def replyOf : Coordinator.CallReply → Reply
  | .done => .done
  | .count n => .count n
  | .issued id => .issued id

/-- An action that only asks. -/
def ask (g : Gateway ρ σ) (outcome : Outcome) : Gateway ρ σ × Outcome := (g, outcome)

def storeValue [KeyValueStore σ] (g : Gateway ρ σ) (key : String) (value : StoredValue) :
    Gateway ρ σ × Outcome :=
  match g.coordinator.store with
  | none => (g, .error .missing)
  | some store =>
    match KeyValueStore.set Coordinator.networkSpace key value store with
    | .error f => (g, .error (.fault f))
    | .ok store =>
      ({ g with coordinator := { g.coordinator with store := some store } }, .ok .done)

/-- Does one action, publishing in the given way. -/
def act [Radio ρ] [KeyValueStore σ] (publish : Publish ρ σ) (g : Gateway ρ σ) :
    Action → Gateway ρ σ × Outcome
  | .call call =>
    let (g, result) := settle publish g (g.coordinator.perform g.now call)
    (g, plain replyOf result)
  | .control control =>
    ({ g with coordinator :=
        { g.coordinator with radio := Radio.control control g.coordinator.radio } }, .ok .done)
  | .wait ticks => ({ g with now := { g.now with ticks := g.now.ticks + ticks } }, .ok .done)
  | .poll => ((settle publish g (g.coordinator.sweep g.now)).1, .ok (.count 1))
  | .carryOut target intent =>
    let (g, result) := settle publish g (g.coordinator.carryOut g.now target intent)
    (g, plain .issued result)
  | .paint target hue saturation value =>
    let (g, result) := runPlan publish []
      ((LightCommand.hsv hue saturation value).map fun intent ↦ (target, intent)) g
    (g, series result)
  | .read target capability =>
    g.ask (plain .value (g.coordinator.read target capability))
  | .correct device capability value =>
    g.ask (plain .corrected (g.coordinator.correct device capability value))
  | .reportingFor device capability =>
    g.ask (plain .reporting (g.coordinator.reportingFor device capability))
  | .measure target reading =>
    g.ask (plain .measured (g.coordinator.measure target reading))
  | .attach =>
    let (broker, bus, result) := g.broker.attach g.bus .broker
    ({ g with broker, bus }, plain (fun _ ↦ .done) result)
  | .detach =>
    let (broker, bus) := g.broker.detach g.bus
    ({ g with broker, bus }, .ok .done)
  | .receive topic payload =>
    match g.broker.plan g.coordinator topic payload with
    | .error f => (g, .error (.batch (.ofFault f)))
    | .ok plan =>
      let (g, result) := runPlan publish [] plan g
      (g, series result)
  | .topics => g.ask (.ok (.topics g.broker.baseTopic (Topic.commandFilter g.broker.baseTopic)))
  | .snapshot => g.ask (.ok (.devices g.coordinator.snapshot))
  | .publishDevices => (g.post (g.broker.devicesMessage g.coordinator), .ok .done)
  | .messagesOn topic =>
    g.ask (.ok (.payloads ((g.messages.toList.filter (·.topic = topic)).map (·.payload))))
  | .clearMessages => ({ g with messages := #[] }, .ok .done)
  | .publish event =>
    let (g, result) := publish event g
    (g, plain .count result)
  | .handlerCount kind => g.ask (.ok (.count (g.bus.handlerCount kind)))
  | .subscribe kind script =>
    match g.bus.subscribe kind (.script script) with
    | .ok (bus, _) => ({ g with bus }, .ok .done)
    | .error f => (g, .error (.fault f))
  | .breakOff => (g, .error .brokenOff)
  | .registry request =>
    match g.coordinator.devices.perform g.now.civil request with
    | none => (g, .error .missing)
    | some (devices, result) =>
      ({ g with coordinator := { g.coordinator with devices } }, plain .registry result)
  | .address device => g.ask (.ok (.address (g.coordinator.address? device)))
  | .network => g.ask (.ok (.network g.coordinator.network))
  | .persistedNetwork => g.ask (plain .network g.coordinator.persistedNetwork)
  | .store key value => g.storeValue key value
  | .corrections => g.ask (.ok (.corrections g.coordinator.corrections.entries))
  | .refused f => (g, .error (.fault f))

/-- Runs a script and tells whether it got to its end. -/
def runScript [Radio ρ] [KeyValueStore σ] (publish : Publish ρ σ) :
    List (String × Action) → Gateway ρ σ → Gateway ρ σ × Bool
  | [], g => (g, true)
  | (name, action) :: rest, g =>
    match g.act publish action with
    | (g, .error .brokenOff) => (g, false)
    | (g, outcome) => runScript publish rest (g.note (.did name outcome))

/-- Runs a handler on an event and tells whether it got to its end. -/
def handle [Radio ρ] [KeyValueStore σ] (publish : Publish ρ σ) (event : Event) (g : Gateway ρ σ) :
    Handler → Gateway ρ σ × Bool
  | .record => (g.note (.event event), true)
  | .broker =>
    match g.broker.message? g.coordinator event with
    | some m => (g.post m, true)
    | none => (g, true)
  | .script steps => runScript publish steps g

/-- Runs handlers one after the other and counts those that got to their end. -/
def deliver [Radio ρ] [KeyValueStore σ] (publish : Publish ρ σ) (event : Event) :
    List Handler → Gateway ρ σ → Gateway ρ σ × Nat
  | [], g => (g, 0)
  | handler :: rest, g =>
    let (g, finished) := handle publish event g handler
    let (g, count) := deliver publish event rest g
    (g, if finished then count + 1 else count)

/-- Publishes an event to the handlers its kind has now, which may publish in turn while there is
room for publications under way. -/
def publishWithin [Radio ρ] [KeyValueStore σ] : (room : Nat) → Publish ρ σ
  | room, event, g =>
    match g.bus.checkDepth g.depth event.kind with
    | .error f => (g, .error f)
    | .ok () =>
      match room with
      | 0 => (g, .ok 0)
      | room + 1 =>
        let handlers := (g.bus.handlers event.kind).map (·.handler)
        let (after, count) :=
          deliver (publishWithin room) event handlers { g with depth := g.depth + 1 }
        ({ after with depth := g.depth }, .ok count)

/-- Publishes an event. There is always room enough, as the bus refuses to publish any deeper. -/
def publish [Radio ρ] [KeyValueStore σ] : Publish ρ σ := fun event g ↦
  publishWithin (g.bus.maxDepth - g.depth) event g

/-- Does one action from outside of all handlers. -/
def perform [Radio ρ] [KeyValueStore σ] (g : Gateway ρ σ) (action : Action) :
    Gateway ρ σ × Outcome :=
  g.act publish action

end MeshBridge.Gateway
