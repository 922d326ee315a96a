import MeshBridge.Mqtt.Bridge
import MeshBridge.Proofs.Coordinator.Courses
import MeshBridge.Proofs.Gateway.Spurious
import MeshBridge.Proofs.Mqtt.Topics
/-!
The image of an event: the message for it, made from the event itself and from what was known of its
device then. The bridge makes its messages otherwise. It does not look at the value that an event
tells but reads the value anew, and yet it comes to the same, as a value is stored and told in one
call (`message?_eq_image?`). The images of a course of calls say of every device whether it is
online, as no other message goes to the topic of its availability (`Course.announces`).
-/

set_option autoImplicit false
set_option relaxedAutoImplicit false

namespace MeshBridge

variable {ρ σ : Type}

/-- The message for an event, given what is known of each device. -/
def MqttBridge.image? (b : MqttBridge) (corrections : CorrectionTable) (known : Eui64 → Profile) :
    Event → Option MqttMessage
  | .deviceJoined device _ =>
    some ⟨Topic.availability b.baseTopic device, "online", b.retainAvailability⟩
  | .deviceLeft device =>
    some ⟨Topic.availability b.baseTopic device, "offline", b.retainAvailability⟩
  | .attributeChanged device endpoint cluster attr v => do
    let capability ← Capability.ofAttributeId? cluster attr
    let value ← capability.ofAttribute v
    let corrected := corrections.correctReport (known device).manufacturer (known device).model
      capability value
    some ⟨Topic.capabilityState b.baseTopic device capability.name,
      Json.compress (.obj [("value", corrected.value.toJson), ("endpoint", .int endpoint.toNat)]),
      false⟩
  | .stackUp panId channel =>
    some ⟨Topic.bridgeState b.baseTopic,
      Json.compress (.obj [("state", .str "online"), ("pan_id", .int panId.toNat),
        ("channel", .int channel.toNat)]), true⟩
  | .stackDown reason =>
    some ⟨Topic.bridgeState b.baseTopic,
      Json.compress (.obj [("state", .str "offline"), ("reason", .str reason)]), true⟩
  | .commandConfirmed .. | .commandFailed .. | .commandTimeout .. => none

namespace Coordinator

/-! ### Values that are read anew -/

/-- What is read of a capability when a value is held for its attribute. -/
theorem read_of_value? {c : Coordinator ρ σ} {device : Eui64} {endpoint : UInt8}
    {capability : Capability} {v : AttributeValue}
    (h : (c.devices.profile device).value? endpoint capability.cluster capability.attr = some v) :
    c.read ⟨device, endpoint⟩ capability =
      .ok ((capability.ofAttribute v).map fun value ↦
        (c.corrections.correctReport (c.devices.profile device).manufacturer
          (c.devices.profile device).model capability value).value) := by
  cases hnode : c.devices.find? device with
  | none =>
    rw [Registry.profile, hnode] at h
    cases h
  | some node =>
    rw [Registry.profile_of_find? hnode] at h ⊢
    have hstored : stored node endpoint capability = capability.ofAttribute v := by
      have hvalue : node.value? endpoint capability.cluster capability.attr = some v := h
      rw [stored_eq, hvalue, Option.bind_some]
    simp only [read, Coordinator.node, hnode, hstored, Except.map]
    rfl

variable [Radio ρ] [KeyValueStore σ]

/-- A value is held from the call on by which it is told. -/
theorem Turn.value?_of_told (t : Turn ρ σ) {device : Eui64} {endpoint : UInt8}
    {cluster attr : UInt16} {v : AttributeValue}
    (h : .attributeChanged device endpoint cluster attr v ∈ t.events) :
    (t.after.devices.profile device).value? endpoint cluster attr = some v := by
  cases t.learning with
  | kept _ _ hevents => exact absurd rfl (hevents _ h)
  | forgot _ _ _ hevents => exact absurd rfl (hevents _ h)
  | learned _ _ _ _ _ _ hprofile hevents =>
    rw [hevents, List.mem_singleton] at h
    cases h
    rw [hprofile, if_pos rfl]
    exact if_pos ⟨rfl, rfl, rfl⟩

/-- The bridge tells of an event what the event says. -/
theorem Turn.message?_eq_image? (t : Turn ρ σ) (b : MqttBridge) {e : Event} (h : e ∈ t.events) :
    b.message? t.after e = b.image? t.after.corrections t.after.devices.profile e := by
  cases e with
  | attributeChanged device endpoint cluster attr v =>
    have hvalue := t.value?_of_told h
    cases hcapability : Capability.ofAttributeId? cluster attr with
    | none => simp only [MqttBridge.message?, MqttBridge.image?, hcapability, Option.bind_eq_bind,
        Option.bind_none]
    | some capability =>
      obtain ⟨rfl, rfl⟩ := Capability.ofAttributeId?_eq_some_iff.1 hcapability
      simp only [MqttBridge.message?, MqttBridge.image?, hcapability, Option.bind_eq_bind,
        Option.bind_some, read_of_value? hvalue]
      cases capability.ofAttribute v <;> rfl
  | _ => rfl

end Coordinator

/-! ### What messages say of availability -/

/-- The payloads of the messages to a topic. -/
def payloadsOn (topic : String) (messages : List MqttMessage) : List String :=
  (messages.filter (·.topic = topic)).map (·.payload)

theorem getLast?_payloadsOn_concat (topic : String) (messages : List MqttMessage)
    (m : MqttMessage) :
    (payloadsOn topic (messages ++ [m])).getLast? =
      if m.topic = topic then some m.payload else (payloadsOn topic messages).getLast? := by
  unfold payloadsOn
  rw [List.filter_append, List.map_append, List.filter_singleton]
  split_ifs with htopic <;> simp [htopic]

/-- The messages say last that a device is online just if it is known where it is. -/
def Announces (b : MqttBridge) (messages : List MqttMessage)
    (known : Table Eui64 NetworkAddress) : Prop :=
  ∀ device, (payloadsOn (Topic.availability b.baseTopic device) messages).getLast? =
    some "online" ↔ (known.get? device).isSome

namespace Announces

variable {b : MqttBridge} {messages : List MqttMessage} {known : Table Eui64 NetworkAddress}

/-- A message to a topic of another sort says nothing of availability. -/
theorem other (h : Announces b messages known) {m : MqttMessage}
    (hm : ∀ device, m.topic ≠ Topic.availability b.baseTopic device) :
    Announces b (messages ++ [m]) known := by
  intro device
  rw [getLast?_payloadsOn_concat, if_neg (hm device)]
  exact h device

/-- A message on the availability of a device says nothing of other devices. -/
theorem change (h : Announces b messages known) (device : Eui64) (payload : String)
    (retain : Bool) {after : Table Eui64 NetworkAddress}
    (hself : payload = "online" ↔ (after.get? device).isSome)
    (hothers : ∀ d, d ≠ device → after.get? d = known.get? d) :
    Announces b (messages ++ [⟨Topic.availability b.baseTopic device, payload, retain⟩]) after := by
  intro d
  rw [getLast?_payloadsOn_concat]
  by_cases hd : d = device
  · rw [hd, if_pos rfl, Option.some_inj]
    exact hself
  · have htopic : Topic.availability b.baseTopic device ≠ Topic.availability b.baseTopic d :=
      fun hsame ↦ hd ((Topic.availability_inj b.baseTopic).1 hsame).symm
    rw [if_neg htopic, hothers d hd]
    exact h d

/-- The image of an event says what the event says of where devices are. -/
theorem follow (h : Announces b messages known) (corrections : CorrectionTable)
    (profiles : Eui64 → Profile) (e : Event) :
    Announces b (messages ++ (b.image? corrections profiles e).toList)
      (Coordinator.follow known e) := by
  cases e with
  | deviceJoined device address =>
    refine h.change device "online" _ ?_ ?_
    · simp [Coordinator.follow]
    · intro d hd
      exact (Table.get?_insert known device address d).trans (if_neg hd)
  | deviceLeft device =>
    refine h.change device "offline" _ ?_ ?_
    · simp [Coordinator.follow]
    · intro d hd
      exact (Table.get?_erase known device d).trans (if_neg hd)
  | attributeChanged device endpoint cluster attr v =>
    cases himage : b.image? corrections profiles
        (.attributeChanged device endpoint cluster attr v) with
    | none =>
      rw [Option.toList_none, List.append_nil]
      exact h
    | some m =>
      obtain ⟨capability, -, hrest⟩ := Option.bind_eq_some_iff.1 himage
      obtain ⟨value, -, hsame⟩ := Option.bind_eq_some_iff.1 hrest
      cases hsame
      exact h.other fun d ↦ Topic.capabilityState_ne_availability b.baseTopic device d _
  | stackUp | stackDown => exact h.other fun d ↦ Topic.bridgeState_ne_availability b.baseTopic d
  | commandConfirmed | commandFailed | commandTimeout =>
    rw [MqttBridge.image?, Option.toList_none, List.append_nil]
    exact h

theorem foldl_follow (h : Announces b messages known) (corrections : CorrectionTable)
    (profiles : Eui64 → Profile) (events : List Event) :
    Announces b (messages ++ events.filterMap (b.image? corrections profiles))
      (events.foldl Coordinator.follow known) := by
  induction events generalizing messages known with
  | nil =>
    rw [List.filterMap_nil, List.append_nil]
    exact h
  | cons e rest ih =>
    have hrest := ih (h.follow corrections profiles e)
    rw [List.append_assoc] at hrest
    rw [List.filterMap_cons]
    cases himage : b.image? corrections profiles e with
    | none =>
      rw [himage] at hrest
      exact hrest
    | some m =>
      rw [himage] at hrest
      exact hrest

end Announces

namespace Coordinator

variable [Radio ρ] [KeyValueStore σ]

/-- The images of the events of calls, in their order. -/
def images (b : MqttBridge) (corrections : CorrectionTable) (turns : List (Turn ρ σ)) :
    List MqttMessage :=
  turns.flatMap fun t ↦ t.events.filterMap (b.image? corrections t.after.devices.profile)

/-- The images of events say what the events say of where devices are. -/
theorem announces_images (b : MqttBridge) (corrections : CorrectionTable)
    (turns : List (Turn ρ σ)) :
    Announces b (images b corrections turns) (replay (turns.flatMap (·.events))) := by
  have hall {messages : List MqttMessage} {known : Table Eui64 NetworkAddress}
      (h : Announces b messages known) :
      Announces b (messages ++ images b corrections turns)
        ((turns.flatMap (·.events)).foldl follow known) := by
    induction turns generalizing messages known with
    | nil =>
      rw [images, List.flatMap_nil, List.append_nil]
      exact h
    | cons t rest ih =>
      have hrest := ih (h.foldl_follow corrections t.after.devices.profile t.events)
      rw [List.append_assoc] at hrest
      rw [List.flatMap_cons, List.foldl_append]
      exact hrest
  have hnothing : Announces b [] ∅ := fun _ ↦ ⟨nofun, nofun⟩
  exact hall hnothing

variable {config : AdapterConfig} {corrections : CorrectionTable} {radio : ρ} {store : Option σ}
  {turns : List (Turn ρ σ)} {c : Coordinator ρ σ}

/-- What the bridge tells of a course of calls is the images of its events. -/
theorem Course.messages_eq (h : Course (new config corrections radio store) turns c)
    (b : MqttBridge) :
    (turns.flatMap fun t ↦ t.events.filterMap (b.message? t.after)) =
      images b corrections turns := by
  refine List.flatMap_congr fun t ht ↦ List.filterMap_congr fun e he ↦ ?_
  rw [t.message?_eq_image? b he, h.corrections_eq ht]

/-- The images of a course of calls say last that a device is online just if it is. -/
theorem Course.announces (h : Course (new config corrections radio store) turns c)
    (b : MqttBridge) (device : Eui64) :
    (payloadsOn (Topic.availability b.baseTopic device)
        (images b corrections turns)).getLast? = some "online" ↔
      ∃ node, c.devices.find? device = some node ∧ node.online = true :=
  (announces_images b corrections turns device).trans (h.online_iff device)

end Coordinator

end MeshBridge
