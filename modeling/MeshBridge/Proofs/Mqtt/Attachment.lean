import MeshBridge.Mqtt.Bridge
import MeshBridge.Proofs.Bus.Tables
/-!
A bridge comes onto a bus with a subscription for each of its five kinds or with none at all, and it
leaves with these five and no others, whatever handlers come and go meanwhile (`all_or_nothing`).

What carries this is that numbers of subscriptions are never used again. Those made for the bridge
are not below the next number of the bus it came to (`joined`), so to end them again, be it because
a kind turns out to be full or when the bridge leaves, takes nothing away from others.
-/

set_option autoImplicit false
set_option relaxedAutoImplicit false

namespace MeshBridge

/-! ### Buses that others use -/

namespace EventBus

variable {α : Type} {b after later : EventBus α} {spared : List Nat}

/-- What becomes of a bus while others subscribe and unsubscribe, but spare some subscriptions. -/
inductive Meanwhile (spared : List Nat) (b : EventBus α) : EventBus α → Prop
  | refl : Meanwhile spared b b
  | subscribe {c after : EventBus α} {kind : EventKind} {handler : α} {id : Nat}
      (h : Meanwhile spared b c) (hsubscribe : c.subscribe kind handler = .ok (after, id)) :
      Meanwhile spared b after
  | unsubscribe {c : EventBus α} {id : Nat} (h : Meanwhile spared b c) (hid : id ∉ spared) :
      Meanwhile spared b (c.unsubscribe id).1

/-- A bus as it can be found: made with any name and any limits, and then used. -/
def Used (b : EventBus α) : Prop := ∃ made : EventBus α, made.IsNew ∧ made.Meanwhile [] b

theorem Used.subscribe {kind : EventKind} {handler : α} {id : Nat} (h : b.Used)
    (hsubscribe : b.subscribe kind handler = .ok (after, id)) : after.Used := by
  obtain ⟨made, hnew, hused⟩ := h
  exact ⟨made, hnew, hused.subscribe hsubscribe⟩

theorem Used.unsubscribe (h : b.Used) (id : Nat) : (b.unsubscribe id).1.Used := by
  obtain ⟨made, hnew, hused⟩ := h
  exact ⟨made, hnew, hused.unsubscribe List.not_mem_nil⟩

theorem Used.meanwhile (h : b.Used) (hlater : b.Meanwhile spared later) : later.Used := by
  induction hlater with
  | refl => exact h
  | subscribe _ hsubscribe ih => exact ih.subscribe hsubscribe
  | unsubscribe _ _ ih => exact ih.unsubscribe _

theorem Used.orderly (h : b.Used) : b.Orderly := by
  obtain ⟨made, hnew, hused⟩ := h
  induction hused with
  | refl => exact hnew.orderly
  | subscribe _ hsubscribe ih => exact ih.subscribe hsubscribe
  | unsubscribe _ _ ih => exact ih.unsubscribe _

/-- The subscriptions that are spared stand as they stood. -/
theorem Meanwhile.filter_spared (h : b.Meanwhile spared later)
    (hgiven : ∀ id ∈ spared, id < b.nextId) :
    later.subscriptions.filter (·.id ∈ spared) = b.subscriptions.filter (·.id ∈ spared) ∧
      ∀ id ∈ spared, id < later.nextId := by
  induction h with
  | refl => exact ⟨rfl, hgiven⟩
  | @subscribe c after kind handler id _ hsubscribe ih =>
    obtain ⟨hkept, hbelow⟩ := ih
    have hnew : c.nextId ∉ spared := fun hin ↦ Nat.lt_irrefl _ (hbelow _ hin)
    rw [subscribe_eq_ok hsubscribe]
    refine ⟨?_, fun id hid ↦ Nat.lt_succ_of_lt (hbelow id hid)⟩
    rw [List.filter_append, hkept, List.filter_cons_of_neg (by simpa using hnew), List.filter_nil,
      List.append_nil]
  | @unsubscribe c id _ hid ih =>
    obtain ⟨hkept, hbelow⟩ := ih
    refine ⟨?_, hbelow⟩
    rw [← hkept]
    show (c.subscriptions.filter _).filter _ = _
    rw [List.filter_filter]
    refine List.filter_congr fun s _ ↦ ?_
    by_cases hs : s.id ∈ spared
    · have hother : s.id ≠ id := fun h ↦ hid (h ▸ hs)
      simp [hs, hother]
    · simp [hs]

theorem filter_handlers (b : EventBus α) (p : Subscription α → Bool) (kind : EventKind) :
    (b.handlers kind).filter p = (b.subscriptions.filter p).filter (·.kind = kind) := by
  rw [handlers, List.filter_filter, List.filter_filter]
  exact List.filter_congr fun _ _ ↦ Bool.and_comm _ _

/-- Subscriptions of one handler for kinds in turn, with numbers from the first one on. -/
def inTurn (handler : α) : Nat → List EventKind → List (Subscription α)
  | _, [] => []
  | first, kind :: rest => ⟨first, kind, handler⟩ :: inTurn handler (first + 1) rest

/-- The bus after a handler has subscribed for kinds in turn. -/
def joined (b : EventBus α) (handler : α) (kinds : List EventKind) : EventBus α :=
  { b with
    subscriptions := b.subscriptions ++ inTurn handler b.nextId kinds
    nextId := b.nextId + kinds.length }

variable {handler : α} {kind : EventKind} {kinds rest : List EventKind} {first : Nat}

theorem kinds_inTurn (handler : α) (first : Nat) (kinds : List EventKind) :
    (inTurn handler first kinds).map (·.kind) = kinds := by
  induction kinds generalizing first with
  | nil => rfl
  | cons kind rest ih => exact congrArg (kind :: ·) (ih (first + 1))

theorem ids_inTurn (handler : α) (first : Nat) (kinds : List EventKind) :
    (inTurn handler first kinds).map (·.id) = List.range' first kinds.length := by
  induction kinds generalizing first with
  | nil => rfl
  | cons kind rest ih => exact congrArg (first :: ·) (ih (first + 1))

theorem mem_ids_inTurn {id : Nat} : id ∈ (inTurn handler first kinds).map (·.id) ↔
    first ≤ id ∧ id < first + kinds.length := by
  rw [ids_inTurn, List.mem_range'_1]

theorem handler_inTurn : ∀ s ∈ inTurn handler first kinds, s.handler = handler := by
  induction kinds generalizing first with
  | nil => nofun
  | cons kind rest ih => exact List.forall_mem_cons.2 ⟨rfl, ih⟩

theorem filter_inTurn (hnodup : kinds.Nodup) : ∀ s ∈ inTurn handler first kinds,
    (inTurn handler first kinds).filter (·.kind = s.kind) = [s] := by
  induction kinds generalizing first with
  | nil => nofun
  | cons kind rest ih =>
    obtain ⟨hother, hnodup⟩ := List.nodup_cons.1 hnodup
    have hrest : ∀ s ∈ inTurn handler (first + 1) rest, s.kind ≠ kind := by
      intro s hs hsame
      refine hother ?_
      rw [← kinds_inTurn handler (first + 1) rest, ← hsame]
      exact List.mem_map_of_mem hs
    refine List.forall_mem_cons.2 ⟨?_, fun s hs ↦ ?_⟩
    · rw [inTurn, List.filter_cons_of_pos (by simp),
        List.filter_eq_nil_iff.2 (by simpa using hrest)]
    · rw [inTurn, List.filter_cons_of_neg (by simpa using (hrest s hs).symm), ih hnodup s hs]

/-- Numbers from the next one on are those of no subscription yet. -/
theorem Orderly.id_notMem_inTurn (h : b.Orderly) (handler : α) (kinds : List EventKind)
    {s : Subscription α} (hs : s ∈ b.subscriptions) :
    s.id ∉ (inTurn handler b.nextId kinds).map (·.id) := fun hin ↦
  Nat.not_le_of_lt (h.below s hs) (mem_ids_inTurn.1 hin).1

theorem joined_nil (b : EventBus α) (handler : α) : b.joined handler [] = b := by
  rw [joined, inTurn, List.append_nil]
  rfl

/-- To subscribe for one kind and then for others is to subscribe for all of them. -/
theorem joined_of_subscribe {id : Nat} (h : b.subscribe kind handler = .ok (after, id)) :
    after.joined handler rest = b.joined handler (kind :: rest) := by
  rw [subscribe_eq_ok h]
  simp only [joined, inTurn, List.append_assoc, List.singleton_append, List.length_cons]
  rw [Nat.add_assoc, Nat.add_comm 1]

theorem handlers_joined (b : EventBus α) (handler : α) (kinds : List EventKind) (kind : EventKind) :
    (b.joined handler kinds).handlers kind =
      b.handlers kind ++ (inTurn handler b.nextId kinds).filter (·.kind = kind) :=
  List.filter_append ..

/-- A kind that the handler does not subscribe for keeps its subscriptions. -/
theorem handlers_joined_of_notMem (b : EventBus α) (handler : α) (hkind : kind ∉ kinds) :
    (b.joined handler kinds).handlers kind = b.handlers kind := by
  have hnone : (inTurn handler b.nextId kinds).filter (·.kind = kind) = [] := by
    refine List.filter_eq_nil_iff.2 fun s hs hsame ↦ hkind ?_
    rw [← kinds_inTurn handler b.nextId kinds, ← of_decide_eq_true hsame]
    exact List.mem_map_of_mem hs
  rw [handlers_joined, hnone, List.append_nil]

theorem Orderly.room_of_not_full (h : b.Orderly) (hkind : ¬ b.Full kind) :
    b.handlerCount kind < b.maxHandlers :=
  Nat.lt_of_le_of_ne (h.within kind) hkind

/-- A subscription for one kind fills no other. -/
theorem full_of_subscribe {id : Nat} {k : EventKind}
    (h : b.subscribe kind handler = .ok (after, id))
    (hother : k ≠ kind) (hfull : after.Full k) : b.Full k := by
  have hcount := handlerCount_subscribe h k
  rw [if_neg hother, Nat.add_zero] at hcount
  have hmax : after.maxHandlers = b.maxHandlers := by rw [subscribe_eq_ok h]
  exact hcount.symm.trans (hfull.trans hmax)

end EventBus

namespace MqttBridge

open EventBus (inTurn joined_of_subscribe joined_nil)

variable {α : Type} {bus after later : EventBus α} {handler : α} {b : MqttBridge}
  {asked : List EventKind}

/-! ### Subscribing for several kinds -/

/-- As long as no kind is full the handler goes on subscribing. By induction on the kinds, the first
of which leaves the others as they are, since no kind comes twice. -/
theorem subscribeAll_of_not_full (handler : α) (h : bus.Orderly) (hnodup : asked.Nodup)
    (hroom : ∀ kind ∈ asked, ¬ bus.Full kind) (made : List Nat) (rest : List EventKind) :
    subscribeAll bus handler made (asked ++ rest) = subscribeAll (bus.joined handler asked) handler
      (made ++ (inTurn handler bus.nextId asked).map (·.id)) rest := by
  induction asked generalizing bus made with
  | nil =>
    rw [joined_nil]
    exact congrArg (subscribeAll bus handler · rest) (List.append_nil made).symm
  | cons kind others ih =>
    obtain ⟨hfirst, hrest⟩ := List.forall_mem_cons.1 hroom
    obtain ⟨hother, hnodup⟩ := List.nodup_cons.1 hnodup
    have hsubscribe := EventBus.subscribe_of_room handler (h.room_of_not_full hfirst)
    have hgoes := ih (h.subscribe hsubscribe) hnodup
      (fun k hk hfull ↦ hrest k hk
        (EventBus.full_of_subscribe hsubscribe (ne_of_mem_of_not_mem hk hother) hfull))
      (made ++ [bus.nextId])
    rw [joined_of_subscribe hsubscribe, List.append_assoc] at hgoes
    rw [List.cons_append, subscribeAll, hsubscribe]
    exact hgoes

/-! ### Unsubscribing -/

theorem unsubscribeAll_eq (bus : EventBus α) (ids : List Nat) :
    unsubscribeAll bus ids =
      { bus with subscriptions := bus.subscriptions.filter (·.id ∉ ids) } := by
  induction ids generalizing bus with
  | nil =>
    have hall : bus.subscriptions.filter (·.id ∉ ([] : List Nat)) = bus.subscriptions :=
      List.filter_eq_self.2 fun _ _ ↦ decide_eq_true List.not_mem_nil
    rw [hall]
    rfl
  | cons id rest ih =>
    show unsubscribeAll (bus.unsubscribe id).1 rest = _
    rw [ih, EventBus.unsubscribe, List.filter_filter]
    congr 1
    refine List.filter_congr fun s _ ↦ ?_
    rw [Bool.eq_iff_iff]
    simp [and_comm]

theorem handlers_unsubscribeAll (bus : EventBus α) (ids : List Nat) (kind : EventKind) :
    (unsubscribeAll bus ids).handlers kind = (bus.handlers kind).filter (·.id ∉ ids) := by
  rw [unsubscribeAll_eq, EventBus.filter_handlers]
  rfl

theorem used_unsubscribeAll (h : bus.Used) (ids : List Nat) : (unsubscribeAll bus ids).Used := by
  induction ids generalizing bus with
  | nil => exact h
  | cons id rest ih => exact ih (h.unsubscribe id)

theorem used_subscribeAll (h : bus.Used) (handler : α) (made : List Nat) (asked : List EventKind) :
    (subscribeAll bus handler made asked).1.Used := by
  induction asked generalizing bus made with
  | nil => exact h
  | cons kind rest ih =>
    rw [subscribeAll]
    split
    · rename_i hsubscribe
      exact ih (h.subscribe hsubscribe) _
    · exact used_unsubscribeAll h made

/-- The subscriptions of a handler that has just come are those with its numbers. -/
theorem filter_joined (h : bus.Orderly) (handler : α) (asked : List EventKind) :
    let own := inTurn handler bus.nextId asked
    (bus.joined handler asked).subscriptions.filter (·.id ∈ own.map (·.id)) = own ∧
      (bus.joined handler asked).subscriptions.filter (·.id ∉ own.map (·.id)) =
        bus.subscriptions := by
  intro own
  have hold : ∀ s ∈ bus.subscriptions, s.id ∉ own.map (·.id) := fun s hs ↦
    h.id_notMem_inTurn handler asked hs
  have hown : ∀ s ∈ own, s.id ∈ own.map (·.id) := fun s hs ↦ List.mem_map_of_mem hs
  show (bus.subscriptions ++ own).filter _ = own ∧ (bus.subscriptions ++ own).filter _ = _
  rw [List.filter_append, List.filter_append]
  constructor
  · rw [List.filter_eq_nil_iff.2 (by simpa using hold), List.filter_eq_self.2 (by simpa using hown),
      List.nil_append]
  · rw [List.filter_eq_self.2 (by simpa using hold), List.filter_eq_nil_iff.2 (by simpa using hown),
      List.append_nil]

/-- Of each kind for which a handler subscribed there is one subscription of its own, as long as
others spare them. -/
theorem held_of_meanwhile (h : bus.Orderly) (hnodup : asked.Nodup)
    (hlater : (bus.joined handler asked).Meanwhile
      ((inTurn handler bus.nextId asked).map (·.id)) later) :
    ∀ s ∈ inTurn handler bus.nextId asked, (later.handlers s.kind).filter
      (·.id ∈ (inTurn handler bus.nextId asked).map (·.id)) = [s] := by
  intro s hs
  have hgiven : ∀ id ∈ (inTurn handler bus.nextId asked).map (·.id),
      id < (bus.joined handler asked).nextId := fun id hid ↦ (EventBus.mem_ids_inTurn.1 hid).2
  rw [EventBus.filter_handlers, (hlater.filter_spared hgiven).1, (filter_joined h handler asked).1,
    EventBus.filter_inTurn hnodup s hs]

/-! ### Attaching -/

/-- The bridge with subscriptions of its own. -/
def holding (b : MqttBridge) (own : List (Subscription α)) : MqttBridge :=
  { b with subscriptions := own.map (·.id) }

/-- A bridge comes onto a bus with a new subscription for each of its kinds. -/
structure Attaches (b : MqttBridge) (bus : EventBus α) (handler : α) (own : List (Subscription α))
    (after : EventBus α) : Prop where
  attach_eq : b.attach bus handler = (b.holding own, after, .ok ())
  kinds_eq : own.map (·.kind) = kinds
  ids : (own.map (·.id)).Nodup ∧ ∀ s ∈ own, ¬ bus.Live s.id
  /-- Each stands behind all others for its kind. -/
  gained : ∀ s ∈ own, s.handler = handler ∧ after.handlers s.kind = bus.handlers s.kind ++ [s]
  kept : ∀ kind ∉ kinds, after.handlers kind = bus.handlers kind
  used : after.Used
  limits : after.maxHandlers = bus.maxHandlers ∧ after.maxDepth = bus.maxDepth

/-- A bridge does not come onto a bus one of whose kinds is full, and leaves no trace on it. -/
structure Refused (b : MqttBridge) (bus : EventBus α) (handler : α) (after : EventBus α) :
    Prop where
  attach_eq : ∃ kind ∈ kinds, bus.Full kind ∧
    b.attach bus handler = (b, after, .error (bus.noRoom kind))
  kept : ∀ kind, after.handlers kind = bus.handlers kind
  used : after.Used
  limits : after.maxHandlers = bus.maxHandlers ∧ after.maxDepth = bus.maxDepth

/-- A bridge that was attached with some subscriptions leaves a bus, and ends these and no
others. -/
structure Detaches (b : MqttBridge) (own : List (Subscription α)) (later : EventBus α) :
    Prop where
  detached : (b.detach later).1 = { b with subscriptions := [] }
  held : ∀ s ∈ own, (later.handlers s.kind).filter (·.id ∈ own.map (·.id)) = [s]
  kept : ∀ kind, (b.detach later).2.handlers kind =
    (later.handlers kind).filter (·.id ∉ own.map (·.id))
  used : (b.detach later).2.Used
  /-- There is room to come back at once. -/
  again : ∀ handler : α, ∃ own after,
    Attaches (b.detach later).1 (b.detach later).2 handler own after

/-- The fault of a bridge that is attached. -/
def alreadyAttached : Fault := .alreadyExists "MQTT bridge already attached"

theorem attach_of_attached (bus : EventBus α) (handler : α) (hattached : b.subscriptions ≠ []) :
    b.attach bus handler = (b, bus, .error alreadyAttached) :=
  if_neg (by simpa using hattached)

theorem nodup_kinds : kinds.Nodup := by decide

theorem attaches (hbus : bus.Used) (hdetached : b.subscriptions = [])
    (hroom : ∀ kind ∈ kinds, ¬ bus.Full kind) (handler : α) :
    Attaches b bus handler (inTurn handler bus.nextId kinds) (bus.joined handler kinds) := by
  have hall := subscribeAll_of_not_full handler hbus.orderly nodup_kinds hroom [] []
  rw [List.append_nil, List.nil_append, subscribeAll] at hall
  constructor
  case attach_eq =>
    rw [attach, if_pos (List.isEmpty_iff.2 hdetached), hall]
    rfl
  case kinds_eq => exact EventBus.kinds_inTurn ..
  case ids =>
    refine ⟨by rw [EventBus.ids_inTurn]; exact List.nodup_range', ?_⟩
    rintro s hs ⟨t, ht, hsame⟩
    have hnone := hbus.orderly.id_notMem_inTurn handler kinds ht
    rw [hsame] at hnone
    exact hnone (List.mem_map_of_mem hs)
  case gained =>
    intro s hs
    refine ⟨EventBus.handler_inTurn s hs, ?_⟩
    rw [EventBus.handlers_joined, EventBus.filter_inTurn nodup_kinds s hs]
  case kept => exact fun kind hkind ↦ EventBus.handlers_joined_of_notMem bus handler hkind
  case used =>
    have hused := used_subscribeAll hbus handler [] kinds
    rwa [hall] at hused
  case limits => exact ⟨rfl, rfl⟩

/-- The bridge asks up to the first kind that is full, which it still is when the bridge comes to
it, and gives back what it got. -/
theorem refused (hbus : bus.Used) (hdetached : b.subscriptions = [])
    (hfull : ∃ kind ∈ kinds, bus.Full kind) (handler : α) :
    ∃ after, Refused b bus handler after := by
  classical
  obtain ⟨kind, hfirst⟩ := Option.isSome_iff_exists.1
    (List.find?_isSome (p := fun k ↦ decide (bus.Full k)) |>.2 (by simpa using hfull))
  obtain ⟨hkind, front, rest, hsplit, hfront⟩ := List.find?_eq_some_iff_append.1 hfirst
  have hkind : bus.Full kind := of_decide_eq_true hkind
  have hfront : ∀ k ∈ front, ¬ bus.Full k := by simpa using hfront
  obtain ⟨hnodup, -, hother⟩ := List.nodup_append.1 (hsplit ▸ nodup_kinds)
  have hkept : kind ∉ front := fun hin ↦ hother kind hin kind List.mem_cons_self rfl
  have hrefused : (bus.joined handler front).subscribe kind handler = .error (bus.noRoom kind) := by
    refine EventBus.subscribe_of_full handler ?_
    rw [EventBus.Full, EventBus.handlerCount, EventBus.handlers_joined_of_notMem bus handler hkept]
    exact hkind
  have hall := subscribeAll_of_not_full handler hbus.orderly hnodup hfront [] (kind :: rest)
  rw [← hsplit, subscribeAll, hrefused, List.nil_append] at hall
  simp only [unsubscribeAll_eq, (filter_joined hbus.orderly handler front).2] at hall
  have hused := used_subscribeAll hbus handler [] kinds
  rw [hall] at hused
  refine ⟨{ bus with nextId := bus.nextId + front.length }, ⟨kind, ?_, hkind, ?_⟩, fun _ ↦ rfl,
    hused, rfl, rfl⟩
  · exact hsplit ▸ List.mem_append_right _ List.mem_cons_self
  · rw [attach, if_pos (List.isEmpty_iff.2 hdetached), hall]
    rfl

/-! ### Detaching -/

/-- Of each kind the bridge leaves there was one subscription more, so that there is room again. -/
theorem detaches {own : List (Subscription α)} (hlater : later.Used)
    (hattached : b.subscriptions = own.map (·.id)) (hkinds : own.map (·.kind) = kinds)
    (hheld : ∀ s ∈ own, (later.handlers s.kind).filter (·.id ∈ own.map (·.id)) = [s]) :
    Detaches b own later := by
  have hfreed : (b.detach later).2 = unsubscribeAll later (own.map (·.id)) :=
    congrArg (unsubscribeAll later) hattached
  have hused : (b.detach later).2.Used := used_unsubscribeAll hlater b.subscriptions
  refine ⟨rfl, hheld, fun kind ↦ by rw [hfreed, handlers_unsubscribeAll], hused, fun handler ↦ ?_⟩
  refine ⟨_, _, attaches hused rfl ?_ handler⟩
  rw [← hkinds, List.forall_mem_map]
  intro s hs hfull
  have hcount := List.length_eq_countP_add_countP (fun t ↦ decide (t.id ∈ own.map (·.id)))
    (l := later.handlers s.kind)
  rw [List.countP_eq_length_filter, List.countP_eq_length_filter, hheld s hs] at hcount
  simp only [decide_eq_true_eq] at hcount
  rw [EventBus.Full, EventBus.handlerCount, hfreed, handlers_unsubscribeAll, unsubscribeAll_eq]
    at hfull
  have hwithin := hlater.orderly.within s.kind
  rw [EventBus.handlerCount, hcount, hfull] at hwithin
  exact Nat.not_succ_le_self _ (Nat.add_comm .. ▸ hwithin)

/-- Assumes: a bus that was made and used in any way.

A bridge that is attached is refused and nothing changes. One that is not is refused as well if one
of its kinds is full, the bus keeps all its subscriptions, and the bridge can come onto any bus that
has room. If there is room it is attached. When it leaves later, whatever others subscribed and
unsubscribed meanwhile, it takes its own five subscriptions with it. -/
theorem all_or_nothing (b : MqttBridge) (handler : α) (hbus : bus.Used) :
    (b.subscriptions ≠ [] → b.attach bus handler = (b, bus, .error alreadyAttached)) ∧
      (b.subscriptions = [] →
        ((∃ kind ∈ kinds, bus.Full kind) → (∃ after, Refused b bus handler after) ∧
          ∀ (later : EventBus α) (handler : α), later.Used → (∀ kind ∈ kinds, ¬ later.Full kind) →
            ∃ own after, Attaches b later handler own after) ∧
        ((∀ kind ∈ kinds, ¬ bus.Full kind) → ∃ own after, Attaches b bus handler own after ∧
          (∀ (later : EventBus α) (handler : α), (b.holding own).attach later handler =
            (b.holding own, later, .error alreadyAttached)) ∧
          ∀ later, after.Meanwhile (own.map (·.id)) later →
            Detaches (b.holding own) own later)) := by
  refine ⟨attach_of_attached bus handler, fun hdetached ↦ ⟨fun hfull ↦ ?_, fun hroom ↦ ?_⟩⟩
  · exact ⟨refused hbus hdetached hfull handler, fun later handler hlater hroom ↦
      ⟨_, _, attaches hlater hdetached hroom handler⟩⟩
  · have hattaches := attaches hbus hdetached hroom handler
    refine ⟨_, _, hattaches, fun later handler ↦ attach_of_attached later handler nofun, ?_⟩
    intro later hlater
    exact detaches (hattaches.used.meanwhile hlater) rfl hattaches.kinds_eq
      (held_of_meanwhile hbus.orderly nodup_kinds hlater)

theorem all_or_nothing_neighbor :
    let b : MqttBridge := ⟨"zigbridge", true, []⟩
    let bus (maxHandlers : Nat) : EventBus String :=
      ⟨"default", maxHandlers, 8, [⟨1, .deviceLeft, "log"⟩], 2⟩
    (∃ after, Refused b (bus 1) "bridge" after) ∧
      ∃ own after, Attaches b (bus 2) "bridge" own after ∧
        Detaches (b.holding own) own (after.unsubscribe 1).1 := by
  have hused (maxHandlers : Nat) (hroom : 0 < maxHandlers) :
      EventBus.Used ⟨"default", maxHandlers, 8, [⟨1, .deviceLeft, "log"⟩], 2⟩ :=
    ⟨.withLimits maxHandlers 8, ⟨rfl, rfl⟩,
      .subscribe .refl (EventBus.subscribe_of_room "log" hroom)⟩
  refine ⟨(((all_or_nothing _ "bridge" (hused 1 (by decide))).2 rfl).1 ?_).1, ?_⟩
  · exact ⟨.deviceLeft, by decide, rfl⟩
  · obtain ⟨own, after, hattaches, -, hdetaches⟩ :=
      ((all_or_nothing ⟨"zigbridge", true, []⟩ "bridge" (hused 2 (by decide))).2 rfl).2 (by
        simp [kinds, EventBus.Full, EventBus.handlerCount, EventBus.handlers])
    refine ⟨own, after, hattaches, hdetaches _ (.unsubscribe .refl ?_)⟩
    intro hin
    obtain ⟨s, hs, hid⟩ := List.mem_map.1 hin
    exact hattaches.ids.2 s hs ⟨_, List.mem_singleton_self _, hid.symm⟩

end MqttBridge

end MeshBridge
