import MeshBridge.Proofs.Bus.Growth
/-!
The subscriptions of one bus. In the order in which they stand their numbers ascend, each number is
below the next one that is to be given, and no kind has more subscriptions than the bus allows
(`Orderly`). So a number names one subscription at most, whatever its kind, and the subscriptions of
one kind ascend as well.

A bus takes a handler unless its kind is full, and then gives the next number (`subscribe_of_room`,
`subscribe_of_full`). A subscription is ended by its number and the others stay as they stand
(`Orderly.unsubscribe_of_live`); a number that names none ends nothing (`unsubscribe_of_not_live`),
and a number that was given and names none will never name one again (`Ended`).
-/

set_option autoImplicit false
set_option relaxedAutoImplicit false

namespace MeshBridge.EventBus

variable {α : Type} {b after : EventBus α} {kind : EventKind} {handler : α} {id : Nat}

/-- A bus that was just made, with any name and any limits. -/
structure IsNew (b : EventBus α) : Prop where
  subscriptions : b.subscriptions = []
  nextId : b.nextId = 1

/-- A number names a subscription of the bus. -/
def Live (b : EventBus α) (id : Nat) : Prop := ∃ s ∈ b.subscriptions, s.id = id

/-- There are as many subscriptions for a kind as the bus allows. -/
def Full (b : EventBus α) (kind : EventKind) : Prop := b.handlerCount kind = b.maxHandlers

structure Orderly (b : EventBus α) : Prop where
  ascending : b.subscriptions.Pairwise fun s t ↦ s.id < t.id
  below : ∀ s ∈ b.subscriptions, s.id < b.nextId
  within : ∀ kind, b.handlerCount kind ≤ b.maxHandlers

theorem IsNew.orderly (h : b.IsNew) : b.Orderly where
  ascending := by
    rw [h.subscriptions]
    exact .nil
  below := by
    rw [h.subscriptions]
    nofun
  within kind := by
    rw [handlerCount, handlers, h.subscriptions]
    exact Nat.zero_le _

namespace Orderly

/-- The subscriptions of one kind stand in the order of their numbers. -/
theorem handlers_ascending (h : b.Orderly) (kind : EventKind) :
    (b.handlers kind).Pairwise fun s t ↦ s.id < t.id :=
  h.ascending.filter _

/-- All others than a subscription have other numbers. -/
theorem exists_split (h : b.Orderly) {s : Subscription α} (hs : s ∈ b.subscriptions) :
    ∃ front rest, b.subscriptions = front ++ s :: rest ∧
      (∀ t ∈ front, t.id ≠ s.id) ∧ ∀ t ∈ rest, t.id ≠ s.id := by
  obtain ⟨front, rest, hsplit⟩ := List.append_of_mem hs
  have hascending := h.ascending
  rw [hsplit, List.pairwise_append, List.pairwise_cons] at hascending
  obtain ⟨-, ⟨hrest, -⟩, hfront⟩ := hascending
  exact ⟨front, rest, hsplit, fun t ht ↦ Nat.ne_of_lt (hfront t ht s List.mem_cons_self),
    fun t ht ↦ Nat.ne_of_gt (hrest t ht)⟩

end Orderly

/-! ### Subscribing -/

theorem subscribe_of_room (handler : α) (hroom : b.handlerCount kind < b.maxHandlers) :
    b.subscribe kind handler = .ok ({ b with
      subscriptions := b.subscriptions ++ [⟨b.nextId, kind, handler⟩], nextId := b.nextId + 1 },
      b.nextId) :=
  if_neg (Nat.not_le_of_lt hroom)

/-- The fault of a handler for which there is no room. -/
def noRoom (b : EventBus α) (kind : EventKind) : Fault :=
  .resourceExhausted
    ("event handlers for " ++ kind.name ++ " (max " ++ toString b.maxHandlers ++ ")")

theorem subscribe_of_full (handler : α) (hfull : b.Full kind) :
    b.subscribe kind handler = .error (b.noRoom kind) :=
  if_pos (Nat.le_of_eq hfull.symm)

/-- A number that is given is the next one. -/
theorem id_of_subscribe (h : b.subscribe kind handler = .ok (after, id)) : id = b.nextId := by
  unfold subscribe at h
  split_ifs at h
  cases h
  rfl

/-- A kind that takes a handler was not full. -/
theorem room_of_subscribe (h : b.subscribe kind handler = .ok (after, id)) :
    b.handlerCount kind < b.maxHandlers := by
  unfold subscribe at h
  split_ifs at h with hfull
  exact Nat.lt_of_not_le hfull

theorem handlerCount_subscribe (h : b.subscribe kind handler = .ok (after, id)) (k : EventKind) :
    after.handlerCount k = b.handlerCount k + if k = kind then 1 else 0 := by
  rw [subscribe_eq_ok h]
  unfold handlerCount handlers
  rw [List.filter_append, List.length_append]
  by_cases hk : k = kind
  · simp [hk]
  · simp [hk, Ne.symm hk]

theorem Orderly.subscribe (h : b.Orderly)
    (hsubscribe : b.subscribe kind handler = .ok (after, id)) :
    after.Orderly := by
  have hcount := handlerCount_subscribe hsubscribe
  have hroom := room_of_subscribe hsubscribe
  obtain rfl := subscribe_eq_ok hsubscribe
  constructor
  · refine List.pairwise_append.2 ⟨h.ascending, List.pairwise_singleton .., ?_⟩
    intro s hs t ht
    rw [List.mem_singleton.1 ht]
    exact h.below s hs
  · intro s hs
    rcases List.mem_append.1 hs with hearlier | hlast
    · exact Nat.lt_succ_of_lt (h.below s hearlier)
    · rw [List.mem_singleton.1 hlast]
      exact Nat.lt_succ_self _
  · intro k
    rw [hcount]
    split_ifs with hk
    · rw [hk]
      exact hroom
    · exact h.within k

/-! ### Unsubscribing -/

theorem Orderly.unsubscribe (h : b.Orderly) (id : Nat) : (b.unsubscribe id).1.Orderly where
  ascending := h.ascending.filter _
  below s hs := h.below s (List.mem_filter.1 hs).1
  within kind :=
    Nat.le_trans (List.filter_sublist.filter _).length_le (h.within kind)

/-- Just the one subscription is taken away. -/
theorem Orderly.unsubscribe_of_live (h : b.Orderly) (hlive : b.Live id) :
    ∃ front s rest, b.subscriptions = front ++ s :: rest ∧ s.id = id ∧
      b.unsubscribe id = ({ b with subscriptions := front ++ rest }, true) := by
  obtain ⟨s, hs, rfl⟩ := hlive
  obtain ⟨front, rest, hsplit, hfront, hrest⟩ := h.exists_split hs
  refine ⟨front, s, rest, hsplit, rfl, ?_⟩
  have hkept : b.subscriptions.filter (·.id ≠ s.id) = front ++ rest := by
    rw [hsplit, List.filter_append, List.filter_cons_of_neg (by simp),
      List.filter_eq_self.2 (by simpa using hfront), List.filter_eq_self.2 (by simpa using hrest)]
  have hfound : b.subscriptions.any (·.id = s.id) = true :=
    List.any_eq_true.2 ⟨s, hs, decide_eq_true rfl⟩
  rw [EventBus.unsubscribe, hkept, hfound]

theorem unsubscribe_of_not_live (hnone : ¬ b.Live id) : b.unsubscribe id = (b, false) := by
  have hother : ∀ s ∈ b.subscriptions, s.id ≠ id := fun s hs hid ↦ hnone ⟨s, hs, hid⟩
  have hkept : b.subscriptions.filter (·.id ≠ id) = b.subscriptions :=
    List.filter_eq_self.2 (by simpa using hother)
  have hfound : b.subscriptions.any (·.id = id) = false :=
    List.any_eq_false.2 (by simpa using hother)
  rw [EventBus.unsubscribe, hkept, hfound]

theorem live_of_unsubscribe (h : (b.unsubscribe id).2 = true) : b.Live id := by
  obtain ⟨s, hs, hid⟩ := List.any_eq_true.1 h
  exact ⟨s, hs, of_decide_eq_true hid⟩

/-! ### Numbers that were used -/

/-- A number that was given and names no subscription any more. -/
structure Ended (b : EventBus α) (id : Nat) : Prop where
  given : id < b.nextId
  gone : ¬ b.Live id

theorem Orderly.ended_unsubscribe (h : b.Orderly) (hlive : b.Live id) :
    (b.unsubscribe id).1.Ended id where
  given := by
    obtain ⟨s, hs, rfl⟩ := hlive
    exact h.below s hs
  gone := by
    rintro ⟨s, hs, hid⟩
    exact of_decide_eq_true (List.mem_filter.1 hs).2 hid

/-- A new subscription does not get a number that was used. -/
theorem Ended.subscribe (h : b.Ended id) {other : Nat}
    (hsubscribe : b.subscribe kind handler = .ok (after, other)) : after.Ended id := by
  obtain rfl := subscribe_eq_ok hsubscribe
  refine ⟨Nat.lt_succ_of_lt h.given, ?_⟩
  rintro ⟨s, hs, hid⟩
  rcases List.mem_append.1 hs with hearlier | hlast
  · exact h.gone ⟨s, hearlier, hid⟩
  · rw [List.mem_singleton.1 hlast] at hid
    exact absurd hid (Nat.ne_of_gt h.given)

theorem Ended.unsubscribe (h : b.Ended id) (other : Nat) : (b.unsubscribe other).1.Ended id where
  given := h.given
  gone := by
    rintro ⟨s, hs, hid⟩
    exact h.gone ⟨s, (List.mem_filter.1 hs).1, hid⟩

/-! ### Changes -/

/-- What one call can make of a bus, with the number that it gives. -/
inductive Changes (b : EventBus α) : Option Nat → EventBus α → Prop
  | same : Changes b none b
  | subscribed {after : EventBus α} {kind : EventKind} {handler : α} {id : Nat}
      (h : b.subscribe kind handler = .ok (after, id)) : Changes b (some id) after
  | unsubscribed (id : Nat) : Changes b none (b.unsubscribe id).1

variable {given : Option Nat}

theorem Orderly.changes (h : b.Orderly) (hchanges : b.Changes given after) : after.Orderly := by
  cases hchanges with
  | same => exact h
  | subscribed hsubscribe => exact h.subscribe hsubscribe
  | unsubscribed id => exact h.unsubscribe id

theorem Ended.changes (h : b.Ended id) (hchanges : b.Changes given after) : after.Ended id := by
  cases hchanges with
  | same => exact h
  | subscribed hsubscribe => exact h.subscribe hsubscribe
  | unsubscribed other => exact h.unsubscribe other

/-- The next number is given or stays the next one. -/
theorem Changes.given_eq (h : b.Changes given after) :
    (given = none ∧ after.nextId = b.nextId) ∨
      (given = some b.nextId ∧ after.nextId = b.nextId + 1) := by
  cases h with
  | same => exact .inl ⟨rfl, rfl⟩
  | subscribed hsubscribe =>
    obtain rfl := id_of_subscribe hsubscribe
    rw [subscribe_eq_ok hsubscribe]
    exact .inr ⟨rfl, rfl⟩
  | unsubscribed id => exact .inl ⟨rfl, rfl⟩

end MeshBridge.EventBus
