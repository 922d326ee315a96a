import MeshBridge.Proofs.Coordinator.Reach
import MeshBridge.Proofs.Device.Profile
import MeshBridge.Radio.Simulated
import MeshBridge.Store.Memory
/-!
The registry holds what events told. Of each attribute of each device it has the value told last
since the device was forgotten last, and of the names of a device the texts told last. `Learning`
lists what a call can do to what is known of devices, and `Turn.learning` says that every call does
one of these. So leaving, joining again, moving to another address and losing one leave what is
known alone, and nothing is stored without being told.
-/

set_option autoImplicit false
set_option relaxedAutoImplicit false

namespace MeshBridge.Coordinator

variable {ρ σ : Type}

/-! ### What events tell -/

/-- The value that an event tells of an attribute. -/
def valueTold? (p : AttributePath) : Event → Option AttributeValue
  | .attributeChanged device endpoint cluster attr v =>
    if (⟨device, endpoint, cluster, attr⟩ : AttributePath) = p then some v else none
  | _ => none

/-- The text that an event tells of a name of a device, on whatever endpoint. -/
def nameTold? (device : Eui64) (name : UInt16) : Event → Option String
  | .attributeChanged d _ cluster attr v =>
    if d = device then Profile.named? name cluster attr v else none
  | _ => none

/-- What is known of a device is what was told of it, newest first. -/
structure Told (device : Eui64) (events : List Event) (p : Profile) : Prop where
  value : ∀ endpoint cluster attr, p.value? endpoint cluster attr =
    events.findSome? (valueTold? ⟨device, endpoint, cluster, attr⟩)
  manufacturer : p.manufacturer =
    (events.findSome? (nameTold? device AttributeId.manufacturerName)).getD ""
  model : p.model = (events.findSome? (nameTold? device AttributeId.modelIdentifier)).getD ""

theorem told_blank (device : Eui64) : Told device [] .blank := ⟨fun _ _ _ ↦ rfl, rfl, rfl⟩

/-- Events of other kinds tell nothing of attributes. -/
theorem Told.append {device : Eui64} {events : List Event} {p : Profile}
    (htold : Told device events p) {more : List Event}
    (hmore : ∀ e ∈ more, e.kind ≠ .attributeChanged) : Told device (more ++ events) p := by
  have hsame {α : Type} {f : Event → Option α}
      (hf : ∀ e, e.kind ≠ .attributeChanged → f e = none) :
      (more ++ events).findSome? f = events.findSome? f := by
    rw [List.findSome?_append, List.findSome?_eq_none_iff.2 fun e he ↦ hf e (hmore e he),
      Option.none_or]
  have hvalue (q : AttributePath) (e : Event) (he : e.kind ≠ .attributeChanged) :
      valueTold? q e = none := by
    cases e with
    | attributeChanged => exact absurd rfl he
    | _ => rfl
  have hname (name : UInt16) (e : Event) (he : e.kind ≠ .attributeChanged) :
      nameTold? device name e = none := by
    cases e with
    | attributeChanged => exact absurd rfl he
    | _ => rfl
  refine ⟨?_, ?_, ?_⟩
  · intro endpoint cluster attr
    rw [hsame (hvalue _), htold.value]
  · rw [hsame (hname _), htold.manufacturer]
  · rw [hsame (hname _), htold.model]

/-- What is told of a device last comes before all that was told earlier. -/
theorem Told.cons_self {device : Eui64} {events : List Event} {p : Profile}
    (htold : Told device events p) (endpoint : UInt8) (cluster attr : UInt16)
    (v : AttributeValue) :
    Told device (.attributeChanged device endpoint cluster attr v :: events)
      (p.learn endpoint cluster attr v) := by
  refine ⟨?_, ?_, ?_⟩
  · intro e k a
    rw [List.findSome?_cons, valueTold?, Profile.learn]
    by_cases hpath : e = endpoint ∧ k = cluster ∧ a = attr
    · obtain ⟨rfl, rfl, rfl⟩ := hpath
      simp
    · have hother : (⟨device, endpoint, cluster, attr⟩ : AttributePath) ≠ ⟨device, e, k, a⟩ := by
        intro hsame
        cases hsame
        exact hpath ⟨rfl, rfl, rfl⟩
      simp only [if_neg hpath, if_neg hother, htold.value]
  · rw [List.findSome?_cons, nameTold?, if_pos rfl]
    show (Profile.named? AttributeId.manufacturerName cluster attr v).getD p.manufacturer = _
    cases Profile.named? AttributeId.manufacturerName cluster attr v with
    | some text => rfl
    | none => exact htold.manufacturer
  · rw [List.findSome?_cons, nameTold?, if_pos rfl]
    show (Profile.named? AttributeId.modelIdentifier cluster attr v).getD p.model = _
    cases Profile.named? AttributeId.modelIdentifier cluster attr v with
    | some text => rfl
    | none => exact htold.model

/-- What is told of another device tells nothing of this one. -/
theorem Told.cons_other {device other : Eui64} {events : List Event} {p : Profile}
    (htold : Told device events p) (hother : device ≠ other) (endpoint : UInt8)
    (cluster attr : UInt16) (v : AttributeValue) :
    Told device (.attributeChanged other endpoint cluster attr v :: events) p := by
  refine ⟨?_, ?_, ?_⟩
  · intro e k a
    have hpath : (⟨other, endpoint, cluster, attr⟩ : AttributePath) ≠ ⟨device, e, k, a⟩ := by
      intro hsame
      cases hsame
      exact hother rfl
    rw [List.findSome?_cons, valueTold?, if_neg hpath, htold.value]
  · rw [List.findSome?_cons, nameTold?, if_neg hother.symm, htold.manufacturer]
  · rw [List.findSome?_cons, nameTold?, if_neg hother.symm, htold.model]

/-! ### What steps do to what is known -/

theorem profile_takeOffline (devices : Registry) (displaced : Option CacheEntry) (d : Eui64) :
    (takeOffline devices displaced).1.profile d = devices.profile d := by
  unfold takeOffline
  split
  · rfl
  · next entry =>
    split
    · next node hnode =>
      split_ifs
      · cases hmodify : devices.modify? entry.device fun node ↦ { node with online := false } with
        | none => rfl
        | some after => exact Registry.profile_online hmodify d
      · rfl
    · rfl

theorem profile_announce (c : Coordinator ρ σ) (now : Moment) (device : Eui64)
    (address : NetworkAddress) (d : Eui64) :
    (c.announce now device address).after.devices.profile d = c.devices.profile d := by
  unfold announce
  split
  · rfl
  · split
    · rfl
    · next displaced _ =>
      show ((takeOffline c.devices displaced).1.upsert device address now.civil).profile d = _
      rw [Registry.profile_upsert, profile_takeOffline]

theorem profile_leave (c : Coordinator ρ σ) (device d : Eui64) :
    (c.leave device).after.devices.profile d = c.devices.profile d := by
  unfold leave
  split
  · rfl
  · split
    · rfl
    · next hoffline => exact Registry.profile_setOnline hoffline d
    · rfl
    · next hoffline => exact Registry.profile_setOnline hoffline d

/-- A device that was removed is forgotten, and if it was not there nothing is. -/
theorem profile_remove (c : Coordinator ρ σ) (device d : Eui64) :
    (c.remove device).after.devices.profile d =
      if d = device ∧ (c.remove device).result.isOk = true then .blank
      else c.devices.profile d := by
  unfold remove
  split
  · simp [refuse, Except.isOk, Except.toBool]
  · split
    · simp [refuse, Except.isOk, Except.toBool]
    · next hdelete =>
      have hblank := Registry.profile_of_delete_error hdelete
      by_cases hd : d = device <;> simp [hd, hblank, Except.isOk, Except.toBool]
    · next hdelete =>
      simp only [Registry.profile_delete hdelete, Except.isOk, Except.toBool, and_true]

/-- A device tells its names in two attributes, and each of them changes that name only. -/
theorem profile_identify (node : Node) (cluster attr : UInt16) (v : AttributeValue) :
    (identify node cluster attr v).profile =
      { node.profile with
        manufacturer := (Profile.named? AttributeId.manufacturerName cluster attr v).getD
          node.manufacturer
        model := (Profile.named? AttributeId.modelIdentifier cluster attr v).getD node.model } := by
  have hdistinct : AttributeId.manufacturerName ≠ AttributeId.modelIdentifier := by decide
  cases v with
  | string text =>
    unfold identify Profile.named?
    by_cases hbasic : cluster = ClusterId.basic
    · by_cases hmanufacturer : attr = AttributeId.manufacturerName
      · simp only [hbasic, hmanufacturer, hdistinct, ne_eq, not_true_eq_false, if_false, if_true,
          and_self, and_false]
        rfl
      · by_cases hmodel : attr = AttributeId.modelIdentifier
        · simp only [hbasic, hmodel, hdistinct.symm, ne_eq, not_true_eq_false, if_false, if_true,
            and_self, and_false]
          rfl
        · simp only [hbasic, hmanufacturer, hmodel, ne_eq, not_true_eq_false, if_false, and_false]
          rfl
    · simp only [hbasic, ne_eq, not_false_eq_true, if_true, if_false, false_and]
      rfl
  | _ =>
    unfold identify Profile.named?
    split_ifs <;> rfl

/-- What is known of a node once a value it reported was stored. -/
theorem profile_record (node : Node) (now : Moment) (r : Report) (v : AttributeValue) :
    (record node now r v).profile = node.profile.learn r.endpoint r.cluster r.attr v := by
  have hidentify := profile_identify node r.cluster r.attr v
  have honline : Node.profile { identify node r.cluster r.attr v with
      online := true, lastSeen := now.civil } = (identify node r.cluster r.attr v).profile := rfl
  rw [record, Node.profile_store, honline, hidentify]
  rfl

/-- A reported value is found at its path, and the values at all other paths are as before. -/
theorem value?_record (node : Node) (now : Moment) (r : Report) (v : AttributeValue) (e : UInt8)
    (k a : UInt16) :
    (record node now r v).value? e k a =
      if e = r.endpoint ∧ k = r.cluster ∧ a = r.attr then some v else node.value? e k a := by
  have hprofile := profile_record node now r v
  exact congrFun (congrFun (congrFun (congrArg Profile.value? hprofile) e) k) a

/-- A report is passed over, or it is learned what it says and told. -/
theorem profile_report (c : Coordinator ρ σ) (now : Moment) (r : Report) :
    (c.report now r).after.devices = c.devices ∧ (c.report now r).events = [] ∨
      ∃ device v,
        (∀ d, (c.report now r).after.devices.profile d =
          if d = device then (c.devices.profile device).learn r.endpoint r.cluster r.attr v
          else c.devices.profile d) ∧
        (c.report now r).events = [.attributeChanged device r.endpoint r.cluster r.attr v] := by
  unfold report
  split
  · exact Or.inl ⟨rfl, rfl⟩
  · next value _ =>
    split
    · exact Or.inl ⟨rfl, rfl⟩
    · split
      · exact Or.inl ⟨rfl, rfl⟩
      · next device _ =>
        split
        · exact Or.inl ⟨rfl, rfl⟩
        · next node hnode =>
          split_ifs
          · exact Or.inl ⟨rfl, rfl⟩
          · refine Or.inr ⟨device, value, ?_, rfl⟩
            intro d
            rw [Registry.profile_of_find? hnode, ← profile_record node now r value]
            exact Registry.profile_insert c.devices.nodes c.devices.holders device _ d

/-! ### What was told since a device was forgotten -/

theorem filterMap_event?_reverse_told (events : List Event) :
    ((events.map (Entry.told (ρ := ρ) (σ := σ))).reverse).filterMap Entry.event? =
      events.reverse := by
  rw [List.filterMap_reverse, History.filterMap_event?_map_told]

variable [Radio ρ] [KeyValueStore σ]

/-- Whether a call forgot a device: it was asked to remove it, and did. -/
def Turn.forgets (t : Turn ρ σ) (device : Eui64) : Bool :=
  t.call = .remove device && t.result.isOk

def Entry.forgets (device : Eui64) : Entry ρ σ → Bool
  | called t => t.forgets device
  | told _ => false

/-- The events told since a device was forgotten last, newest first. -/
def History.since (h : History ρ σ) (device : Eui64) : List Event :=
  (h.entries.reverse.takeWhile fun entry ↦ !entry.forgets device).filterMap Entry.event?

theorem takeWhile_map_told (events : List Event) (rest : List (Entry ρ σ)) (device : Eui64) :
    (((events.map Entry.told).reverse ++ rest).takeWhile fun entry ↦ !entry.forgets device) =
      (events.map Entry.told).reverse ++ rest.takeWhile fun entry ↦ !entry.forgets device := by
  refine List.takeWhile_append_of_pos ?_
  intro entry hentry
  obtain ⟨e, -, rfl⟩ := List.mem_map.1 (List.mem_reverse.1 hentry)
  rfl

theorem History.since_tell (h : History ρ σ) (device : Eui64) :
    h.tell.since device = (h.waiting.take 1).reverse ++ h.since device := by
  rw [since, tell, List.reverse_append, takeWhile_map_told, List.filterMap_append,
    filterMap_event?_reverse_told, since]

/-- A call adds the event it tells at once; where it forgot the device, this is all there is. -/
theorem History.since_call (h : History ρ σ) (t : Turn ρ σ) (device : Eui64) :
    (h.call t).since device =
      (t.events.take 1).reverse ++ if t.forgets device then [] else h.since device := by
  rw [since, call, List.reverse_append, List.reverse_cons, List.append_assoc, takeWhile_map_told,
    List.filterMap_append, filterMap_event?_reverse_told, List.singleton_append,
    List.takeWhile_cons, Entry.forgets]
  cases t.forgets device with
  | true => rfl
  | false => rfl

/-! ### What a call does to what is known -/

/-- What a call does to what is known of devices, and what it tells of attributes. -/
inductive Learning (t : Turn ρ σ) : Prop
  | kept (hforgets : ∀ d, t.forgets d = false)
      (hprofile : ∀ d, t.after.devices.profile d = t.before.devices.profile d)
      (hevents : ∀ e ∈ t.events, e.kind ≠ .attributeChanged)
  | forgot (device : Eui64) (hforgets : ∀ d, t.forgets d = decide (d = device))
      (hprofile : ∀ d, t.after.devices.profile d =
        if d = device then .blank else t.before.devices.profile d)
      (hevents : ∀ e ∈ t.events, e.kind ≠ .attributeChanged)
  | learned (device : Eui64) (endpoint : UInt8) (cluster attr : UInt16) (v : AttributeValue)
      (hforgets : ∀ d, t.forgets d = false)
      (hprofile : ∀ d, t.after.devices.profile d =
        if d = device then (t.before.devices.profile device).learn endpoint cluster attr v
        else t.before.devices.profile d)
      (hevents : t.events = [.attributeChanged device endpoint cluster attr v])

/-- Every call does to what is known of devices one of what `Learning` lists. -/
theorem Turn.learning (t : Turn ρ σ) : Learning t := by
  obtain ⟨c, now, call⟩ := t
  have hsilent (hkinds : .attributeChanged ∉ call.kinds) :
      ∀ e ∈ (Turn.mk c now call).events, e.kind ≠ .attributeChanged := by
    intro e he hkind
    exact hkinds (hkind ▸ kind_mem_kinds he)
  have hstill (hdevices : call.movesDevices = false) (hforgets : ∀ d, call ≠ .remove d)
      (hkinds : .attributeChanged ∉ call.kinds) : Learning (Turn.mk c now call) := by
    have hsame := ((c.framed_perform now call).devices hdevices).2
    exact .kept (by simp [forgets, hforgets]) (fun d ↦ congrArg (·.profile d) hsame)
      (hsilent hkinds)
  cases call with
  | announce device address =>
    exact .kept (by simp [forgets]) (c.profile_announce now device address)
      (hsilent (by simp [Call.kinds]))
  | leave device =>
    exact .kept (by simp [forgets]) (c.profile_leave device) (hsilent (by simp [Call.kinds]))
  | report r =>
    rcases c.profile_report now r with ⟨hsame, hnone⟩ | ⟨device, v, hlearned, htold⟩
    · refine .kept (by simp [forgets]) (fun d ↦ congrArg (·.profile d) hsame) ?_
      have hevents : (Turn.mk c now (.report r)).events = [] := hnone
      simp [hevents]
    · exact .learned device r.endpoint r.cluster r.attr v (by simp [forgets]) hlearned htold
  | remove device =>
    have hresult :
        (Turn.mk c now (.remove device)).result.isOk = (c.remove device).result.isOk := by
      show ((c.remove device).result.map _).isOk = _
      cases (c.remove device).result <;> rfl
    have hprofile := c.profile_remove device
    cases hok : (c.remove device).result.isOk with
    | true =>
      refine .forgot device ?_ ?_ (hsilent (by simp [Call.kinds]))
      · intro d
        simp [forgets, hresult, hok, eq_comm]
      · intro d
        refine (hprofile d).trans ?_
        simp [hok]
    | false =>
      refine .kept ?_ ?_ (hsilent (by simp [Call.kinds]))
      · simp [forgets, hresult, hok]
      · intro d
        refine (hprofile d).trans ?_
        simp [hok]
  | _ => exact hstill rfl (by simp) (by simp [Call.kinds])

/-! ### Pasts -/

variable {config : AdapterConfig} {corrections : CorrectionTable} {c : Coordinator ρ σ}
  {h : History ρ σ}

/-- Where nobody else changes the registry, it knows of every device what was told of it. Nothing of
an attribute ever waits to be told, as a call that tells of one tells nothing else. -/
theorem Past.told_profile (hpast : Past Eq config corrections c h) (device : Eui64) :
    Told device (h.since device) (c.devices.profile device) := by
  induction hpast with
  | made => exact told_blank device
  | @called c h _ now call ih =>
    have hearlier : ∀ e ∈ ((Turn.mk c now call).events.take 1).reverse,
        e ∈ (Turn.mk c now call).events :=
      fun e he ↦ List.mem_of_mem_take (List.mem_reverse.1 he)
    rw [History.since_call]
    show Told device _ ((Turn.mk c now call).after.devices.profile device)
    cases Turn.learning (Turn.mk c now call) with
    | kept hforgets hprofile hevents =>
      rw [hforgets, hprofile]
      exact ih.append fun e he ↦ hevents e (hearlier e he)
    | forgot other hforgets hprofile hevents =>
      rw [hforgets, hprofile]
      by_cases hd : device = other
      · simp only [hd, decide_true, if_true]
        exact (told_blank other).append fun e he ↦ hevents e (hearlier e he)
      · simp only [hd, decide_false, if_false, Bool.false_eq_true]
        exact ih.append fun e he ↦ hevents e (hearlier e he)
    | learned other endpoint cluster attr v hforgets hprofile hevents =>
      rw [hforgets, hprofile, hevents]
      by_cases hd : device = other
      · subst hd
        rw [if_pos rfl]
        exact ih.cons_self endpoint cluster attr v
      · rw [if_neg hd]
        exact ih.cons_other hd endpoint cluster attr v
  | @told c h hpast ih =>
    rw [History.since_tell]
    refine ih.append fun e he ↦ ?_
    have hwaiting := hpast.kind_of_mem_waiting (List.mem_of_mem_take (List.mem_reverse.1 he))
    rcases hwaiting with hkind | hkind <;> simp [hkind]
  | changed _ hdevices _ _ ih =>
    subst hdevices
    exact ih

/-- The registry and the events of a history agree on what devices reported. -/
structure Recorded (c : Coordinator ρ σ) (h : History ρ σ) : Prop where
  value : ∀ p, c.devices.attribute? p = (h.since p.device).findSome? (valueTold? p)
  names : ∀ device node, c.devices.find? device = some node →
    node.manufacturer =
        ((h.since device).findSome? (nameTold? device AttributeId.manufacturerName)).getD "" ∧
      node.model =
        ((h.since device).findSome? (nameTold? device AttributeId.modelIdentifier)).getD ""

/-- Whatever devices leave, join again, move or lose their addresses, the registry holds of every
attribute and every name what was told of it last since its device was forgotten last. -/
theorem recorded_of_past (hpast : Past Eq config corrections c h) : Recorded c h := by
  constructor
  · intro p
    rw [Registry.attribute?_eq, (hpast.told_profile p.device).value]
  · intro device node hnode
    have htold := hpast.told_profile device
    rw [Registry.profile_of_find? hnode] at htold
    exact ⟨htold.manufacturer, htold.model⟩

/-- A device tells its model and that it is on. Another one takes its address and tells that it is
off; then the first one is forgotten, and joins again. -/
theorem recorded_of_past_takenOver :
    ∃ (c : Coordinator SimulatedRadio MemoryStore) (h : History SimulatedRadio MemoryStore),
      Past Eq default .empty c h ∧
        h.told = [.deviceJoined ⟨7⟩ 0x1234,
          .attributeChanged ⟨7⟩ 1 0x0000 0x0005 (.string "A"),
          .attributeChanged ⟨7⟩ 1 0x0006 0x0000 (.bool true),
          .deviceLeft ⟨7⟩, .deviceJoined ⟨8⟩ 0x1234,
          .attributeChanged ⟨8⟩ 1 0x0006 0x0000 (.bool false),
          .deviceJoined ⟨7⟩ 0x5678] ∧
        c.devices.attribute? ⟨⟨7⟩, 1, 0x0006, 0x0000⟩ = none ∧
        c.devices.attribute? ⟨⟨8⟩, 1, 0x0006, 0x0000⟩ = some (.bool false) ∧ Recorded c h := by
  have hmade : Past Eq default .empty
      (new default .empty SimulatedRadio.empty (none : Option MemoryStore)) .empty := .made _ _
  have hpast := ((((((hmade.called ⟨0, 0⟩ (.announce ⟨7⟩ 0x1234)).called ⟨1, 0⟩
    (.report ⟨0x1234, 1, 0x0000, 0x0005, 0x42, [1, 65]⟩)).called ⟨2, 0⟩
    (.report ⟨0x1234, 1, 0x0006, 0x0000, 0x10, [1]⟩)).called ⟨3, 0⟩
    (.announce ⟨8⟩ 0x1234)).told.called ⟨4, 0⟩
    (.report ⟨0x1234, 1, 0x0006, 0x0000, 0x10, [0]⟩)).called ⟨5, 0⟩ (.remove ⟨7⟩)).called ⟨6, 0⟩
    (.announce ⟨7⟩ 0x5678)
  exact ⟨_, _, hpast, by decide, by decide, by decide, recorded_of_past hpast⟩

end MeshBridge.Coordinator