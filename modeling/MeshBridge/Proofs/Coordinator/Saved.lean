import MeshBridge.Coordinator.Run
import MeshBridge.Proofs.Coordinator.Frames
import MeshBridge.Proofs.Store.Keeping
import MeshBridge.Radio.Simulated
/-!
The network a store remembers. Coordinators use one store one after another (`Series`), and every
network that is formed is saved there as two values, its identifier and then its channel, each of
which the store may refuse. So what is read back is the identifier of the last network of which it
was taken, with the channel of the last network of which that was taken
(`Series.persistedNetwork_eq`).

The two are of one network if the store took both of the last network it took anything of
(`persistedNetwork_of_series`). They need not be: a store that takes the identifier of a second
network and then refuses its channel remembers the identifier of the second with the channel of the
first, which is the network of neither (`persistedNetwork_of_series_torn`).
-/

set_option autoImplicit false
set_option relaxedAutoImplicit false

namespace MeshBridge.Coordinator

variable {ρ σ : Type}

/-! ### Saving the parameters of a network -/

section Store

variable [KeyValueStore σ] {held : σ → String → String → Option StoredValue}

/-- The store after it took the network identifier. -/
def panIdTaken? (info : NetworkInfo) (store : σ) : Option σ :=
  (KeyValueStore.set networkSpace "pan_id" (.u16 info.panId) store).toOption

/-- The store after it took the network identifier and then the channel. -/
def channelTaken? (info : NetworkInfo) (store : σ) : Option σ :=
  (panIdTaken? info store).bind fun saved ↦
    (KeyValueStore.set networkSpace "channel" (.u8 info.channel) saved).toOption

theorem persist_eq (info : NetworkInfo) (store : σ) :
    persist info store =
      (channelTaken? info store).getD ((panIdTaken? info store).getD store) := by
  unfold persist channelTaken? panIdTaken?
  cases KeyValueStore.set networkSpace "pan_id" (.u16 info.panId) store <;> rfl

/-- What a store holds of a network: its identifier and its channel. -/
def networkHeld (held : σ → String → String → Option StoredValue) (store : σ) :
    Option StoredValue × Option StoredValue :=
  (held store networkSpace "pan_id", held store networkSpace "channel")

theorem ok_of_toOption {ε α : Type} {result : Except ε α} {a : α} (h : result.toOption = some a) :
    result = .ok a := by
  cases result with
  | error => cases h
  | ok => exact congrArg _ (Option.some.inj h)

theorem networkHeld_panIdTaken (hheld : KeyValueStore.Keeps held) {info : NetworkInfo}
    {store saved : σ} (h : panIdTaken? info store = some saved) :
    networkHeld held saved = (some (.u16 info.panId), (networkHeld held store).2) := by
  have hset := hheld.set (v := .u16 info.panId) trivial (ok_of_toOption h)
  unfold networkHeld
  rw [hset, hset]
  rfl

theorem networkHeld_channelTaken (hheld : KeyValueStore.Keeps held) {info : NetworkInfo}
    {store saved : σ} (h : channelTaken? info store = some saved) :
    networkHeld held saved = (some (.u16 info.panId), some (.u8 info.channel)) := by
  obtain ⟨middle, hmiddle, hsaved⟩ := Option.bind_eq_some_iff.1 h
  have hset := hheld.set (v := .u8 info.channel) trivial (ok_of_toOption hsaved)
  have hfirst := congrArg Prod.fst (networkHeld_panIdTaken hheld hmiddle)
  unfold networkHeld at hfirst ⊢
  rw [hset, hset]
  exact Prod.ext hfirst rfl

end Store

/-! ### Turns that form networks -/

namespace Turn

variable [Radio ρ] [KeyValueStore σ]

/-- The network that the call formed. -/
def formed? (t : Turn ρ σ) : Option NetworkInfo :=
  match t.call, t.result with
  | .formed status panId channel, .ok _ => if status = 0 then some ⟨panId, channel⟩ else none
  | _, _ => none

/-- The network that the call formed, if the store took its identifier. -/
def begun? (t : Turn ρ σ) : Option NetworkInfo :=
  t.formed?.filter fun info ↦ (t.before.store.bind (panIdTaken? info)).isSome

/-- The network that the call formed, if the store took its identifier and its channel. -/
def saved? (t : Turn ρ σ) : Option NetworkInfo :=
  t.formed?.filter fun info ↦ (t.before.store.bind (channelTaken? info)).isSome

theorem formed?_of_saved? {t : Turn ρ σ} {info : NetworkInfo} (h : t.saved? = some info) :
    t.formed? = some info :=
  (Option.filter_eq_some_iff.1 h).1

/-- A network that was saved was begun to be saved. -/
theorem begun?_of_saved? {t : Turn ρ σ} {info : NetworkInfo} (h : t.saved? = some info) :
    t.begun? = some info := by
  obtain ⟨hformed, htaken⟩ := Option.filter_eq_some_iff.1 h
  obtain ⟨saved, hsaved⟩ := Option.isSome_iff_exists.1 htaken
  obtain ⟨store, hstore, hchannel⟩ := Option.bind_eq_some_iff.1 hsaved
  obtain ⟨middle, hmiddle, -⟩ := Option.bind_eq_some_iff.1 hchannel
  refine Option.filter_eq_some_iff.2 ⟨hformed, ?_⟩
  rw [hstore, Option.bind_some, hmiddle]
  rfl

/-- Only forming a network changes the store. -/
theorem store_after (t : Turn ρ σ) :
    t.after.store =
      match t.formed? with
      | none => t.before.store
      | some info => t.before.store.map (persist info) := by
  obtain ⟨c, now, call⟩ := t
  cases call with
  | init => exact (congrArg Coordinator.store c.init_frame :)
  | start => exact (congrArg Coordinator.store c.start_frame :)
  | permitJoin seconds => exact (congrArg Coordinator.store (c.permitJoin_frame seconds) :)
  | fatal reason => exact (congrArg Coordinator.store (c.fatal_frame reason) :)
  | announce device address =>
    exact (congrArg Coordinator.store (c.announce_frame now device address) :)
  | leave device => exact (congrArg Coordinator.store (c.leave_frame device) :)
  | report r => exact (congrArg Coordinator.store (c.report_frame now r) :)
  | remove device => exact (congrArg Coordinator.store (c.remove_frame device) :)
  | status seq status => exact (congrArg Coordinator.store (c.status_frame seq status) :)
  | sweep => exact (congrArg Coordinator.store (c.sweep_frame now) :)
  | send device endpoint request =>
    exact (congrArg Coordinator.store (c.send_frame now device endpoint request) :)
  | formed status panId channel =>
    unfold Turn.formed? Turn.after Turn.result Turn.step
    simp only [perform, Step.map]
    unfold formed
    by_cases hstatus : status = 0
    · cases c.lifecycle.move? .ready <;> simp [hstatus, refuse, Except.map]
    · cases c.lifecycle.move? .error <;> simp [hstatus, refuse, Except.map]

end Turn

/-! ### Coordinators one after another -/

section Series

variable [Radio ρ] [KeyValueStore σ] {held : σ → String → String → Option StoredValue}

/-- Coordinators that use one store one after another, with the calls made on them, oldest first.
The store holds no network at first. It may change what it refuses as it likes, but what it holds
of a network only a coordinator changes. -/
inductive Series (held : σ → String → String → Option StoredValue) :
    Coordinator ρ σ → List (Turn ρ σ) → Prop
  | first (config : AdapterConfig) (corrections : CorrectionTable) (radio : ρ) {store : σ}
      (hblank : networkHeld held store = (none, none)) :
      Series held (new config corrections radio (some store)) []
  | called {c : Coordinator ρ σ} {turns : List (Turn ρ σ)} (hseries : Series held c turns)
      (now : Moment) (call : Call) :
      Series held (c.perform now call).after (turns ++ [⟨c, now, call⟩])
  | aside {c : Coordinator ρ σ} {turns : List (Turn ρ σ)} (hseries : Series held c turns)
      (devices : Registry) (radio : ρ) {store : σ} (other : σ) (hstore : c.store = some store)
      (hheld : networkHeld held other = networkHeld held store) :
      Series held { c with devices, radio, store := some other } turns
  | next {c : Coordinator ρ σ} {turns : List (Turn ρ σ)} (hseries : Series held c turns)
      (config : AdapterConfig) (corrections : CorrectionTable) (radio : ρ) :
      Series held (new config corrections radio c.store) turns

/-- The identifier of the last network of which the store took it, and the channel of the last
network of which the store took that. -/
def lastTaken (turns : List (Turn ρ σ)) : Option UInt16 × Option UInt8 :=
  ((turns.filterMap Turn.begun?).getLast?.map (·.panId),
    (turns.filterMap Turn.saved?).getLast?.map (·.channel))

/-- The network read back after these calls. -/
def lastSaved (turns : List (Turn ρ σ)) : Option NetworkInfo := do
  some ⟨← (lastTaken turns).1, ← (lastTaken turns).2⟩

theorem lastTaken_concat (turns : List (Turn ρ σ)) (t : Turn ρ σ) :
    lastTaken (turns ++ [t]) =
      (t.begun?.elim (lastTaken turns).1 (some ·.panId),
        t.saved?.elim (lastTaken turns).2 (some ·.channel)) := by
  unfold lastTaken
  simp only [List.filterMap_append, List.filterMap_cons, List.filterMap_nil]
  cases t.begun? <;> cases t.saved? <;> simp

/-- What a store holds after a call. Of a network that was formed it took nothing, the identifier
only, or both. -/
theorem networkHeld_after (hheld : KeyValueStore.Keeps held) {t : Turn ρ σ} {store : σ}
    (hstore : t.before.store = some store) :
    ∃ after, t.after.store = some after ∧ networkHeld held after =
      (t.begun?.elim (networkHeld held store).1 (some <| .u16 ·.panId),
        t.saved?.elim (networkHeld held store).2 (some <| .u8 ·.channel)) := by
  have hafter := t.store_after
  rw [hstore] at hafter
  unfold Turn.begun? Turn.saved?
  rw [hstore]
  cases hformed : t.formed? with
  | none =>
    rw [hformed] at hafter
    exact ⟨store, hafter, rfl⟩
  | some info =>
    rw [hformed] at hafter
    refine ⟨persist info store, hafter, ?_⟩
    rw [persist_eq]
    simp only [Option.filter_some, Option.bind_some]
    cases hpanId : panIdTaken? info store with
    | none =>
      have hchannel : channelTaken? info store = none := by rw [channelTaken?, hpanId]; rfl
      rw [hchannel]
      rfl
    | some middle =>
      cases hchannel : channelTaken? info store with
      | none => exact networkHeld_panIdTaken hheld hpanId
      | some saved => exact networkHeld_channelTaken hheld hchannel

/-- The store holds the last identifier and the last channel it took. -/
theorem Series.networkHeld_eq (hheld : KeyValueStore.Keeps held) {c : Coordinator ρ σ}
    {turns : List (Turn ρ σ)} (hseries : Series held c turns) :
    ∃ store, c.store = some store ∧ networkHeld held store =
      ((lastTaken turns).1.map .u16, (lastTaken turns).2.map .u8) := by
  induction hseries with
  | first config corrections radio hblank => exact ⟨_, rfl, hblank⟩
  | @called c turns _ now call ih =>
    obtain ⟨store, hstore, hsame⟩ := ih
    obtain ⟨after, hafter, hkept⟩ := networkHeld_after hheld (t := ⟨c, now, call⟩) hstore
    refine ⟨after, hafter, ?_⟩
    rw [hkept, hsame, lastTaken_concat]
    cases Turn.begun? ⟨c, now, call⟩ <;> cases Turn.saved? ⟨c, now, call⟩ <;> rfl
  | aside _ devices radio other hstore hother ih =>
    obtain ⟨store, hstore', hsame⟩ := ih
    obtain rfl := Option.some.inj (hstore.symm.trans hstore')
    exact ⟨_, rfl, hother.trans hsame⟩
  | next _ config corrections radio ih => exact ih

/-! ### Reading the network back -/

section Read

variable {c : Coordinator ρ σ} {turns : List (Turn ρ σ)}

omit [Radio ρ] in
/-- A value that the store holds with the type asked for is what is read, once the store answers. -/
theorem getAs_eq (hheld : KeyValueStore.Keeps held) (type : StoredType) {space key : String}
    {store : σ} (htype : ∀ v, held store space key = some v → v.type = type) :
    KeyValueStore.getAs type space key store =
      (KeyValueStore.get space key store).map fun _ ↦ held store space key := by
  unfold KeyValueStore.getAs
  cases hget : KeyValueStore.get space key store with
  | error fault => rfl
  | ok v =>
    rw [hheld.get hget]
    cases hsame : held store space key with
    | none => rfl
    | some v => exact if_pos (htype v hsame)

/-- Reading fails just if the store does not answer. -/
theorem Series.persistedNetwork_eq (hheld : KeyValueStore.Keeps held)
    (hseries : Series held c turns) :
    ∃ store, c.store = some store ∧ c.persistedNetwork =
      (KeyValueStore.get networkSpace "pan_id" store).bind fun _ ↦
        (KeyValueStore.get networkSpace "channel" store).map fun _ ↦ lastSaved turns := by
  obtain ⟨store, hstore, hsame⟩ := hseries.networkHeld_eq hheld
  have hpanId : held store networkSpace "pan_id" = (lastTaken turns).1.map .u16 :=
    congrArg Prod.fst hsame
  have hchannel : held store networkSpace "channel" = (lastTaken turns).2.map .u8 :=
    congrArg Prod.snd hsame
  refine ⟨store, hstore, ?_⟩
  have hreadPanId := getAs_eq hheld .u16 (by rw [hpanId]; simp [StoredValue.type])
  have hreadChannel := getAs_eq hheld .u8 (by rw [hchannel]; simp [StoredValue.type])
  unfold persistedNetwork KeyValueStore.getUInt16 KeyValueStore.getUInt8 lastSaved
  rw [hstore]
  simp only [hreadPanId, hreadChannel, hpanId, hchannel]
  cases KeyValueStore.get networkSpace "pan_id" store with
  | error fault => rfl
  | ok v =>
    cases KeyValueStore.get networkSpace "channel" store with
    | error fault => cases (lastTaken turns).1 <;> rfl
    | ok w => cases (lastTaken turns).1 <;> cases (lastTaken turns).2 <;> rfl

/-- The store took both values of the last network of which it took any. -/
def LastWhole (turns : List (Turn ρ σ)) : Prop :=
  ∀ earlier t later, turns = earlier ++ t :: later → (∀ u ∈ later, u.begun? = none) →
    t.saved? = t.begun?

theorem lastWhole_of_forall (h : ∀ t ∈ turns, t.saved? = t.begun?) : LastWhole turns := by
  rintro earlier t later rfl -
  exact h t (by simp)

/-- A network that was saved and after which none was begun to be saved is read back. -/
theorem lastSaved_of_saved {earlier later : List (Turn ρ σ)} {t : Turn ρ σ} {info : NetworkInfo}
    (hsaved : t.saved? = some info) (hlater : ∀ u ∈ later, u.begun? = none) :
    lastSaved (earlier ++ t :: later) = some info := by
  have hbegun : later.filterMap Turn.begun? = [] := List.filterMap_eq_nil_iff.2 hlater
  have hwhole : later.filterMap Turn.saved? = [] := by
    refine List.filterMap_eq_nil_iff.2 fun u hu ↦ ?_
    cases hother : u.saved? with
    | none => rfl
    | some other => exact absurd (hlater u hu) (by simp [Turn.begun?_of_saved? hother])
  unfold lastSaved lastTaken
  simp [List.filterMap_append, hsaved, Turn.begun?_of_saved? hsaved, hbegun, hwhole]

/-- If anything is read back, there is a last network that was begun to be saved. -/
theorem exists_last_begun {info : NetworkInfo} (h : lastSaved turns = some info) :
    ∃ earlier t later begun, turns = earlier ++ t :: later ∧ t.begun? = some begun ∧
      ∀ u ∈ later, u.begun? = none := by
  unfold lastSaved lastTaken at h
  cases hlast : (turns.filterMap Turn.begun?).getLast? with
  | none => rw [hlast] at h; cases h
  | some begun =>
    obtain ⟨before, hbefore⟩ := List.getLast?_eq_some_iff.1 hlast
    obtain ⟨first, rest, hturns, -, hrest⟩ := List.filterMap_eq_append_iff.1 hbefore
    obtain ⟨skipped, t, later, rfl, -, hbegun, hlater⟩ := List.filterMap_eq_cons_iff.1 hrest
    refine ⟨first ++ skipped, t, later, begun, ?_, hbegun, List.filterMap_eq_nil_iff.1 hlater⟩
    rw [hturns, List.append_assoc]

/-- What is read back is the identifier of the last network of which the store took it, with the
channel of the last network of which the store took that. It is a network that was formed if the
store took both of the last one of which it took any. Reading succeeds if the store answers. -/
theorem persistedNetwork_of_series (hheld : KeyValueStore.Keeps held)
    (hseries : Series held c turns) :
    (∀ found, c.persistedNetwork = .ok found → found = lastSaved turns ∧
      (LastWhole turns → ∀ info, found = some info → ∃ t ∈ turns, t.formed? = some info)) ∧
    ((∀ store key, c.store = some store → ∃ v, KeyValueStore.get networkSpace key store = .ok v) →
      ∃ found, c.persistedNetwork = .ok found) := by
  obtain ⟨store, hstore, hread⟩ := hseries.persistedNetwork_eq hheld
  constructor
  · intro found hfound
    have hlast : found = lastSaved turns := by
      rw [hread] at hfound
      cases hpanId : KeyValueStore.get networkSpace "pan_id" store with
      | error fault => rw [hpanId] at hfound; cases hfound
      | ok v =>
        cases hchannel : KeyValueStore.get networkSpace "channel" store with
        | error fault => rw [hpanId, hchannel] at hfound; cases hfound
        | ok w =>
          rw [hpanId, hchannel] at hfound
          exact (Except.ok.inj hfound).symm
    refine ⟨hlast, fun hwhole info hinfo ↦ ?_⟩
    rw [hlast] at hinfo
    obtain ⟨earlier, t, later, begun, rfl, hbegun, hlater⟩ := exists_last_begun hinfo
    have hsaved := (hwhole earlier t later rfl hlater).trans hbegun
    obtain rfl := Option.some.inj ((lastSaved_of_saved hsaved hlater).symm.trans hinfo)
    exact ⟨t, by simp, Turn.formed?_of_saved? hsaved⟩
  · intro hanswers
    obtain ⟨v, hpanId⟩ := hanswers store "pan_id" hstore
    obtain ⟨w, hchannel⟩ := hanswers store "channel" hstore
    rw [hread, hpanId, hchannel]
    exact ⟨_, rfl⟩

end Read

end Series

/-! ### A network that no coordinator formed -/

/-- A store in memory that for a while takes no values under some keys. -/
structure ReluctantStore where
  kept : MemoryStore
  refused : List String
  deriving DecidableEq, Repr

namespace ReluctantStore

instance : KeyValueStore ReluctantStore where
  get space key s := KeyValueStore.get space key s.kept
  set space key v s :=
    if key ∈ s.refused then .error (.storage ("refused: " ++ key))
    else (KeyValueStore.set space key v s.kept).map fun kept ↦ { s with kept }
  erase space key s :=
    (KeyValueStore.erase space key s.kept).map fun (kept, there) ↦ ({ s with kept }, there)
  clear space s := (KeyValueStore.clear space s.kept).map fun (kept, n) ↦ ({ s with kept }, n)
  isPersistent s := KeyValueStore.isPersistent s.kept

theorem keeps : KeyValueStore.Keeps fun (s : ReluctantStore) ↦ s.kept.lookup where
  get hget := MemoryStore.keeps.get hget
  set {space key v s after} hfits hset := by
    change (if key ∈ s.refused then _ else _) = _ at hset
    split_ifs at hset
    cases hkept : KeyValueStore.set space key v s.kept with
    | error fault => rw [hkept] at hset; cases hset
    | ok kept =>
      rw [hkept] at hset
      obtain rfl := Except.ok.inj hset
      exact MemoryStore.keeps.set hfits hkept

end ReluctantStore

/-- On a flat store, which keeps what it is given too, a network is formed, saved and read back. On
a store that takes the identifier of the next network and then refuses its channel, what is read
back is neither of the two. -/
theorem persistedNetwork_of_series_torn :
    (∃ (c : Coordinator SimulatedRadio FlatStore) (turns : List (Turn SimulatedRadio FlatStore)),
      Series FlatStore.held c turns ∧ c.persistedNetwork = .ok (some ⟨0x1A62, 15⟩) ∧
      ∃ t ∈ turns, t.formed? = some ⟨0x1A62, 15⟩) ∧
    ∃ (whole torn : Coordinator SimulatedRadio ReluctantStore)
      (turns later : List (Turn SimulatedRadio ReluctantStore)),
      Series (fun s ↦ s.kept.lookup) whole turns ∧
      Series (fun s ↦ s.kept.lookup) torn (turns ++ later) ∧
      whole.persistedNetwork = .ok (some ⟨0x1A62, 15⟩) ∧
      (∃ t ∈ turns, t.formed? = some ⟨0x1A62, 15⟩) ∧
      (turns ++ later).filterMap Turn.formed? = [⟨0x1A62, 15⟩, ⟨0xBEEF, 20⟩] ∧
      torn.persistedNetwork = .ok (some ⟨0xBEEF, 15⟩) ∧
      lastSaved (turns ++ later) = some ⟨0xBEEF, 15⟩ := by
  have hblank : Series FlatStore.held (new default .empty SimulatedRadio.empty
      (some (FlatStore.empty true))) [] :=
    .first default .empty SimulatedRadio.empty rfl
  have hflat := (hblank.called ⟨0, 0⟩ .init).called ⟨0, 0⟩ (.formed 0 0x1A62 15)
  have hfirst : Series (fun s ↦ s.kept.lookup) (new default .empty SimulatedRadio.empty
      (some (⟨.empty, []⟩ : ReluctantStore))) [] :=
    .first default .empty SimulatedRadio.empty rfl
  have hwhole := (hfirst.called ⟨0, 0⟩ .init).called ⟨0, 0⟩ (.formed 0 0x1A62 15)
  have hnext := (hwhole.next default .empty SimulatedRadio.empty).aside .empty SimulatedRadio.empty
    ⟨(MemoryStore.empty.put networkSpace "pan_id" (.u16 0x1A62)).put networkSpace "channel"
      (.u8 15), ["channel"]⟩ rfl rfl
  have htorn := (hnext.called ⟨0, 0⟩ .init).called ⟨0, 0⟩ (.formed 0 0xBEEF 20)
  refine ⟨⟨_, _, hflat, rfl, ?_⟩, _, _, _, _, hwhole, htorn, rfl, ?_, rfl, rfl, ?_⟩
  · exact ((persistedNetwork_of_series FlatStore.keeps hflat).1 _ rfl).2
      (lastWhole_of_forall (by decide)) _ rfl
  · exact ((persistedNetwork_of_series ReluctantStore.keeps hwhole).1 _ rfl).2
      (lastWhole_of_forall (by decide)) _ rfl
  · exact ((persistedNetwork_of_series ReluctantStore.keeps htorn).1 _ rfl).1.symm

end MeshBridge.Coordinator
