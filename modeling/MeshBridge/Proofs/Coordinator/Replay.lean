import MeshBridge.Proofs.Coordinator.Reach
import MeshBridge.Radio.Simulated
import MeshBridge.Store.Memory
import Mathlib.Data.List.Induction
/-!
The events of a run tell where every device is. Replayed over an empty table they give the contents
of the cache after every call (`replay_log`): a device that joins is at its address, and one that
leaves, or whose address another device takes, is told to have left. So a frame goes to the address
that the events tell of its device, and a report is taken for the device that they tell of its
address.
-/

set_option autoImplicit false
set_option relaxedAutoImplicit false

namespace MeshBridge.Coordinator

variable {ρ σ : Type}

/-! ### Replaying events -/

/-- What an event tells of the addresses of devices. -/
def follow (known : Table Eui64 NetworkAddress) : Event → Table Eui64 NetworkAddress
  | .deviceJoined device address => known.insert device address
  | .deviceLeft device => known.erase device
  | _ => known

/-- The addresses of devices as events tell, oldest first. -/
def replay (events : List Event) : Table Eui64 NetworkAddress := events.foldl follow ∅

theorem replay_append (events more : List Event) :
    replay (events ++ more) = more.foldl follow (replay events) :=
  List.foldl_append

/-- Events of other kinds tell nothing of addresses. -/
theorem foldl_follow_of_kinds {events : List Event} (known : Table Eui64 NetworkAddress)
    (h : ∀ e ∈ events, e.kind ≠ .deviceJoined ∧ e.kind ≠ .deviceLeft) :
    events.foldl follow known = known := by
  induction events with
  | nil => rfl
  | cons e rest ih =>
    have hfirst : follow known e = known := by
      cases e with
      | deviceJoined => exact absurd rfl (h _ List.mem_cons_self).1
      | deviceLeft => exact absurd rfl (h _ List.mem_cons_self).2
      | _ => rfl
    rw [List.foldl_cons, hfirst]
    exact ih fun e he ↦ h e (List.mem_cons_of_mem _ he)

/-- Assumes: a coherent coordinator. A call tells what it does to the devices in reach: followed
from what was in the cache before it, its events give what is in the cache after it. -/
theorem Shift.follow_eq {c after : Coordinator ρ σ} {events : List Event}
    (hshift : Shift c after events) (h : c.Coherent) {known : Table Eui64 NetworkAddress}
    (hknown : ∀ d, known.get? d = c.cache.at? d) (d : Eui64) :
    (events.foldl follow known).get? d = after.cache.at? d := by
  cases hshift with
  | stays hcache hreached hholders hevents =>
    rw [foldl_follow_of_kinds known hevents, hknown, hcache]
  | joins device address now displaced hgiven hdevices hevents =>
    have hleft : ((takeOffline c.devices displaced).2.foldl follow known).get? d =
        if displaced.any (·.device = d) then none else c.cache.at? d := by
      cases displaced with
      | none => exact hknown d
      | some old =>
        have hreached := (hgiven.displaced_eq old rfl).2
        rw [h.reached] at hreached
        rw [takeOffline_events hreached]
        show (known.erase old.device).get? d = _
        rw [Table.get?_erase, hknown]
        by_cases hd : d = old.device
        · rw [if_pos hd, if_pos (by simp [hd])]
        · rw [if_neg hd, if_neg (by simpa using Ne.symm hd)]
    rw [hevents, List.foldl_append, hgiven.at?_eq, ← hleft]
    exact Table.get?_insert _ device address d
  | leaves device hcache hlost hevents =>
    rw [hcache, h.proper.at?_without]
    rcases hevents with htold | ⟨hsilent, hnone⟩
    · rw [htold, ← hknown]
      exact Table.get?_erase known device d
    · rw [hsilent]
      show known.get? d = _
      rw [hknown]
      split_ifs with hd
      · rw [hd, h.reached, hnone]
      · rfl

section Run

variable [Radio ρ] [KeyValueStore σ] (config : AdapterConfig) (corrections : CorrectionTable)
  (radio : ρ) (store : Option σ)

/-- After every call the events told so far give the contents of the cache. -/
theorem replay_log (calls : List (Moment × Call)) (d : Eui64) :
    (replay ((new config corrections radio store).log calls)).get? d =
      ((new config corrections radio store).run calls).cache.at? d := by
  induction calls using List.reverseRecOn generalizing d with
  | nil => rfl
  | append_singleton calls timed ih =>
    have hcoherent := coherent_run config corrections radio store calls
    rw [log_concat, run_concat, replay_append]
    exact (shift_perform hcoherent timed.1 timed.2).follow_eq hcoherent ih d

end Run

/-! ### Routing by what was told -/

/-- Every frame that a send hands to the radio is for the address of its device in the cache. -/
theorem address_of_mem_exchanges [Radio ρ] [KeyValueStore σ] {c : Coordinator ρ σ}
    (h : c.pending.Settled) {now : Moment} {device : Eui64} {endpoint : UInt8} {request : Request}
    {frame : Frame} {answer : Except Rejection SequenceNumber}
    (hexchange : .send frame answer ∈
      (Turn.mk c now (.send device endpoint request)).exchanges) :
    c.cache.at? device = some frame.address := by
  have hend := sendEnd h now device endpoint request
  generalize (Turn.mk c now (.send device endpoint request)).exchanges = exchanges
    at hend hexchange
  generalize c.send now device endpoint request = s at hend
  cases hend with
  | unfit | untargeted | full => cases hexchange
  | rejected hcheck htarget halloc hanswer | accepted hcheck htarget halloc hanswer =>
    cases List.mem_singleton.1 hexchange
    exact (target_eq_ok_iff.1 htarget).2

/-- What becomes of a report, as far as events tell where the devices are. -/
structure Attributed (c : Coordinator ρ σ) (known : Table Eui64 NetworkAddress) (now : Moment)
    (r : Report) : Prop where
  /-- A report that cannot be read changes nothing. -/
  undecodable : ∀ f, Wire.decode r.typeId r.raw = .error f → c.report now r = c.refuse f
  /-- After the radio failed for good no report is taken. -/
  failed : ∀ v, Wire.decode r.typeId r.raw = .ok v → c.lifecycle = .error →
    c.report now r = c.refuse (.notReady "adapter in error state")
  /-- A report is taken for the device that is told to be at its address, which is online there.
  It is stored with this device and told of it, or it is dropped for it as spurious. -/
  mapped : ∀ v device, Wire.decode r.typeId r.raw = .ok v → c.lifecycle ≠ .error →
    known.get? device = some r.address →
    ∃ node, c.devices.find? device = some node ∧ node.online = true ∧ node.address = r.address ∧
      c.report now r =
        if isSpurious c.corrections node r.cluster r.attr v then ⟨c, [], .ok ()⟩
        else
          ⟨{ c with
              devices := { c.devices with
                nodes := c.devices.nodes.insert device (record node now r v) } },
            [.attributeChanged device r.endpoint r.cluster r.attr v], .ok ()⟩
  /-- Where no device is told to be, a report is refused. -/
  unmapped : ∀ v, Wire.decode r.typeId r.raw = .ok v → c.lifecycle ≠ .error →
    (∀ device, known.get? device ≠ some r.address) →
    c.report now r = c.refuse (Registry.unknownAddress r.address)

/-- Assumes: a coherent coordinator, and a table with the contents of its cache. -/
theorem attributed_report {c : Coordinator ρ σ} (h : c.Coherent)
    {known : Table Eui64 NetworkAddress} (hknown : ∀ d, known.get? d = c.cache.at? d)
    (now : Moment) (r : Report) : Attributed c known now r := by
  have halive (hlifecycle : c.lifecycle ≠ .error) : c.requireAlive = .ok () := by
    simp [requireAlive, Lifecycle.isTerminal, hlifecycle]
  refine ⟨?_, ?_, ?_, ?_⟩
  · intro f hdecode
    simp only [report, hdecode]
  · intro v hdecode hlifecycle
    simp only [report, hdecode, requireAlive, Lifecycle.isTerminal, hlifecycle, decide_true,
      if_true]
  · intro v device hdecode hlifecycle hat
    rw [hknown] at hat
    have hlookup : c.cache.lookupByAddress r.address = some ⟨device, r.address⟩ :=
      h.proper.lookupByAddress_eq_some_iff.2 ⟨hat, rfl⟩
    rw [h.reached] at hat
    obtain ⟨node, hnode, honline, haddress⟩ := Registry.reached?_eq_some_iff.1 hat
    refine ⟨node, hnode, honline, haddress, ?_⟩
    simp only [report, hdecode, halive hlifecycle, h.reporter_eq, hlookup, hnode]
  · intro v hdecode hlifecycle hnobody
    have hlookup : c.cache.lookupByAddress r.address = none := by
      cases hfound : c.cache.lookupByAddress r.address with
      | none => rfl
      | some entry =>
        have hat := (h.proper.lookupByAddress_eq_some_iff.1 hfound).1
        rw [← hknown] at hat
        exact absurd hat (hnobody entry.device)
    simp only [report, hdecode, halive hlifecycle, h.reporter_eq, hlookup]
    rfl

/-- The events of a run tell where every device is, and frames and reports go by them. -/
structure Replayed [Radio ρ] [KeyValueStore σ] (start : Coordinator ρ σ)
    (calls : List (Moment × Call)) : Prop where
  contents : ∀ device, (replay (start.log calls)).get? device =
    ((start.run calls).cache.lookup device).map (·.address)
  /-- No device is in the cache twice. -/
  nodup : ((start.run calls).cache.entries.map (·.device)).Nodup
  /-- No two devices are told to be at one address. -/
  device_eq : ∀ first second address, (replay (start.log calls)).get? first = some address →
    (replay (start.log calls)).get? second = some address → first = second
  /-- A frame for a device goes to the address that was told of it last. -/
  addressed : ∀ now device endpoint request frame answer,
    .send frame answer ∈ (Turn.mk (start.run calls) now (.send device endpoint request)).exchanges →
      (replay (start.log calls)).get? device = some frame.address
  attributed : ∀ now r, Attributed (start.run calls) (replay (start.log calls)) now r

/-- The events of every run tell where every device is, and frames and reports go by them. -/
theorem replayed_run [Radio ρ] [KeyValueStore σ] (config : AdapterConfig)
    (corrections : CorrectionTable) (radio : ρ) (store : Option σ)
    (calls : List (Moment × Call)) :
    Replayed (new config corrections radio store) calls := by
  have hreplay := replay_log config corrections radio store calls
  have hcoherent := coherent_run config corrections radio store calls
  refine ⟨hreplay, hcoherent.proper.devices, ?_, ?_, ?_⟩
  · intro first second address hfirst hsecond
    rw [hreplay] at hfirst hsecond
    exact hcoherent.proper.device_eq hfirst hsecond
  · intro now device endpoint request frame answer hexchange
    rw [hreplay]
    exact address_of_mem_exchanges (settled_run config corrections radio store calls) hexchange
  · intro now r
    exact attributed_report hcoherent hreplay now r

/-- A report from an address where no device is told to be is not always refused for that: after the
radio failed for good it is refused for that. -/
theorem not_unknownAddress_of_failed :
    ¬ ∀ (calls : List (Moment × Call)) (now : Moment) (r : Report),
      let start := new default .empty SimulatedRadio.empty (none : Option MemoryStore)
      (∀ device, (replay (start.log calls)).get? device ≠ some r.address) →
        ((start.run calls).report now r).result = .error (Registry.unknownAddress r.address) := by
  intro h
  have hresult := h [(⟨0, 0⟩, .init), (⟨0, 0⟩, .fatal "radio lost")] ⟨0, 0⟩
    ⟨5, 1, 0x0006, 0x0000, 0x10, [1]⟩ (by intro device hat; cases hat)
  revert hresult
  decide

end MeshBridge.Coordinator
