import MeshBridge.Proofs.Device.Filed
import MeshBridge.Proofs.Device.Registry
import MeshBridge.Proofs.History
/-!
Who holds a network address. A device that lost its address keeps it as a stale field, so the field
does not tell who is found at an address; the history does. Whatever is asked of a registry, the
device found at an address is the one that claimed it last, unless that one was deleted or claimed
another address since (`indexed_run`). What carries this is that a device holds no address but the
one in its node (`Registry.Backed`): giving that one up is giving up all it holds, so a change of
holders can be stated without the nodes (`HolderChange.apply`) and followed along the history.
-/

set_option autoImplicit false
set_option relaxedAutoImplicit false

namespace MeshBridge

/-- A request with its answer; there is none where a level on the way was missing. -/
abbrev RegistryTurn := RegistryRequest × Option (Except Fault RegistryReply)

/-- What a request does to who holds which address. -/
inductive HolderChange where
  | claim (device : Eui64) (address : NetworkAddress)
  | drop (device : Eui64)
  deriving DecidableEq, Repr

/-- A device claims an address by being created or by joining, if it is not refused, and is dropped
by being deleted. -/
def RegistryTurn.change? : RegistryTurn → Option HolderChange
  | (.create device address, some (.ok _)) => some (.claim device address)
  | (.upsert device address, some (.ok _)) => some (.claim device address)
  | (.delete device, some (.ok _)) => some (.drop device)
  | (.deleteByAddress _, some (.ok (.node (some node)))) => some (.drop node.device)
  | _ => none

/-- Where a level on the way was missing nothing changes. -/
theorem RegistryTurn.change?_none (request : RegistryRequest) :
    RegistryTurn.change? (request, none) = none := by
  cases request <;> rfl

/-- The holders after a change. A device that claims an address gives up what it held before, and
whoever held the address loses it. -/
def HolderChange.apply (held : NetworkAddress → Option Eui64) :
    Option HolderChange → NetworkAddress → Option Eui64
  | none => held
  | some (.claim device address) => fun a ↦
    if a = address then some device else if held a = some device then none else held a
  | some (.drop device) => fun a ↦ if held a = some device then none else held a

@[simp] theorem HolderChange.apply_claim (held : NetworkAddress → Option Eui64) (device : Eui64)
    (address a : NetworkAddress) :
    apply held (some (.claim device address)) a =
      if a = address then some device else if held a = some device then none else held a := rfl

@[simp] theorem HolderChange.apply_drop (held : NetworkAddress → Option Eui64) (device : Eui64)
    (a : NetworkAddress) :
    apply held (some (.drop device)) a = if held a = some device then none else held a := rfl

/-- An address that one device gives up is held by another one as before. -/
theorem giveUp_eq_some_iff {holder : Option Eui64} {giver device : Eui64} :
    (if holder = some giver then none else holder) = some device ↔
      holder = some device ∧ giver ≠ device := by
  split_ifs with hholder
  · subst hholder
    simp
  · constructor
    · rintro rfl
      exact ⟨rfl, fun hsame ↦ hholder (congrArg some hsame).symm⟩
    · exact And.left

/-- The device claimed the address, and since then nobody claimed the address, and the device was
not deleted and did not claim any other. -/
def LastClaim (device : Eui64) (address : NetworkAddress) (history : List RegistryTurn) : Prop :=
  Since (fun t ↦ t.change? = some (.claim device address))
    (fun t ↦ (∀ other, t.change? ≠ some (.claim other address)) ∧
      t.change? ≠ some (.drop device) ∧ ∀ other, t.change? ≠ some (.claim device other))
    history

/-- A further turn changes who claimed an address last as it changes who holds it. -/
theorem lastClaim_concat_iff {held : NetworkAddress → Option Eui64} {history : List RegistryTurn}
    (h : ∀ address device, held address = some device ↔ LastClaim device address history)
    (t : RegistryTurn) (address : NetworkAddress) (device : Eui64) :
    HolderChange.apply held t.change? address = some device ↔
      LastClaim device address (history ++ [t]) := by
  rw [LastClaim, since_concat_iff, ← LastClaim, ← h]
  cases hchange : t.change? with
  | none => simp [HolderChange.apply]
  | some change =>
    cases change with
    | claim claimer claimed =>
      rw [HolderChange.apply_claim]
      by_cases haddress : address = claimed
      · subst haddress
        simp
      · rw [if_neg haddress, giveUp_eq_some_iff]
        simp [Ne.symm haddress, and_comm]
    | drop dropped =>
      rw [HolderChange.apply_drop, giveUp_eq_some_iff]
      simp [and_comm]

namespace Registry

variable {r after : Registry} {device : Eui64} {address : NetworkAddress} {node : Node}
  {now : Int64} {reply : Except Fault RegistryReply}

/-- Who holds a network address is known, with that address in its node. -/
def Backed (r : Registry) : Prop :=
  ∀ address device, r.holders.get? address = some device →
    ∃ node, r.find? device = some node ∧ node.address = address

theorem backed_empty : empty.Backed := by
  intro address device h
  cases h

/-! ### Claiming and dropping -/

/-- Assumes: a device that holds no address but the given one. Giving that one up is giving up
all. -/
theorem get?_release_of_only {holders : Table NetworkAddress Eui64} {given : NetworkAddress}
    (honly : ∀ a, holders.get? a = some device → a = given) (a : NetworkAddress) :
    (release holders device given).get? a =
      if holders.get? a = some device then none else holders.get? a := by
  rw [get?_release_eq]
  exact if_congr (and_iff_left_of_imp fun hheld ↦ (honly a hheld).symm) rfl rfl

/-- A device holds no address but the one in its node. -/
theorem Backed.only (h : r.Backed) (hnode : r.find? device = some node)
    (a : NetworkAddress) (hheld : r.holders.get? a = some device) : a = node.address := by
  obtain ⟨known, hknown, rfl⟩ := h a device hheld
  rw [Option.some.inj (hnode.symm.trans hknown)]

/-- A device that claims an address holds it, and no other. -/
theorem Backed.get?_holders_claim (h : r.Backed) (device : Eui64)
    (address a : NetworkAddress) :
    (r.claim device address).holders.get? a =
      HolderChange.apply r.holders.get? (some (.claim device address)) a := by
  show (Table.insert _ address device).get? a = _
  rw [Table.get?_insert, HolderChange.apply_claim]
  refine if_congr Iff.rfl rfl ?_
  cases hnode : r.nodes.get? device with
  | some node => exact get?_release_of_only (h.only hnode) a
  | none =>
    rw [if_neg]
    intro hheld
    obtain ⟨known, hknown, -⟩ := h a device hheld
    cases hnode.symm.trans hknown

/-- A device that claims an address has it in the node that is put under its own address. -/
theorem Backed.claimed (h : r.Backed) (hdevice : node.device = device)
    (haddress : node.address = address) : ((r.claim device address).setNode node).Backed := by
  subst hdevice haddress
  intro a d hheld
  change (r.claim node.device node.address).holders.get? a = some d at hheld
  show ∃ known, (r.nodes.insert node.device node).get? d = some known ∧ known.address = a
  rw [h.get?_holders_claim, HolderChange.apply_claim] at hheld
  split_ifs at hheld with ha hother
  · obtain rfl := Option.some.inj hheld
    exact ⟨node, Table.get?_insert_self .., ha.symm⟩
  · obtain ⟨known, hknown, hat⟩ := h a d hheld
    refine ⟨known, ?_, hat⟩
    rw [Table.get?_insert_of_ne, ← hknown]
    · rfl
    · rintro rfl
      exact hother hheld

/-- A known device is deleted with all it holds, and with nothing else. -/
theorem Backed.delete_eq (h : r.Backed) (hnode : r.find? device = some node) :
    ∃ after, r.delete device = .ok (after, node) ∧ after.Backed ∧
      (∀ d, after.find? d = if d = device then none else r.find? d) ∧
      ∀ a, after.holders.get? a = HolderChange.apply r.holders.get? (some (.drop device)) a := by
  have hholders := get?_release_of_only (h.only hnode)
  have hfind (d : Eui64) : (r.nodes.erase device).get? d =
      if d = device then none else r.nodes.get? d := Table.get?_erase r.nodes device d
  change r.nodes.get? device = some node at hnode
  refine ⟨⟨r.nodes.erase device, release r.holders device node.address⟩, ?_, ?_, hfind, hholders⟩
  · simp only [delete, hnode]
  · intro a d hheld
    change (release r.holders device node.address).get? a = some d at hheld
    rw [hholders, giveUp_eq_some_iff] at hheld
    obtain ⟨known, hknown, hat⟩ := h a d hheld.1
    exact ⟨known, ((hfind d).trans (if_neg (Ne.symm hheld.2))).trans hknown, hat⟩

/-! ### Requests that leave the holders alone -/

/-- No address changes its holder, and every known device stays known, with the address it had. -/
structure Unmoved (r after : Registry) : Prop where
  holders : after.holders = r.holders
  address : ∀ d, (after.find? d).map (·.address) = (r.find? d).map (·.address)

theorem unmoved_refl (r : Registry) : r.Unmoved r := ⟨rfl, fun _ ↦ rfl⟩

theorem unmoved_insert (hnode : r.find? device = some node) {changed : Node}
    (hsame : changed.address = node.address) :
    r.Unmoved { r with nodes := r.nodes.insert device changed } where
  holders := rfl
  address d := by
    show ((r.nodes.insert device changed).get? d).map (·.address) = _
    rw [Table.get?_insert]
    split_ifs with hd
    · rw [hd, hnode, Option.map_some, Option.map_some, hsame]
    · rfl

theorem Backed.of_unmoved (h : r.Backed) (hsame : r.Unmoved after) :
    after.Backed ∧ ∀ a, after.holders.get? a = HolderChange.apply r.holders.get? none a := by
  refine ⟨fun a d hheld ↦ ?_, fun a ↦ by rw [hsame.holders]; rfl⟩
  rw [hsame.holders] at hheld
  obtain ⟨node, hnode, haddress⟩ := h a d hheld
  have hafter := hsame.address d
  rw [hnode, Option.map_some, Option.map_eq_some_iff] at hafter
  obtain ⟨changed, hchanged, hat⟩ := hafter
  exact ⟨changed, hchanged, hat.trans haddress⟩

theorem unmoved_of_modify {f : Node → Node} (hf : ∀ node, (f node).address = node.address)
    (hmodify : r.modify? device f = some after) : r.Unmoved after := by
  obtain ⟨node, hnode, rfl⟩ := Option.map_eq_some_iff.1 hmodify
  exact unmoved_insert hnode (hf node)

theorem unmoved_of_updateNode {f : Node → Except Fault (Node × RegistryReply)}
    (hf : ∀ node changed reply, f node = .ok (changed, reply) → changed.address = node.address)
    (hupdate : r.updateNode device f = some (after, reply)) : r.Unmoved after := by
  obtain ⟨node, hnode, hafter⟩ := Option.map_eq_some_iff.1 hupdate
  split at hafter
  · next changed answer hchanged =>
    cases hafter
    exact unmoved_insert hnode (hf node changed answer hchanged)
  · cases hafter
    exact unmoved_refl r

/-- What is made of an endpoint does not reach the node. -/
theorem unmoved_of_updateEndpoint {endpoint : UInt8}
    {f : Endpoint → Except Fault (Endpoint × RegistryReply)}
    (hupdate : r.updateEndpoint device endpoint f = some (after, reply)) : r.Unmoved after := by
  obtain ⟨node, hnode, hupdate⟩ := Option.bind_eq_some_iff.1 hupdate
  obtain ⟨e, he, hupdate⟩ := Option.bind_eq_some_iff.1 hupdate
  refine unmoved_of_updateNode (fun node changed answer hchanged ↦ ?_) hupdate
  cases hresult : f e with
  | error fault => rw [hresult] at hchanged; cases hchanged
  | ok result =>
    rw [hresult] at hchanged
    cases hchanged
    rfl

theorem unmoved_of_updateCluster {p : AttributePath}
    {f : Cluster → Except Fault (Cluster × RegistryReply)}
    (hupdate : r.updateCluster p f = some (after, reply)) : r.Unmoved after := by
  obtain ⟨node, hnode, hupdate⟩ := Option.bind_eq_some_iff.1 hupdate
  obtain ⟨e, he, hupdate⟩ := Option.bind_eq_some_iff.1 hupdate
  obtain ⟨c, hc, hupdate⟩ := Option.bind_eq_some_iff.1 hupdate
  exact unmoved_of_updateEndpoint hupdate

theorem unmoved_of_replaced {result : Except Fault (Registry × RegistryReply)}
    (hresult : ∀ changed answer, result = .ok (changed, answer) → r.Unmoved changed)
    (hreplaced : r.replaced result = some (after, reply)) : r.Unmoved after := by
  unfold replaced at hreplaced
  split at hreplaced
  · next changed answer =>
    cases hreplaced
    exact hresult _ _ rfl
  · cases hreplaced
    exact unmoved_refl r

theorem unmoved_of_setOnline {online : Bool} (hset : r.setOnline device online = .ok after) :
    r.Unmoved after := by
  unfold setOnline at hset
  split at hset
  · next hmodify =>
    cases hset
    exact unmoved_of_modify (f := fun node ↦ { node with online }) (fun _ ↦ rfl) hmodify
  · cases hset

theorem unmoved_of_setAttribute {p : AttributePath} {v : AttributeValue}
    (hset : r.setAttribute p v = .ok after) : r.Unmoved after := by
  obtain ⟨node, e, c, changed, hway, rfl⟩ := exists_leads_of_setAttribute hset
  exact unmoved_insert hway.node_eq rfl

/-! ### Every request -/

theorem create_of_find?_eq_some (hnode : r.find? device = some node) (address : NetworkAddress)
    (now : Int64) :
    r.create device address now = .error (.alreadyExists ("node " ++ toString device)) := by
  have hknown : r.nodes.contains device = true := by
    show (r.find? device).isSome = true
    rw [hnode]
    rfl
  rw [Registry.create, if_pos hknown]

theorem create_of_find?_eq_none (hnew : r.find? device = none) (address : NetworkAddress)
    (now : Int64) :
    r.create device address now =
      .ok ((r.claim device address).setNode (.new device address now)) := by
  have hunknown : ¬r.nodes.contains device = true := by
    show ¬(r.find? device).isSome = true
    rw [hnew]
    exact Bool.false_ne_true
  rw [Registry.create, if_neg hunknown]

theorem delete_of_find?_eq_none (hnew : r.find? device = none) :
    r.delete device = .error (unknownNode device) := by
  change r.nodes.get? device = none at hnew
  simp only [Registry.delete, hnew]

theorem deleteByAddress_of_not_held (h : r.holders.get? address = none) :
    r.deleteByAddress address = .error (unknownAddress address) := by
  simp only [deleteByAddress, h]

theorem deleteByAddress_of_held (h : r.holders.get? address = some device) :
    r.deleteByAddress address = r.delete device := by
  simp only [deleteByAddress, h]

/-- The holders after a change are as it says, and known. -/
def Follows (r : Registry) (change : Option HolderChange) (after : Registry) : Prop :=
  after.Backed ∧ ∀ a, after.holders.get? a = HolderChange.apply r.holders.get? change a

theorem Backed.follows_create (h : r.Backed)
    (hperform : r.perform now (.create device address) = some (after, reply)) :
    r.Follows (RegistryTurn.change? (.create device address, some reply)) after := by
  change r.replaced (r.create device address now >>= _) = _ at hperform
  cases hnode : r.find? device with
  | some node =>
    rw [create_of_find?_eq_some hnode] at hperform
    cases hperform
    exact h.of_unmoved (unmoved_refl r)
  | none =>
    rw [create_of_find?_eq_none hnode] at hperform
    cases hperform
    exact ⟨h.claimed rfl rfl, h.get?_holders_claim device address⟩

theorem Backed.follows_upsert (h : r.Backed) (device : Eui64) (address : NetworkAddress)
    (now : Int64) : r.Follows (some (.claim device address)) (r.upsert device address now) := by
  refine ⟨?_, h.get?_holders_claim device address⟩
  unfold Registry.upsert
  cases r.nodes.get? device with
  | none => exact h.claimed rfl rfl
  | some node => exact h.claimed rfl rfl

theorem Backed.follows_delete (h : r.Backed)
    (hperform : r.perform now (.delete device) = some (after, reply)) :
    r.Follows (RegistryTurn.change? (.delete device, some reply)) after := by
  change r.replaced ((r.delete device).map _) = _ at hperform
  cases hnode : r.find? device with
  | none =>
    rw [delete_of_find?_eq_none hnode] at hperform
    cases hperform
    exact h.of_unmoved (unmoved_refl r)
  | some node =>
    obtain ⟨left, hdelete, hbacked, -, hholders⟩ := h.delete_eq hnode
    rw [hdelete] at hperform
    cases hperform
    exact ⟨hbacked, hholders⟩

/-- Assumes: every node filed under its own address. The device deleted at an address is its
holder. -/
theorem Backed.follows_deleteByAddress (h : r.Backed) (hfiled : r.Filed)
    (hperform : r.perform now (.deleteByAddress address) = some (after, reply)) :
    r.Follows (RegistryTurn.change? (.deleteByAddress address, some reply)) after := by
  change r.replaced ((r.deleteByAddress address).map _) = _ at hperform
  cases hholder : r.holders.get? address with
  | none =>
    rw [deleteByAddress_of_not_held hholder] at hperform
    cases hperform
    exact h.of_unmoved (unmoved_refl r)
  | some device =>
    obtain ⟨node, hnode, -⟩ := h address device hholder
    obtain ⟨left, hdelete, hbacked, -, hholders⟩ := h.delete_eq hnode
    rw [deleteByAddress_of_held hholder, hdelete] at hperform
    cases hperform
    rw [← hfiled.nodes device node hnode] at hholders
    exact ⟨hbacked, hholders⟩

/-- Whatever is asked of a registry, the holders after it are those that the answer tells of. -/
theorem Backed.follows_perform (h : r.Backed) (hfiled : r.Filed) {request : RegistryRequest}
    (hperform : r.perform now request = some (after, reply)) :
    r.Follows (RegistryTurn.change? (request, some reply)) after := by
  cases request with
  | create device address => exact h.follows_create hperform
  | upsert device address =>
    cases hperform
    exact h.follows_upsert device address now
  | delete device => exact h.follows_delete hperform
  | deleteByAddress address => exact h.follows_deleteByAddress hfiled hperform
  | find | findByAddress | getAttribute | size | isEmpty | nodes | snapshot =>
    cases hperform
    exact h.of_unmoved (unmoved_refl r)
  | endpointWith | endpoints =>
    obtain ⟨node, -, hafter⟩ := Option.map_eq_some_iff.1 hperform
    cases hafter
    exact h.of_unmoved (unmoved_refl r)
  | hasCluster | attributes =>
    obtain ⟨node, -, hfound⟩ := Option.bind_eq_some_iff.1 hperform
    obtain ⟨level, -, hafter⟩ := Option.bind_eq_some_iff.1 hfound
    cases hafter
    exact h.of_unmoved (unmoved_refl r)
  | setOnline device online =>
    refine h.of_unmoved (unmoved_of_replaced (fun changed answer hresult ↦ ?_) hperform)
    obtain ⟨set, hset, hafter⟩ := ok_of_map hresult
    cases hafter
    exact unmoved_of_setOnline hset
  | setAttribute path value =>
    refine h.of_unmoved (unmoved_of_replaced (fun changed answer hresult ↦ ?_) hperform)
    obtain ⟨set, hset, hafter⟩ := ok_of_map hresult
    cases hafter
    exact unmoved_of_setAttribute hset
  | touchByAddress address =>
    obtain ⟨node, -, hafter⟩ := Option.map_eq_some_iff.1 hperform
    cases hafter
    cases hmodify : r.modify? node.device fun node ↦ { node with lastSeen := now } with
    | none => exact h.of_unmoved (unmoved_refl r)
    | some touched =>
      exact h.of_unmoved
        (unmoved_of_modify (f := fun node ↦ { node with lastSeen := now }) (fun _ ↦ rfl) hmodify)
  | identify | endpointOrInsert | removeEndpoint =>
    rw [perform] at hperform
    refine h.of_unmoved (unmoved_of_updateNode (fun node changed answer hchanged ↦ ?_) hperform)
    cases hchanged
    rfl
  | addEndpoint device endpoint =>
    refine h.of_unmoved (unmoved_of_updateNode (fun node changed answer hchanged ↦ ?_) hperform)
    unfold Node.addEndpoint at hchanged
    split_ifs at hchanged
    · cases hchanged
    · cases hchanged
      rfl
  | addCluster | clusterOrInsert => exact h.of_unmoved (unmoved_of_updateEndpoint hperform)
  | addAttribute | store => exact h.of_unmoved (unmoved_of_updateCluster hperform)

/-! ### Runs -/

/-- The registry after a request; it stays as it is where a level on the way is missing. -/
def next (r : Registry) (now : Int64) (request : RegistryRequest) : Registry :=
  ((r.perform now request).map (·.1)).getD r

/-- The registry after requests made in turn, each at its own time. -/
def run (r : Registry) (requests : List (Int64 × RegistryRequest)) : Registry :=
  requests.foldl (fun r timed ↦ r.next timed.1 timed.2) r

/-- Requests made in turn with their answers, oldest first. -/
def turns (r : Registry) : List (Int64 × RegistryRequest) → List RegistryTurn
  | [] => []
  | (now, request) :: rest =>
    (request, (r.perform now request).map (·.2)) :: (r.next now request).turns rest

theorem run_concat (r : Registry) (requests : List (Int64 × RegistryRequest))
    (timed : Int64 × RegistryRequest) :
    r.run (requests ++ [timed]) = (r.run requests).next timed.1 timed.2 :=
  List.foldl_concat _ _ _ _

theorem turns_concat (r : Registry) (requests : List (Int64 × RegistryRequest))
    (timed : Int64 × RegistryRequest) :
    r.turns (requests ++ [timed]) =
      r.turns requests ++ [(timed.2, ((r.run requests).perform timed.1 timed.2).map (·.2))] := by
  induction requests generalizing r with
  | nil => rfl
  | cons first rest ih =>
    show _ :: (r.next first.1 first.2).turns (rest ++ [timed]) = _
    rw [ih]
    rfl

/-- What carries over from request to request. -/
structure Tracked (r : Registry) (history : List RegistryTurn) : Prop where
  filed : r.Filed
  backed : r.Backed
  holder_iff : ∀ address device,
    r.holders.get? address = some device ↔ LastClaim device address history

theorem tracked_empty : empty.Tracked [] where
  filed := filed_empty
  backed := backed_empty
  holder_iff address device :=
    iff_of_false (by intro h; cases h) not_since_nil

/-- A request keeps track of who claimed which address last. -/
theorem Tracked.next {history : List RegistryTurn} (h : r.Tracked history) (now : Int64)
    (request : RegistryRequest) :
    (r.next now request).Tracked (history ++ [(request, (r.perform now request).map (·.2))]) := by
  have hconcat := lastClaim_concat_iff h.holder_iff
    (request, (r.perform now request).map (·.2))
  unfold Registry.next
  cases hperform : r.perform now request with
  | none =>
    rw [hperform, Option.map_none, RegistryTurn.change?_none] at hconcat
    exact ⟨h.filed, h.backed, hconcat⟩
  | some answer =>
    obtain ⟨changed, reply⟩ := answer
    obtain ⟨hbacked, hholders⟩ := h.backed.follows_perform h.filed hperform
    refine ⟨h.filed.perform hperform, hbacked, fun address device ↦ ?_⟩
    rw [hperform, Option.map_some] at hconcat
    show changed.holders.get? address = some device ↔ _
    rw [hholders]
    exact hconcat address device

theorem tracked_run (requests : List (Int64 × RegistryRequest)) :
    (empty.run requests).Tracked (empty.turns requests) := by
  induction requests using List.reverseRecOn with
  | nil => exact tracked_empty
  | append_singleton requests timed ih =>
    rw [run_concat, turns_concat]
    exact ih.next timed.1 timed.2

/-! ### What is found -/

/-- The node found at an address is that of its holder. -/
theorem Filed.findByAddress?_eq_some_iff (h : r.Filed) :
    r.findByAddress? address = some node ↔
      r.holders.get? address = some node.device ∧ r.find? node.device = some node := by
  rw [findByAddress?, Option.bind_eq_some_iff]
  constructor
  · rintro ⟨device, hholder, hnode⟩
    obtain rfl := h.nodes device node hnode
    exact ⟨hholder, hnode⟩
  · rintro ⟨hholder, hnode⟩
    exact ⟨node.device, hholder, hnode⟩

/-- A device is found at an address just if it holds it. -/
theorem Backed.found_iff (h : r.Backed) (hfiled : r.Filed) :
    (r.findByAddress? address).map (·.device) = some device ↔
      r.holders.get? address = some device := by
  rw [Option.map_eq_some_iff]
  constructor
  · rintro ⟨node, hfound, rfl⟩
    exact (hfiled.findByAddress?_eq_some_iff.1 hfound).1
  · intro hholder
    obtain ⟨node, hnode, -⟩ := h address device hholder
    obtain rfl := hfiled.nodes device node hnode
    exact ⟨node, hfiled.findByAddress?_eq_some_iff.2 ⟨hholder, hnode⟩, rfl⟩

/-- Deleting what is found at an address leaves every other device, and whatever is found elsewhere,
as it was. -/
theorem Backed.deleteByAddress_eq (h : r.Backed) (hfiled : r.Filed)
    (hfound : r.findByAddress? address = some node) :
    ∃ after, r.deleteByAddress address = .ok (after, node) ∧
      (∀ d, after.find? d = if d = node.device then none else r.find? d) ∧
      ∀ a, after.findByAddress? a = if a = address then none else r.findByAddress? a := by
  obtain ⟨hholder, hnode⟩ := hfiled.findByAddress?_eq_some_iff.1 hfound
  obtain ⟨after, hdelete, -, hfind, hholders⟩ := h.delete_eq hnode
  refine ⟨after, (deleteByAddress_of_held hholder).trans hdelete, hfind, fun a ↦ ?_⟩
  have hthis : r.holders.get? a = some node.device ↔ a = address := by
    constructor
    · intro hheld
      exact (h.only hnode a hheld).trans (h.only hnode address hholder).symm
    · rintro rfl
      exact hholder
  show (after.holders.get? a).bind after.find? = _
  rw [hholders, HolderChange.apply_drop]
  by_cases ha : a = address
  · rw [if_pos ha, if_pos (hthis.2 ha)]
    rfl
  · rw [if_neg ha, if_neg (mt hthis.1 ha)]
    show _ = (r.holders.get? a).bind r.find?
    refine Option.bind_congr fun d hd ↦ ?_
    rw [hfind, if_neg]
    rintro rfl
    exact ha (hthis.1 hd)

/-- The addresses of a registry with a past: who is found where, and what follows for creating a
node and for deleting one by its network address. -/
structure Indexed (r : Registry) (history : List RegistryTurn) : Prop where
  found_iff : ∀ address device, (r.findByAddress? address).map (·.device) = some device ↔
    LastClaim device address history
  none_iff : ∀ address, r.findByAddress? address = none ↔
    ∀ device, ¬LastClaim device address history
  address_eq : ∀ address node, r.findByAddress? address = some node →
    node.address = address ∧ r.find? node.device = some node
  own : ∀ device node, r.find? device = some node → node.device = device
  /-- A node that is known already is not created, and nothing changes. -/
  create_known : ∀ now device address node, r.find? device = some node →
    r.perform now (.create device address) =
      some (r, .error (.alreadyExists ("node " ++ toString device)))
  create_new : ∀ now device address, r.find? device = none → ∃ after,
    r.perform now (.create device address) =
      some (after, .ok (.node (some (.new device address now))))
  /-- What is deleted by its network address is the node found there, and nothing else. -/
  delete_found : ∀ now address node, r.findByAddress? address = some node → ∃ after,
    r.perform now (.deleteByAddress address) = some (after, .ok (.node (some node))) ∧
      (∀ d, after.find? d = if d = node.device then none else r.find? d) ∧
      ∀ a, after.findByAddress? a = if a = address then none else r.findByAddress? a
  delete_missing : ∀ now address, r.findByAddress? address = none →
    r.perform now (.deleteByAddress address) = some (r, .error (unknownAddress address))

theorem Tracked.indexed {history : List RegistryTurn} (h : r.Tracked history) :
    r.Indexed history := by
  have hfound (address : NetworkAddress) (device : Eui64) :
      (r.findByAddress? address).map (·.device) = some device ↔ LastClaim device address history :=
    (h.backed.found_iff h.filed).trans (h.holder_iff address device)
  constructor
  case found_iff => exact hfound
  case none_iff =>
    intro address
    rw [← Option.map_eq_none_iff (f := Node.device), Option.eq_none_iff_forall_ne_some]
    exact forall_congr' fun device ↦ not_congr (hfound address device)
  case address_eq =>
    intro address node hnode
    obtain ⟨hholder, hknown⟩ := h.filed.findByAddress?_eq_some_iff.1 hnode
    exact ⟨(h.backed.only hknown address hholder).symm, hknown⟩
  case own => exact h.filed.nodes
  case create_known =>
    intro now device address node hnode
    show r.replaced (r.create device address now >>= _) = _
    rw [create_of_find?_eq_some hnode]
    rfl
  case create_new =>
    intro now device address hnew
    refine ⟨(r.claim device address).setNode (.new device address now), ?_⟩
    show r.replaced (r.create device address now >>= _) = _
    have hnode : ((r.claim device address).setNode (.new device address now)).find? device =
        some (.new device address now) := Table.get?_insert_self ..
    rw [create_of_find?_eq_none hnew, ← hnode]
    rfl
  case delete_found =>
    intro now address node hnode
    obtain ⟨after, hdelete, hfind, hothers⟩ := h.backed.deleteByAddress_eq h.filed hnode
    refine ⟨after, ?_, hfind, hothers⟩
    show r.replaced ((r.deleteByAddress address).map _) = _
    rw [hdelete]
    rfl
  case delete_missing =>
    intro now address hnone
    have hholder : r.holders.get? address = none := by
      refine Option.eq_none_iff_forall_ne_some.2 fun device hheld ↦ ?_
      have hdevice := (h.backed.found_iff h.filed).2 hheld
      rw [hnone] at hdevice
      cases hdevice
    show r.replaced ((r.deleteByAddress address).map _) = _
    rw [deleteByAddress_of_not_held hholder]
    rfl

/-- At every point of a run the device found at an address is the one that claimed it last, if it
was not deleted and did not claim another address since then. -/
theorem indexed_run (requests : List (Int64 × RegistryRequest)) :
    (empty.run requests).Indexed (empty.turns requests) :=
  (tracked_run requests).indexed

/-- The first device lost its address, so neither its move nor its end takes the second one's
away. -/
example : ((empty.run [(0, .create ⟨1⟩ 5), (1, .upsert ⟨2⟩ 5), (2, .upsert ⟨1⟩ 7),
    (3, .delete ⟨1⟩)]).findByAddress? 5).map (·.device) = some ⟨2⟩ := by decide

end Registry

end MeshBridge
