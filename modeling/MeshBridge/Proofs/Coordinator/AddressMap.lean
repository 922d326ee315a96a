import MeshBridge.Proofs.Coordinator.Addresses
/-!
The table of devices in reach is a map of bounded size that never has two devices at one address,
whatever is asked of it (`mapLike_run`). Two facts carry this. A call keeps a table proper, so every
table that calls can lead to is proper. And in a proper table there is at most one other device at
an address, so that the one entry which is displaced is all there was to displace; where one is
displaced there is room, so that a table that refuses a device has displaced nothing.
-/

set_option autoImplicit false
set_option relaxedAutoImplicit false

namespace MeshBridge

/-- What can be asked of a table of devices in reach. -/
inductive CacheCall where
  | put (device : Eui64) (address : NetworkAddress)
  | remove (device : Eui64)
  | lookup (device : Eui64)
  | lookupByAddress (address : NetworkAddress)
  deriving DecidableEq, Repr

namespace AddressCache

variable {c after : AddressCache} {e : CacheEntry} {device : Eui64} {address : NetworkAddress}

/-- The table after a call, and the entry displaced, removed or found. -/
def perform (c : AddressCache) : CacheCall → AddressCache × Except Fault (Option CacheEntry)
  | .put device address => c.put device address
  | .remove device =>
    match c.remove device with
    | .ok (after, e) => (after, .ok (some e))
    | .error f => (c, .error f)
  | .lookup device => (c, .ok (c.lookup device))
  | .lookupByAddress address => (c, .ok (c.lookupByAddress address))

/-- The table after calls made in turn. -/
def run (c : AddressCache) (calls : List CacheCall) : AddressCache :=
  calls.foldl (fun c call ↦ (c.perform call).1) c

/-! ### Tables that calls lead to -/

theorem perform_remove_fst (c : AddressCache) (device : Eui64) :
    (c.perform (.remove device)).1 = c.without device := by
  show (match c.remove device with
    | .ok (after, e) => (after, .ok (some e))
    | .error f => (c, .error f) : AddressCache × Except Fault (Option CacheEntry)).1 = _
  unfold without
  cases c.remove device with
  | ok taken => rfl
  | error f => rfl

/-- A call keeps a table proper, and never changes its capacity. -/
theorem Proper.perform (h : c.Proper) (call : CacheCall) :
    (c.perform call).1.Proper ∧ (c.perform call).1.capacity = c.capacity := by
  cases call with
  | put device address =>
    show (c.put device address).1.Proper ∧ (c.put device address).1.capacity = c.capacity
    rcases hput : c.put device address with ⟨after, f | displaced⟩
    · obtain ⟨rfl, -, -⟩ := h.put_error hput
      exact ⟨h, rfl⟩
    · have hgiven := h.put_ok hput
      exact ⟨hgiven.proper, hgiven.capacity⟩
  | remove device =>
    rw [perform_remove_fst]
    exact ⟨h.without device, c.capacity_without device⟩
  | lookup device => exact ⟨h, rfl⟩
  | lookupByAddress address => exact ⟨h, rfl⟩

theorem Proper.run (h : c.Proper) (calls : List CacheCall) :
    (c.run calls).Proper ∧ (c.run calls).capacity = c.capacity := by
  induction calls generalizing c with
  | nil => exact ⟨h, rfl⟩
  | cons call rest ih =>
    obtain ⟨hproper, hcapacity⟩ := h.perform call
    obtain ⟨hrest, hsame⟩ := ih hproper
    exact ⟨hrest, hsame.trans hcapacity⟩

/-! ### Giving an address -/

theorem mem_of_displace_eq_some (h : (displace c.entries device address).1 = some e) :
    e ∈ c.entries := by
  rw [(displace_perm c.entries device address).mem_iff, h]
  exact List.mem_append_left _ (List.mem_singleton_self _)

/-- Assumes: a proper table. What is displaced is the entry of the other device at the address, as
no address is in the table twice. -/
theorem Proper.displace_eq_some_iff (h : c.Proper) :
    (displace c.entries device address).1 = some e ↔
      e.device ≠ device ∧ e.address = address ∧ c.at? e.device = some address := by
  rw [at?_eq_some_iff h.devices]
  constructor
  · intro hdisplaced
    obtain ⟨hother, rfl⟩ := displace_eq_some hdisplaced
    exact ⟨hother, rfl, mem_of_displace_eq_some hdisplaced⟩
  · rintro ⟨hother, rfl, hentry⟩
    cases hdisplaced : (displace c.entries device e.address).1 with
    | none => exact absurd ((displace_eq_none hdisplaced).2 e hentry rfl) hother
    | some old =>
      have haddress := (displace_eq_some hdisplaced).2
      rw [List.inj_on_of_nodup_map h.addresses (mem_of_displace_eq_some hdisplaced) hentry haddress]

/-- The entry given back is the one displaced. -/
theorem displaced_of_put_ok {displaced : Option CacheEntry}
    (hput : c.put device address = (after, .ok displaced)) :
    displaced = (displace c.entries device address).1 := by
  rcases c.put_cases device address with ⟨-, hupdate⟩ | ⟨-, ⟨-, hfull⟩ | ⟨-, hpush⟩⟩
  · rw [hupdate] at hput
    cases hput
    rfl
  · rw [hfull] at hput
    cases hput
  · rw [hpush] at hput
    cases hput
    rfl

/-- A device is refused only where there is no room, whatever was displaced. -/
theorem full_of_put_error {f : Fault} (hput : c.put device address = (after, .error f)) :
    c.capacity ≤ (displace c.entries device address).2.length ∧
      f = .resourceExhausted ("address cache (" ++ toString c.capacity ++ " entries)") := by
  rcases c.put_cases device address with ⟨-, hupdate⟩ | ⟨-, ⟨hfull, hrefuse⟩ | ⟨-, hpush⟩⟩
  · rw [hupdate] at hput
    cases hput
  · rw [hrefuse] at hput
    cases hput
    exact ⟨hfull, rfl⟩
  · rw [hpush] at hput
    cases hput

/-- Assumes: a proper table that refuses a device. No device is at the address, as it would have
made room. -/
theorem Proper.free_of_put_error (h : c.Proper) {f : Fault}
    (hput : c.put device address = (after, .error f)) (d : Eui64) : c.at? d ≠ some address := by
  intro hat
  obtain ⟨-, hnew, -⟩ := h.put_error hput
  have hother : d ≠ device := by
    rintro rfl
    rw [hnew] at hat
    cases hat
  have hdisplaced : (displace c.entries device address).1 = some ⟨d, address⟩ :=
    h.displace_eq_some_iff.2 ⟨hother, rfl, hat⟩
  have hlength := (displace_perm c.entries device address).length_eq
  rw [hdisplaced, List.length_append, Option.toList_some, List.length_singleton] at hlength
  have hroom := (full_of_put_error hput).1
  have hsize := h.size_le
  rw [size] at hsize
  omega

/-- Assumes: a proper table that has no room, and a device that neither is in it nor would displace
another one. The device is refused. -/
theorem Proper.put_refused (h : c.Proper) (hnew : c.at? device = none)
    (hfree : ∀ d, c.at? d ≠ some address) (hfull : c.size = c.capacity) :
    c.put device address =
      (c, .error (.resourceExhausted
        ("address cache (" ++ toString c.capacity ++ " entries)"))) := by
  have hnone : (displace c.entries device address).1 = none := by
    by_contra hsome
    obtain ⟨old, hold⟩ := Option.ne_none_iff_exists'.1 hsome
    exact hfree old.device (h.displace_eq_some_iff.1 hold).2.2
  obtain ⟨hrest, -⟩ := displace_eq_none hnone
  rcases c.put_cases device address with ⟨⟨e, he, rfl⟩, -⟩ | ⟨-, ⟨-, hput⟩ | ⟨hroom, -⟩⟩
  · rw [hrest] at he
    rw [(at?_eq_some_iff h.devices).2 he] at hnew
    cases hnew
  · rw [hput, hrest]
  · rw [hrest] at hroom
    exact absurd hfull (Nat.ne_of_lt hroom)

/-- What a table does when a device is to be given an address. If it takes the device in, then as a
map it is the one before with the device at the address and without any other device that was there,
whose entry is given back. -/
structure Puts (c : AddressCache) (device : Eui64) (address : NetworkAddress) : Prop where
  taken : ∀ after displaced, c.put device address = (after, .ok displaced) →
    (∀ d, after.at? d =
      if d = device then some address else if c.at? d = some address then none else c.at? d) ∧
    ∀ e, displaced = some e ↔
      e.device ≠ device ∧ e.address = address ∧ c.at? e.device = some address
  /-- A refusal leaves the entries and their order as they were. -/
  refused : ∀ after f, c.put device address = (after, .error f) → after = c ∧
    f = .resourceExhausted ("address cache (" ++ toString c.capacity ++ " entries)")
  refused_iff : (∃ f, (c.put device address).2 = .error f) ↔
    c.at? device = none ∧ (∀ d, c.at? d ≠ some address) ∧ c.size = c.capacity

/-- Assumes: a proper table that takes a device in. The devices that lose their place are those that
were at the address. -/
theorem Proper.at?_of_put_ok (h : c.Proper) {displaced : Option CacheEntry}
    (hput : c.put device address = (after, .ok displaced)) (d : Eui64) :
    after.at? d =
      if d = device then some address else if c.at? d = some address then none else c.at? d := by
  rw [(h.put_ok hput).at?_eq, displaced_of_put_ok hput]
  by_cases hd : d = device
  · rw [if_pos hd, if_pos hd]
  · rw [if_neg hd, if_neg hd]
    refine if_congr ?_ rfl rfl
    rw [Option.any_eq_true]
    constructor
    · rintro ⟨old, hold, hdevice⟩
      obtain rfl : old.device = d := of_decide_eq_true hdevice
      exact (h.displace_eq_some_iff.1 hold).2.2
    · intro hat
      exact ⟨⟨d, address⟩, h.displace_eq_some_iff.2 ⟨hd, rfl, hat⟩, decide_eq_true rfl⟩

theorem Proper.puts (h : c.Proper) (device : Eui64) (address : NetworkAddress) :
    c.Puts device address where
  taken after displaced hput := by
    refine ⟨h.at?_of_put_ok hput, fun e ↦ ?_⟩
    rw [displaced_of_put_ok hput]
    exact h.displace_eq_some_iff
  refused after f hput := ⟨(h.put_error hput).1, (full_of_put_error hput).2⟩
  refused_iff := by
    constructor
    · rintro ⟨f, hf⟩
      have hput : c.put device address = ((c.put device address).1, .error f) := Prod.ext rfl hf
      obtain ⟨-, hnew, hfull⟩ := h.put_error hput
      exact ⟨hnew, h.free_of_put_error hput, hfull⟩
    · rintro ⟨hnew, hfree, hfull⟩
      exact ⟨_, congrArg Prod.snd (h.put_refused hnew hfree hfull)⟩

/-! ### Removal -/

/-- What a table does when a device is to be removed. -/
structure Removes (c : AddressCache) (device : Eui64) : Prop where
  removed : ∀ after reply, c.perform (.remove device) = (after, .ok reply) →
    (∀ d, after.at? d = if d = device then none else c.at? d) ∧
    ∃ e, reply = some e ∧ e.device = device ∧ c.at? device = some e.address
  refused : ∀ after f, c.perform (.remove device) = (after, .error f) → after = c ∧
    f = .notFound ("address cache entry " ++ toString device)
  refused_iff : (∃ f, (c.perform (.remove device)).2 = .error f) ↔ c.at? device = none

theorem Proper.removes (h : c.Proper) (device : Eui64) : c.Removes device := by
  have hat := h.at?_without device
  rcases c.remove_cases device with ⟨e, rfl, hperm, -, hremove⟩ | ⟨hnone, -, hremove⟩
  · have hperform : c.perform (.remove e.device) = (c.without e.device, .ok (some e)) := by
      simp only [AddressCache.perform, hremove]
    have hentry : c.at? e.device = some e.address :=
      (at?_eq_some_iff h.devices).2 (hperm.mem_iff.2 List.mem_cons_self)
    refine ⟨fun after reply hreply ↦ ?_, fun after f hrefused ↦ ?_, iff_of_false ?_ ?_⟩
    · rw [hperform] at hreply
      cases hreply
      exact ⟨hat, e, rfl, rfl, hentry⟩
    · rw [hperform] at hrefused
      cases hrefused
    · simp [hperform]
    · simp [hentry]
  · have hperform : c.perform (.remove device) =
        (c, .error (.notFound ("address cache entry " ++ toString device))) := by
      simp only [AddressCache.perform, hremove]
    have habsent : c.at? device = none := by
      by_contra hsome
      obtain ⟨address, haddress⟩ := Option.ne_none_iff_exists'.1 hsome
      exact hnone _ ((at?_eq_some_iff h.devices).1 haddress) rfl
    refine ⟨fun after reply hreply ↦ ?_, fun after f hrefused ↦ ?_, iff_of_true ?_ habsent⟩
    · rw [hperform] at hreply
      cases hreply
    · rw [hperform] at hrefused
      cases hrefused
      exact ⟨rfl, rfl⟩
    · exact ⟨_, congrArg Prod.snd hperform⟩

/-! ### The table as a map -/

/-- A table is a map from devices to addresses, from which it can be read in either direction and
which changes as a map does. -/
structure MapLike (c : AddressCache) : Prop where
  proper : c.Proper
  mem_iff : ∀ device address, ⟨device, address⟩ ∈ c.entries ↔ c.at? device = some address
  lookup_iff : ∀ device e, c.lookup device = some e ↔
    e.device = device ∧ c.at? device = some e.address
  lookupByAddress_iff : ∀ address e, c.lookupByAddress address = some e ↔
    e.address = address ∧ c.at? e.device = some address
  puts : ∀ device address, c.Puts device address
  removes : ∀ device, c.Removes device

theorem Proper.mapLike (h : c.Proper) : c.MapLike where
  proper := h
  mem_iff device address := (at?_eq_some_iff h.devices).symm
  lookup_iff device e := by
    rw [lookup_eq_some_iff h.devices, at?_eq_some_iff h.devices]
    constructor
    · rintro ⟨he, rfl⟩
      exact ⟨rfl, he⟩
    · rintro ⟨rfl, he⟩
      exact ⟨he, rfl⟩
  lookupByAddress_iff address e := by
    rw [h.lookupByAddress_eq_some_iff, and_comm]
  puts := h.puts
  removes := h.removes

/-- Whatever is asked of an empty table, it stays within its capacity, has no device and no address
twice, and is a map: giving a device an address sets it and takes away any other device that was
there, unless the table is full; removing a device takes it away. Refusals change nothing. -/
theorem mapLike_run (capacity : Nat) (calls : List CacheCall) :
    ((empty capacity).run calls).MapLike ∧ ((empty capacity).run calls).capacity = capacity :=
  have ⟨hproper, hcapacity⟩ := (proper_empty capacity).run calls
  ⟨hproper.mapLike, hcapacity⟩

/-- The table is full, but the device that held the address makes room. -/
example : ((empty 2).run [.put ⟨1⟩ 5, .put ⟨2⟩ 6, .put ⟨3⟩ 5]).entries = [⟨⟨2⟩, 6⟩, ⟨⟨3⟩, 5⟩] := by
  decide

end AddressCache

end MeshBridge
