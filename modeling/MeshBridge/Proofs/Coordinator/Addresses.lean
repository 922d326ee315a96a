import MeshBridge.Coordinator.AddressCache
import Mathlib.Data.List.Nodup
import Mathlib.Tactic.SplitIfs
/-!
What each operation does to the table of devices in reach, read through `at?`. The table is proper
when no device and no network address is in it twice and it is within its capacity. Giving a device
an address (`Proper.put_ok`) changes what is known of that device and of the one that loses the
address, and a proper table that has no room is left as it was (`Proper.put_error`).
-/

set_option autoImplicit false
set_option relaxedAutoImplicit false

namespace MeshBridge.AddressCache

variable {c after : AddressCache} {entries rest : List CacheEntry} {e : CacheEntry}
  {device : Eui64} {address : NetworkAddress}

/-- The address of a device in the table. -/
def at? (c : AddressCache) (device : Eui64) : Option NetworkAddress :=
  (c.lookup device).map (·.address)

/-! ### Taking an entry out -/

/-- What is taken out has the property, and what is left is all the rest in some order. -/
theorem takeOut_eq_some {p : CacheEntry → Bool} (h : takeOut p entries = some (e, rest)) :
    p e = true ∧ entries.Perm (e :: rest) := by
  induction entries generalizing e rest with
  | nil => cases h
  | cons first others ih =>
    unfold takeOut at h
    by_cases hp : p first = true
    · rw [if_pos hp] at h
      cases hlast : others.getLast? with
      | none =>
        rw [hlast] at h
        cases h
        rw [List.getLast?_eq_none_iff.1 hlast]
        exact ⟨hp, List.Perm.refl _⟩
      | some last =>
        rw [hlast] at h
        cases h
        refine ⟨hp, List.Perm.cons _ ?_⟩
        have hothers : others = others.dropLast ++ [last] :=
          (List.dropLast_append_getLast? _ hlast).symm
        rw [hothers, List.dropLast_concat]
        exact List.perm_append_singleton last others.dropLast
    · rw [if_neg hp] at h
      obtain ⟨⟨found, more⟩, hfound, hpair⟩ := Option.map_eq_some_iff.1 h
      cases hpair
      obtain ⟨hproperty, hperm⟩ := ih hfound
      exact ⟨hproperty, (hperm.cons first).trans (List.Perm.swap ..)⟩

/-- Nothing is taken out only if no entry has the property. -/
theorem takeOut_eq_none {p : CacheEntry → Bool} (h : takeOut p entries = none) :
    ∀ e ∈ entries, p e = false := by
  induction entries with
  | nil => simp
  | cons first others ih =>
    unfold takeOut at h
    by_cases hp : p first = true
    · rw [if_pos hp] at h
      split at h <;> cases h
    · rw [if_neg hp] at h
      intro e he
      rcases List.mem_cons.1 he with rfl | he
      · exact Bool.eq_false_iff.2 hp
      · exact ih (Option.map_eq_none_iff.1 h) e he

/-! ### Proper tables -/

/-- No device and no address is in a table twice, and the table is within its capacity. -/
structure Proper (c : AddressCache) : Prop where
  devices : (c.entries.map (·.device)).Nodup
  addresses : (c.entries.map (·.address)).Nodup
  size_le : c.size ≤ c.capacity

theorem proper_empty (capacity : Nat) : (empty capacity).Proper :=
  ⟨List.nodup_nil, List.nodup_nil, Nat.zero_le _⟩

/-- Where no two entries have one key, an entry is found under its key. -/
theorem find?_key_eq_some_iff {κ : Type} [DecidableEq κ] {key : CacheEntry → κ} {k : κ}
    (h : (entries.map key).Nodup) :
    entries.find? (fun e ↦ key e = k) = some e ↔ e ∈ entries ∧ key e = k := by
  constructor
  · intro hfind
    exact ⟨List.mem_of_find?_eq_some hfind, by simpa using List.find?_some hfind⟩
  · rintro ⟨he, hkey⟩
    cases hfind : entries.find? fun e ↦ key e = k with
    | none => exact absurd hkey (by simpa using List.find?_eq_none.1 hfind e he)
    | some found =>
      have hfound : key found = k := by simpa using List.find?_some hfind
      rw [List.inj_on_of_nodup_map h (List.mem_of_find?_eq_some hfind) he (hfound.trans hkey.symm)]

theorem lookup_eq_some_iff (h : (c.entries.map (·.device)).Nodup) :
    c.lookup device = some e ↔ e ∈ c.entries ∧ e.device = device :=
  find?_key_eq_some_iff h

theorem lookupByAddress_eq_some_iff (h : (c.entries.map (·.address)).Nodup) :
    c.lookupByAddress address = some e ↔ e ∈ c.entries ∧ e.address = address :=
  find?_key_eq_some_iff h

/-- The address of a device is the one it is entered with. -/
theorem at?_eq_some_iff (h : (c.entries.map (·.device)).Nodup) :
    c.at? device = some address ↔ ⟨device, address⟩ ∈ c.entries := by
  rw [at?, Option.map_eq_some_iff]
  constructor
  · rintro ⟨e, hlookup, rfl⟩
    obtain ⟨he, rfl⟩ := (lookup_eq_some_iff h).1 hlookup
    exact he
  · intro he
    exact ⟨_, (lookup_eq_some_iff h).2 ⟨he, rfl⟩, rfl⟩

/-- No two devices have one address. -/
theorem Proper.device_eq (h : c.Proper) {first second : Eui64} (hfirst : c.at? first = some address)
    (hsecond : c.at? second = some address) : first = second := by
  rw [at?_eq_some_iff h.devices] at hfirst hsecond
  exact congrArg CacheEntry.device (List.inj_on_of_nodup_map h.addresses hfirst hsecond rfl)

/-- The device at an address is the one that has it. -/
theorem Proper.lookupByAddress_eq_some_iff (h : c.Proper) :
    c.lookupByAddress address = some e ↔ c.at? e.device = some address ∧ e.address = address := by
  rw [AddressCache.lookupByAddress_eq_some_iff h.addresses, at?_eq_some_iff h.devices]
  constructor
  · rintro ⟨he, rfl⟩
    exact ⟨he, rfl⟩
  · rintro ⟨he, rfl⟩
    exact ⟨he, rfl⟩

/-! ### Giving an address -/

/-- The entry displaced is another device's at the address, and the entries left are all
the rest. -/
theorem displace_perm (entries : List CacheEntry) (device : Eui64) (address : NetworkAddress) :
    entries.Perm ((displace entries device address).1.toList ++
      (displace entries device address).2) := by
  unfold displace
  split
  · next e rest htaken => exact (takeOut_eq_some htaken).2
  · exact List.Perm.refl _

theorem displace_eq_some (h : (displace entries device address).1 = some e) :
    e.device ≠ device ∧ e.address = address := by
  unfold displace at h
  split at h
  · next found rest htaken =>
    cases h
    have hproperty := (takeOut_eq_some htaken).1
    simp only [ne_eq, decide_not, Bool.and_eq_true, decide_eq_true_eq, Bool.not_eq_true',
      decide_eq_false_iff_not] at hproperty
    exact ⟨hproperty.2, hproperty.1⟩
  · cases h

/-- Where nothing is displaced no other device is at the address, and all entries are left. -/
theorem displace_eq_none (h : (displace entries device address).1 = none) :
    (displace entries device address).2 = entries ∧
      ∀ e ∈ entries, e.address = address → e.device = device := by
  unfold displace at h ⊢
  split at h
  · cases h
  · next htaken =>
    refine ⟨rfl, ?_⟩
    intro e he haddress
    by_contra hother
    simpa [haddress, hother] using takeOut_eq_none htaken e he

/-- Assumes: no address is in the table twice. No other device is left at the address. -/
theorem device_eq_of_mem_displace (h : (entries.map (·.address)).Nodup)
    (he : e ∈ (displace entries device address).2) (haddress : e.address = address) :
    e.device = device := by
  have hperm := displace_perm entries device address
  cases hdisplaced : (displace entries device address).1 with
  | some old =>
    rw [hdisplaced] at hperm
    have hnodup := (hperm.map (·.address)).nodup_iff.1 h
    have hold := (displace_eq_some hdisplaced).2
    have hmem : old.address ∈ (displace entries device address).2.map (·.address) :=
      List.mem_map.2 ⟨e, he, haddress.trans hold.symm⟩
    exact absurd hmem (List.nodup_cons.1 hnodup).1
  | none =>
    obtain ⟨hrest, hdevice⟩ := displace_eq_none hdisplaced
    rw [hrest] at he
    exact hdevice e he haddress

/-- Assumes: a proper table. What is left after displacing has no entry twice. -/
theorem Proper.nodup_displace (h : c.Proper) (device : Eui64) (address : NetworkAddress) :
    (((displace c.entries device address).2).map (·.device)).Nodup ∧
      (((displace c.entries device address).2).map (·.address)).Nodup := by
  have hperm := displace_perm c.entries device address
  have hsub {β : Type} (key : CacheEntry → β) (hnodup : (c.entries.map key).Nodup) :
      ((displace c.entries device address).2.map key).Nodup := by
    have hall := (hperm.map key).nodup_iff.1 hnodup
    rw [List.map_append] at hall
    exact hall.of_append_right
  exact ⟨hsub _ h.devices, hsub _ h.addresses⟩

/-- The address that a device is given replaces the one it had. -/
def rewrite (device : Eui64) (address : NetworkAddress) (e : CacheEntry) : CacheEntry :=
  if e.device = device then { e with address } else e

@[simp] theorem rewrite_device (device : Eui64) (address : NetworkAddress) (e : CacheEntry) :
    (rewrite device address e).device = e.device := by
  unfold rewrite
  split_ifs <;> rfl

/-- The ways in which a device is given an address, after another was displaced. -/
theorem put_cases (c : AddressCache) (device : Eui64) (address : NetworkAddress) :
    let displaced := (displace c.entries device address).1
    let rest := (displace c.entries device address).2
    ((∃ e ∈ rest, e.device = device) ∧ c.put device address =
        ({ c with entries := rest.map (rewrite device address) }, .ok displaced)) ∨
      (∀ e ∈ rest, e.device ≠ device) ∧ (c.capacity ≤ rest.length ∧ c.put device address =
          ({ c with entries := rest },
            .error (.resourceExhausted ("address cache (" ++ toString c.capacity ++ " entries)"))) ∨
        rest.length < c.capacity ∧ c.put device address =
          ({ c with entries := rest ++ [⟨device, address⟩] }, .ok displaced)) := by
  intro displaced rest
  have hpair : displace c.entries device address = (displaced, rest) := rfl
  by_cases hany : rest.any (·.device = device)
  · left
    refine ⟨by simpa using hany, ?_⟩
    simp only [put, hpair, hany, if_true]
    rfl
  · right
    refine ⟨by simpa using hany, ?_⟩
    by_cases hfull : c.capacity ≤ rest.length
    · left
      refine ⟨hfull, ?_⟩
      simp only [put, hpair, hany, hfull, if_true]
      rfl
    · right
      refine ⟨Nat.lt_of_not_le hfull, ?_⟩
      simp only [put, hpair, hany, hfull, if_false]
      rfl

/-- The entries after a device was given an address: its own, and those of the other devices that
were not displaced. -/
structure Given (c : AddressCache) (device : Eui64) (address : NetworkAddress)
    (after : AddressCache) (displaced : Option CacheEntry) : Prop where
  proper : after.Proper
  capacity : after.capacity = c.capacity
  displaced_eq : ∀ old, displaced = some old →
    old.device ≠ device ∧ c.at? old.device = some address
  at?_eq : ∀ d, after.at? d =
    if d = device then some address else if displaced.any (·.device = d) then none else c.at? d

/-- Assumes: entries without doubles after displacing. The table is proper again and has the entry
of the device, and it has the entries of the others that were left. -/
theorem Proper.given (h : c.Proper) (hcapacity : after.capacity = c.capacity)
    (hsize : after.size ≤ after.capacity)
    (hdevices : (after.entries.map (·.device)).Nodup)
    (haddresses : (after.entries.map (·.address)).Nodup)
    (hmem : ∀ e, e ∈ after.entries ↔ e = ⟨device, address⟩ ∨
      e ∈ (displace c.entries device address).2 ∧ e.device ≠ device) :
    Given c device address after (displace c.entries device address).1 where
  proper := ⟨hdevices, haddresses, hsize⟩
  capacity := hcapacity
  displaced_eq := by
    intro old hold
    obtain ⟨hother, haddress⟩ := displace_eq_some hold
    refine ⟨hother, ?_⟩
    rw [at?_eq_some_iff h.devices, ← haddress, (displace_perm c.entries device address).mem_iff]
    exact List.mem_append_left _ (by rw [hold]; exact List.mem_singleton_self _)
  at?_eq := by
    intro d
    have hperm := displace_perm c.entries device address
    have hnodup := (hperm.map (·.device)).nodup_iff.1 h.devices
    ext a
    rw [at?_eq_some_iff hdevices, hmem]
    by_cases hd : d = device
    · subst hd
      simp [eq_comm]
    · rw [if_neg hd]
      have hne : (⟨d, a⟩ : CacheEntry) ≠ ⟨device, address⟩ :=
        fun heq ↦ hd (congrArg CacheEntry.device heq)
      simp only [hne, false_or, ne_eq, hd, not_false_eq_true, and_true]
      cases hdisplaced : (displace c.entries device address).1 with
      | none =>
        rw [(displace_eq_none hdisplaced).1]
        exact (at?_eq_some_iff h.devices).symm
      | some old =>
        rw [hdisplaced] at hperm hnodup
        by_cases hold : old.device = d
        · simp only [Option.any_some, hold, decide_true, if_true]
          refine iff_of_false ?_ (by simp)
          intro hrest
          have hdouble : old.device ∈ (displace c.entries device address).2.map (·.device) :=
            List.mem_map.2 ⟨_, hrest, hold.symm⟩
          exact (List.nodup_cons.1 hnodup).1 hdouble
        · simp only [Option.any_some, hold, decide_false, Bool.false_eq_true, if_false]
          rw [at?_eq_some_iff h.devices, hperm.mem_iff]
          constructor
          · exact fun hrest ↦ List.mem_append_right _ hrest
          · intro hall
            rcases List.mem_append.1 hall with hfirst | hrest
            · exact absurd (congrArg CacheEntry.device (List.mem_singleton.1 hfirst)).symm hold
            · exact hrest

/-- Rewriting the address of a device leaves no address twice, as no other device is left at it. -/
theorem nodup_rewrite {rest : List CacheEntry} (hdevices : (rest.map (·.device)).Nodup)
    (haddresses : (rest.map (·.address)).Nodup)
    (hfree : ∀ e ∈ rest, e.address = address → e.device = device) :
    ((rest.map (rewrite device address)).map (·.address)).Nodup := by
  rw [List.map_map]
  refine List.Nodup.map_on ?_ (List.Nodup.of_map _ hdevices)
  intro first hfirst second hsecond hsame
  simp only [Function.comp_apply, rewrite] at hsame
  by_cases hf : first.device = device <;> by_cases hs : second.device = device
  · exact List.inj_on_of_nodup_map hdevices hfirst hsecond (hf.trans hs.symm)
  · rw [if_pos hf, if_neg hs] at hsame
    exact absurd (hfree second hsecond hsame.symm) hs
  · rw [if_neg hf, if_pos hs] at hsame
    exact absurd (hfree first hfirst hsame) hf
  · rw [if_neg hf, if_neg hs] at hsame
    exact List.inj_on_of_nodup_map haddresses hfirst hsecond hsame

/-- Assumes: a proper table, and a device that is in it. -/
theorem Proper.given_rewrite (h : c.Proper)
    (hown : ∃ e ∈ (displace c.entries device address).2, e.device = device) :
    Given c device address
      { c with entries := (displace c.entries device address).2.map (rewrite device address) }
      (displace c.entries device address).1 := by
  obtain ⟨hdevices, haddresses⟩ := h.nodup_displace device address
  refine h.given rfl ?_ ?_ ?_ ?_
  · show ((displace c.entries device address).2.map (rewrite device address)).length ≤ c.capacity
    have hlength := (displace_perm c.entries device address).length_eq
    have hsize := h.size_le
    rw [List.length_append] at hlength
    rw [size] at hsize
    rw [List.length_map]
    omega
  · show (((displace c.entries device address).2.map (rewrite device address)).map
      (·.device)).Nodup
    rw [List.map_map]
    simpa only [Function.comp_def, rewrite_device] using hdevices
  · exact nodup_rewrite hdevices haddresses fun e he ↦ device_eq_of_mem_displace h.addresses he
  · intro e
    show e ∈ (displace c.entries device address).2.map (rewrite device address) ↔ _
    rw [List.mem_map]
    constructor
    · rintro ⟨old, hold, rfl⟩
      by_cases hsame : old.device = device
      · left
        rw [rewrite, if_pos hsame, hsame]
      · right
        rw [rewrite, if_neg hsame]
        exact ⟨hold, hsame⟩
    · rintro (rfl | ⟨hrest, hother⟩)
      · obtain ⟨own, hmem, howned⟩ := hown
        exact ⟨own, hmem, by rw [rewrite, if_pos howned, howned]⟩
      · exact ⟨e, hrest, by rw [rewrite, if_neg hother]⟩

/-- Assumes: a proper table with room, and a device that is not in it. -/
theorem Proper.given_append (h : c.Proper)
    (hnew : ∀ e ∈ (displace c.entries device address).2, e.device ≠ device)
    (hroom : (displace c.entries device address).2.length < c.capacity) :
    Given c device address
      { c with entries := (displace c.entries device address).2 ++ [⟨device, address⟩] }
      (displace c.entries device address).1 := by
  obtain ⟨hdevices, haddresses⟩ := h.nodup_displace device address
  refine h.given rfl ?_ ?_ ?_ ?_
  · show ((displace c.entries device address).2 ++ [CacheEntry.mk device address]).length ≤
      c.capacity
    rw [List.length_append]
    exact hroom
  · show (((displace c.entries device address).2 ++ [CacheEntry.mk device address]).map
      (·.device)).Nodup
    rw [List.map_append]
    refine hdevices.append (List.nodup_singleton _) ?_
    simpa using hnew
  · show (((displace c.entries device address).2 ++ [CacheEntry.mk device address]).map
      (·.address)).Nodup
    rw [List.map_append]
    refine haddresses.append (List.nodup_singleton _) ?_
    have hfree : ∀ e ∈ (displace c.entries device address).2, e.address ≠ address := by
      intro e he haddress
      exact hnew e he (device_eq_of_mem_displace h.addresses he haddress)
    simpa using hfree
  · intro e
    show e ∈ (displace c.entries device address).2 ++ [⟨device, address⟩] ↔ _
    rw [List.mem_append, List.mem_singleton]
    constructor
    · rintro (hrest | rfl)
      · exact Or.inr ⟨hrest, hnew e hrest⟩
      · exact Or.inl rfl
    · rintro (rfl | ⟨hrest, -⟩)
      · exact Or.inr rfl
      · exact Or.inl hrest

/-- Assumes: a proper table. A table that takes the address in is proper again, and knows the device
at it. -/
theorem Proper.put_ok (h : c.Proper) {displaced : Option CacheEntry}
    (hput : c.put device address = (after, .ok displaced)) :
    Given c device address after displaced := by
  rcases c.put_cases device address with
    ⟨hown, hupdate⟩ | ⟨hnew, ⟨-, hfull⟩ | ⟨hroom, hpush⟩⟩
  · rw [hupdate] at hput
    cases hput
    exact h.given_rewrite hown
  · rw [hfull] at hput
    cases hput
  · rw [hpush] at hput
    cases hput
    exact h.given_append hnew hroom

/-- Assumes: a proper table. A table that refuses a device has no room and is left as it was: an
entry that was displaced would have made room. -/
theorem Proper.put_error (h : c.Proper) {f : Fault}
    (hput : c.put device address = (after, .error f)) :
    after = c ∧ c.at? device = none ∧ c.size = c.capacity := by
  rcases c.put_cases device address with ⟨-, hupdate⟩ | ⟨hnew, ⟨hfull, hrefuse⟩ | ⟨-, hpush⟩⟩
  · rw [hupdate] at hput
    cases hput
  · have hperm := displace_perm c.entries device address
    have hsize := h.size_le
    have hlength := hperm.length_eq
    rw [List.length_append] at hlength
    rw [size] at hsize ⊢
    have hnone : (displace c.entries device address).1 = none := by
      cases hdisplaced : (displace c.entries device address).1 with
      | none => rfl
      | some old =>
        rw [hdisplaced] at hlength
        simp only [Option.toList_some, List.length_singleton] at hlength
        omega
    obtain ⟨hrest, -⟩ := displace_eq_none hnone
    rw [hrest] at hnew hfull hrefuse
    rw [hrefuse] at hput
    cases hput
    refine ⟨rfl, ?_, by omega⟩
    cases hat : c.at? device with
    | none => rfl
    | some a => exact absurd rfl (hnew _ ((at?_eq_some_iff h.devices).1 hat))
  · rw [hpush] at hput
    cases hput

/-- Assumes: a proper table. A device that is given the address it has leaves the table as it
was. -/
theorem Proper.put_self (h : c.Proper) (hat : c.at? device = some address) :
    c.put device address = (c, .ok none) := by
  have hentry := (at?_eq_some_iff h.devices).1 hat
  have hnone : (displace c.entries device address).1 = none := by
    cases hdisplaced : (displace c.entries device address).1 with
    | none => rfl
    | some old =>
      obtain ⟨hother, haddress⟩ := displace_eq_some hdisplaced
      have hold : old ∈ c.entries := by
        rw [(displace_perm c.entries device address).mem_iff, hdisplaced]
        exact List.mem_append_left _ (List.mem_singleton_self _)
      have hsame := List.inj_on_of_nodup_map h.addresses hold hentry haddress
      exact absurd (congrArg CacheEntry.device hsame) hother
  obtain ⟨hrest, hdevice⟩ := displace_eq_none hnone
  have hpair : displace c.entries device address = (none, c.entries) := Prod.ext hnone hrest
  have hany : c.entries.any (·.device = device) = true :=
    List.any_eq_true.2 ⟨_, hentry, by simp⟩
  have hmap : c.entries.map (fun e ↦ if e.device = device then { e with address } else e) =
      c.entries := by
    refine (List.map_congr_left (g := id) ?_).trans (List.map_id _)
    intro e he
    split_ifs with hsame
    · have hown : e = ⟨device, address⟩ := List.inj_on_of_nodup_map h.devices he hentry hsame
      rw [hown]
      rfl
    · rfl
  simp only [put, hpair, hany, if_true, hmap]

/-! ### Removal -/

/-- The table without a device. -/
def without (c : AddressCache) (device : Eui64) : AddressCache :=
  match c.remove device with
  | .ok (after, _) => after
  | .error _ => c

theorem without_of_remove_ok (h : c.remove device = .ok (after, e)) :
    c.without device = after := by
  rw [without, h]

theorem without_of_remove_error {f : Fault} (h : c.remove device = .error f) :
    c.without device = c := by
  rw [without, h]

/-- The entries of a table are those of a device that is removed and those of the table without
it. -/
theorem remove_cases (c : AddressCache) (device : Eui64) :
    (∃ e, e.device = device ∧ c.entries.Perm (e :: (c.without device).entries) ∧
        (c.without device).capacity = c.capacity ∧ c.remove device = .ok (c.without device, e)) ∨
      (∀ e ∈ c.entries, e.device ≠ device) ∧ c.without device = c ∧
        c.remove device = .error (.notFound ("address cache entry " ++ toString device)) := by
  cases htaken : takeOut (·.device = device) c.entries with
  | none =>
    right
    have hremove : c.remove device =
        .error (.notFound ("address cache entry " ++ toString device)) := by
      simp only [remove, htaken]
    refine ⟨?_, without_of_remove_error hremove, hremove⟩
    intro e he
    simpa using takeOut_eq_none htaken e he
  | some pair =>
    left
    obtain ⟨e, rest⟩ := pair
    obtain ⟨hdevice, hperm⟩ := takeOut_eq_some htaken
    have hremove : c.remove device = .ok ({ c with entries := rest }, e) := by
      simp only [remove, htaken]
    rw [without_of_remove_ok hremove]
    exact ⟨e, by simpa using hdevice, hperm, rfl, hremove⟩

theorem capacity_without (c : AddressCache) (device : Eui64) :
    (c.without device).capacity = c.capacity := by
  rcases c.remove_cases device with ⟨e, -, -, hcapacity, -⟩ | ⟨-, hsame, -⟩
  · exact hcapacity
  · rw [hsame]

theorem Proper.without (h : c.Proper) (device : Eui64) : (c.without device).Proper := by
  rcases c.remove_cases device with ⟨e, -, hperm, hcapacity, -⟩ | ⟨-, hsame, -⟩
  · refine ⟨?_, ?_, ?_⟩
    · exact ((hperm.map (·.device)).nodup_iff.1 h.devices).of_cons
    · exact ((hperm.map (·.address)).nodup_iff.1 h.addresses).of_cons
    · have hlength := hperm.length_eq
      have hsize := h.size_le
      rw [List.length_cons] at hlength
      rw [size] at hsize ⊢
      omega
  · rw [hsame]
    exact h

/-- Assumes: a proper table. The table without a device knows every other device as before. -/
theorem Proper.at?_without (h : c.Proper) (device d : Eui64) :
    (c.without device).at? d = if d = device then none else c.at? d := by
  ext a
  rw [at?_eq_some_iff (h.without device).devices]
  rcases c.remove_cases device with ⟨e, rfl, hperm, -, -⟩ | ⟨hnone, hsame, -⟩
  · split_ifs with hd
    · subst hd
      refine iff_of_false ?_ (by simp)
      intro hrest
      have hdouble : e.device ∈ (c.without e.device).entries.map (·.device) :=
        List.mem_map.2 ⟨_, hrest, rfl⟩
      exact (List.nodup_cons.1 ((hperm.map (·.device)).nodup_iff.1 h.devices)).1 hdouble
    · rw [at?_eq_some_iff h.devices, hperm.mem_iff, List.mem_cons]
      constructor
      · exact Or.inr
      · rintro (heq | hrest)
        · exact absurd (congrArg CacheEntry.device heq) hd
        · exact hrest
  · rw [hsame]
    split_ifs with hd
    · subst hd
      exact iff_of_false (fun hentry ↦ hnone _ hentry rfl) (by simp)
    · exact (at?_eq_some_iff h.devices).symm

end MeshBridge.AddressCache
