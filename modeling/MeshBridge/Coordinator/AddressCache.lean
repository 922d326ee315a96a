import MeshBridge.Address
import MeshBridge.Fault
/-!
The network addresses of the devices in reach, in a table of bounded size. A full table refuses new
devices. A network address belongs to at most one device, so the device that had it before loses it.
When a device was heard of last is not kept here, as nothing depends on it.
-/

set_option autoImplicit false
set_option relaxedAutoImplicit false

namespace MeshBridge

structure CacheEntry where
  device : Eui64
  address : NetworkAddress
  deriving DecidableEq, Repr

structure AddressCache where
  capacity : Nat
  entries : List CacheEntry
  deriving DecidableEq, Repr

namespace AddressCache

/-- Whether there can be a table of this capacity: at 32 bytes an entry it has to stay within what a
program can address. -/
def canHold (capacity : Nat) : Bool := 32 * capacity ≤ Int64.maxValue.toInt

def empty (capacity : Nat) : AddressCache := ⟨capacity, []⟩

def lookup (c : AddressCache) (device : Eui64) : Option CacheEntry :=
  c.entries.find? (·.device = device)

def lookupByAddress (c : AddressCache) (address : NetworkAddress) : Option CacheEntry :=
  c.entries.find? (·.address = address)

def size (c : AddressCache) : Nat := c.entries.length

def isEmpty (c : AddressCache) : Bool := c.entries.isEmpty

/-- Takes the first entry with a property out; the last entry moves into its place. -/
def takeOut (p : CacheEntry → Bool) : List CacheEntry → Option (CacheEntry × List CacheEntry)
  | [] => none
  | e :: rest =>
    if p e then
      match rest.getLast? with
      | none => some (e, [])
      | some last => some (e, last :: rest.dropLast)
    else (takeOut p rest).map fun (found, rest) ↦ (found, e :: rest)

/-- Takes out the entry of another device at an address. -/
def displace (entries : List CacheEntry) (device : Eui64) (address : NetworkAddress) :
    Option CacheEntry × List CacheEntry :=
  match takeOut (fun e ↦ e.address = address && e.device ≠ device) entries with
  | some (e, rest) => (some e, rest)
  | none => (none, entries)

/-- Gives a device an address: the table after it, and the entry of the device that had the address
before. That entry is dropped first, so a full table that has no room for the device is left without
it. -/
def put (c : AddressCache) (device : Eui64) (address : NetworkAddress) :
    AddressCache × Except Fault (Option CacheEntry) :=
  let (displaced, rest) := displace c.entries device address
  if rest.any (·.device = device) then
    ({ c with
      entries := rest.map fun e ↦ if e.device = device then { e with address } else e },
      .ok displaced)
  else if c.capacity ≤ rest.length then
    ({ c with entries := rest },
      .error (.resourceExhausted ("address cache (" ++ toString c.capacity ++ " entries)")))
  else ({ c with entries := rest ++ [⟨device, address⟩] }, .ok displaced)

/-- As `put`, with the table after it only where the device got the address. -/
def insert (c : AddressCache) (device : Eui64) (address : NetworkAddress) :
    Except Fault (AddressCache × Option CacheEntry) :=
  match c.put device address with
  | (after, .ok displaced) => .ok (after, displaced)
  | (_, .error f) => .error f

def remove (c : AddressCache) (device : Eui64) : Except Fault (AddressCache × CacheEntry) :=
  match takeOut (·.device = device) c.entries with
  | some (e, rest) => .ok ({ c with entries := rest }, e)
  | none => .error (.notFound ("address cache entry " ++ toString device))

end AddressCache

end MeshBridge
