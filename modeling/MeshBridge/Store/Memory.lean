import MeshBridge.Store.Basic
import MeshBridge.Table
/-!
A store that lasts as long as the program: a table by namespace and key.
-/

set_option autoImplicit false
set_option relaxedAutoImplicit false

namespace MeshBridge

/-- Entries under pairs of a namespace and a key, each pair once. -/
structure MemoryStore where
  entries : List ((String × String) × StoredValue)
  deriving DecidableEq, Repr

namespace MemoryStore

open KeyValueStore (checkNames)

def empty : MemoryStore := ⟨[]⟩

instance : Inhabited MemoryStore := ⟨empty⟩

def lookup (s : MemoryStore) (space key : String) : Option StoredValue :=
  s.entries.lookup (space, key)

def without (s : MemoryStore) (space key : String) : MemoryStore :=
  ⟨s.entries.filter (·.1 ≠ (space, key))⟩

def put (s : MemoryStore) (space key : String) (v : StoredValue) : MemoryStore :=
  ⟨((space, key), v) :: (s.without space key).entries⟩

instance : KeyValueStore MemoryStore where
  get space key s := (checkNames space key).map fun _ ↦ s.lookup space key
  set space key v s := (checkNames space key).map fun _ ↦ s.put space key v
  erase space key s :=
    (checkNames space key).map fun _ ↦ (s.without space key, (s.lookup space key).isSome)
  clear space s :=
    let kept := s.entries.filter (·.1.1 ≠ space)
    .ok (⟨kept⟩, s.entries.length - kept.length)
  isPersistent _ := false

end MemoryStore

end MeshBridge
