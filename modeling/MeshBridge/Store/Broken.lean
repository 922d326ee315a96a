import MeshBridge.Store.Basic
/-!
A store of which every call fails.
-/

set_option autoImplicit false
set_option relaxedAutoImplicit false

namespace MeshBridge

structure BrokenStore where
  deriving DecidableEq, Repr, Inhabited

namespace BrokenStore

def fault : Fault := .storage "broken"

instance : KeyValueStore BrokenStore where
  get _ _ _ := .error fault
  set _ _ _ _ := .error fault
  erase _ _ _ := .error fault
  clear _ _ := .error fault
  isPersistent _ := false

end BrokenStore

end MeshBridge
