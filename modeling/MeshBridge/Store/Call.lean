import MeshBridge.Store.Basic
/-!
Calls on a store as data, so that stores can be compared by what they answer. A call that fails
leaves the store as it was.
-/

set_option autoImplicit false
set_option relaxedAutoImplicit false

namespace MeshBridge

/-- What can be asked of a store. -/
inductive StoreCall where
  | get (space key : String)
  /-- Reads a value that must be of a type. -/
  | getAs (type : StoredType) (space key : String)
  | set (space key : String) (v : StoredValue)
  | erase (space key : String)
  | clear (space : String)
  deriving DecidableEq, Repr

/-- What a store answers. -/
inductive StoreReply where
  | done
  | value (v : Option StoredValue)
  /-- Whether there was something to erase. -/
  | erased (wasThere : Bool)
  /-- How many keys were cleared. -/
  | cleared (n : Nat)
  deriving DecidableEq, Repr

namespace KeyValueStore

variable {σ : Type} [KeyValueStore σ]

/-- The state and the answer after a call that may change the store. -/
def change {α : Type} (s : σ) (after : α → σ) (reply : α → StoreReply) :
    Except Fault α → σ × Except Fault StoreReply
  | .ok a => (after a, .ok (reply a))
  | .error f => (s, .error f)

def perform (s : σ) : StoreCall → σ × Except Fault StoreReply
  | .get space key => (s, (get space key s).map .value)
  | .getAs type space key => (s, (getAs type space key s).map .value)
  | .set space key v => change s id (fun _ ↦ .done) (set space key v s)
  | .erase space key => change s (·.1) (fun a ↦ .erased a.2) (erase space key s)
  | .clear space => change s (·.1) (fun a ↦ .cleared a.2) (clear space s)

/-- The store after calls made in turn. -/
def run (s : σ) (calls : List StoreCall) : σ := calls.foldl (fun s call ↦ (perform s call).1) s

/-- The answers to calls made in turn. -/
def answers (s : σ) : List StoreCall → List (Except Fault StoreReply)
  | [] => []
  | call :: rest => (perform s call).2 :: answers (perform s call).1 rest

end KeyValueStore

end MeshBridge
