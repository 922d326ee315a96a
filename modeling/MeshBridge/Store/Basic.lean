import MeshBridge.Fault
import MeshBridge.Json.Record
import MeshBridge.Text.Quoted
/-!
Stores of settings that outlive a run: values under a namespace and a key. A store is any type with
the operations of `KeyValueStore`; reading a value as a type it does not have is a fault.
-/

set_option autoImplicit false
set_option relaxedAutoImplicit false

namespace MeshBridge

inductive StoredType where
  | str | u8 | u16 | u32
  deriving DecidableEq, Repr

namespace StoredType

def all : List StoredType := [str, u8, u16, u32]

/-- The name of a type in messages. -/
def name : StoredType → String
  | str => "str"
  | u8 => "u8"
  | u16 => "u16"
  | u32 => "u32"

/-- The name of a type in documents. -/
def tag : StoredType → String
  | str => "Str"
  | u8 => "U8"
  | u16 => "U16"
  | u32 => "U32"

end StoredType

/-- A value in a store. -/
inductive StoredValue where
  | str (text : String)
  | u8 (n : UInt8)
  | u16 (n : UInt16)
  | u32 (n : UInt32)
  deriving DecidableEq, Repr

namespace StoredValue

def type : StoredValue → StoredType
  | str _ => .str
  | u8 _ => .u8
  | u16 _ => .u16
  | u32 _ => .u32

/-- The value without its type. -/
def contents : StoredValue → Json
  | str text => .str text
  | u8 n => .int n.toNat
  | u16 n => .int n.toNat
  | u32 n => .int n.toNat

def toJson (v : StoredValue) : Json := .obj [(v.type.tag, v.contents)]

/-- Contents read as a value of a type. -/
def ofContents? (j : Json) : StoredType → Option StoredValue
  | .str => j.text?.map str
  | .u8 => j.uint8?.map u8
  | .u16 => j.uint16?.map u16
  | .u32 => j.uint32?.map u32

/-- Reads an object whose one key is the name of the type. -/
def ofJson? : Json → Option StoredValue
  | .obj [(tag, contents)] => (StoredType.all.find? (·.tag = tag)).bind (ofContents? contents)
  | _ => none

end StoredValue

/-- A store with states in `σ`. Every call may fail; a call that only reads leaves the state. -/
class KeyValueStore (σ : Type) where
  get : (space key : String) → σ → Except Fault (Option StoredValue)
  set : (space key : String) → StoredValue → σ → Except Fault σ
  /-- Removes a key and tells whether it was there. -/
  erase : (space key : String) → σ → Except Fault (σ × Bool)
  /-- Removes all keys of a namespace and counts them. -/
  clear : (space : String) → σ → Except Fault (σ × Nat)
  /-- Whether values outlive a run. -/
  isPersistent : σ → Bool

namespace KeyValueStore

variable {σ : Type}

/-- The value under a key, which must be of the given type. -/
def getAs [KeyValueStore σ] (type : StoredType) (space key : String) (s : σ) :
    Except Fault (Option StoredValue) := do
  match ← get space key s with
  | none => .ok none
  | some v =>
    if v.type = type then .ok (some v)
    else .error (.storage
      (space ++ ":" ++ key ++ " holds " ++ v.type.name ++ " not " ++ type.name))

def getUInt8 [KeyValueStore σ] (space key : String) (s : σ) : Except Fault (Option UInt8) := do
  match ← getAs .u8 space key s with
  | some (.u8 n) => .ok (some n)
  | _ => .ok none

def getUInt16 [KeyValueStore σ] (space key : String) (s : σ) : Except Fault (Option UInt16) := do
  match ← getAs .u16 space key s with
  | some (.u16 n) => .ok (some n)
  | _ => .ok none

/-- Refuses names that could not be told apart once they are joined by a colon. -/
def checkNames (space key : String) : Except Fault Unit :=
  if space.isEmpty ∨ key.isEmpty then .error (.invalidArgument "empty namespace or key")
  else if space.toList.contains ':' then
    .error (.invalidArgument ("namespace may not contain ':': " ++ space))
  else .ok ()

end KeyValueStore

end MeshBridge
