import MeshBridge.LittleEndian
import MeshBridge.Store.Basic
import MeshBridge.Text.Utf8
/-!
A store over a flat table of bytes. Namespace and key are joined by a colon; a value is the number
of its type in four bytes and its contents, integers with the low byte first and texts after their
length in eight bytes.
-/

set_option autoImplicit false
set_option relaxedAutoImplicit false

namespace MeshBridge

namespace StoredValue

/-- The number of a type in front of the contents. -/
def typeIndex : StoredType → Nat
  | .str => 0
  | .u8 => 1
  | .u16 => 2
  | .u32 => 3

def contentBytes : StoredValue → List UInt8
  | str text => LittleEndian.encode 8 (Utf8.encode text).length ++ Utf8.encode text
  | u8 n => LittleEndian.encode 1 n.toNat
  | u16 n => LittleEndian.encode 2 n.toNat
  | u32 n => LittleEndian.encode 4 n.toNat

def toBytes (v : StoredValue) : List UInt8 :=
  LittleEndian.encode 4 (typeIndex v.type) ++ v.contentBytes

/-- The number in the first `size` bytes, and the bytes after it. -/
def number? (size : Nat) (bytes : List UInt8) : Option (Nat × List UInt8) :=
  if bytes.length < size then none
  else some (LittleEndian.decode (bytes.take size), bytes.drop size)

/-- Reads what `toBytes` writes, whatever follows it. -/
def ofBytes? (bytes : List UInt8) : Option StoredValue := do
  let (index, rest) ← number? 4 bytes
  match ← StoredType.all.find? (typeIndex · = index) with
  | .str =>
    let (size, rest) ← number? 8 rest
    if rest.length < size then none
    else (Utf8.decode (rest.take size)).toOption.map str
  | .u8 => (number? 1 rest).map fun (n, _) ↦ u8 n.toUInt8
  | .u16 => (number? 2 rest).map fun (n, _) ↦ u16 n.toUInt16
  | .u32 => (number? 4 rest).map fun (n, _) ↦ u32 n.toUInt32

end StoredValue

/-- Bytes under joined names, each name once. -/
structure FlatStore where
  rows : List (String × List UInt8)
  /-- Whether the table is kept in a file. -/
  inFile : Bool
  deriving DecidableEq, Repr

namespace FlatStore

open KeyValueStore (checkNames)

def empty (inFile : Bool) : FlatStore := ⟨[], inFile⟩

instance : Inhabited FlatStore := ⟨empty false⟩

def joined (space key : String) : String := space ++ ":" ++ key

def row? (s : FlatStore) (name : String) : Option (List UInt8) := s.rows.lookup name

def withoutRow (s : FlatStore) (name : String) : FlatStore :=
  { s with rows := s.rows.filter (·.1 ≠ name) }

def putRow (s : FlatStore) (name : String) (bytes : List UInt8) : FlatStore :=
  { s with rows := (name, bytes) :: (s.withoutRow name).rows }

/-- The value in a row, whose bytes may not be those of one. -/
def read (bytes : List UInt8) : Except Fault StoredValue :=
  match StoredValue.ofBytes? bytes with
  | some v => .ok v
  | none => .error (.serialization "not a stored value")

/-- Refuses a namespace that no key can be in. -/
def checkSpace (space : String) : Except Fault Unit :=
  if space.isEmpty ∨ space.toList.contains ':' then
    .error (.invalidArgument ("bad namespace: " ++ Text.quoted space))
  else .ok ()

instance : KeyValueStore FlatStore where
  get space key s := do
    checkNames space key
    match s.row? (joined space key) with
    | none => .ok none
    | some bytes => (read bytes).map some
  set space key v s :=
    (checkNames space key).map fun _ ↦ s.putRow (joined space key) v.toBytes
  erase space key s :=
    (checkNames space key).map fun _ ↦
      (s.withoutRow (joined space key), (s.row? (joined space key)).isSome)
  clear space s := do
    checkSpace space
    let kept := s.rows.filter fun row ↦ !(joined space "").toList.isPrefixOf row.1.toList
    .ok ({ s with rows := kept }, s.rows.length - kept.length)
  isPersistent s := s.inFile

end FlatStore

end MeshBridge
