import MeshBridge.Fault
/-!
Device addresses and command identifiers. A device has one global address of 64 bits for life and a
network address of 16 bits that the network may give to another device later.
-/

set_option autoImplicit false
set_option relaxedAutoImplicit false

namespace MeshBridge

/-- The short address of a device in its network. -/
abbrev NetworkAddress := UInt16

/-- The number under which the radio stack will confirm a request. It wraps after 255. -/
abbrev SequenceNumber := UInt8

/-- The global address of a device. -/
structure Eui64 where
  value : UInt64
  deriving DecidableEq, Repr, Inhabited

namespace Eui64

instance : Ord Eui64 := ⟨compareOn Eui64.value⟩

instance : Std.TransOrd Eui64 := inferInstanceAs (Std.TransCmp (compareOn Eui64.value))

instance : Std.LawfulEqOrd Eui64 where
  eq_of_compare {a b} h := by
    have : a.value = b.value := Std.LawfulEqOrd.eq_of_compare h
    cases a; cases b; cases this; rfl

/-- The sixteen lower-case digits used in topics. -/
def hex (a : Eui64) : String := String.ofList (Hex.fixed .lower 16 a.value.toNat)

instance : ToString Eui64 :=
  ⟨fun a ↦ "0x" ++ String.ofList (Hex.fixed .upper 16 a.value.toNat)⟩

/-- The text without a leading `0x` or `0X`. -/
def stripMark : List Char → List Char
  | '0' :: 'x' :: rest => rest
  | '0' :: 'X' :: rest => rest
  | all => all

/-- The number of at least one hexadecimal digit, before which one `+` may stand. -/
def numeral? (cs : List Char) : Option Nat :=
  let digits := match cs with
    | '+' :: rest => rest
    | all => all
  if digits.isEmpty then none else Hex.value? digits

/-- Reads an address of at most sixteen bytes after its mark. -/
def parse (text : String) : Except Fault Eui64 :=
  let body := stripMark text.toList
  let refused : Except Fault Eui64 := .error (.invalidArgument ("bad EUI-64: " ++ text))
  if 16 < (String.ofList body).utf8ByteSize then refused
  else match numeral? body with
    | some n => .ok ⟨n.toUInt64⟩
    | none => refused

end Eui64

/-- The token under which the outcome of a command is announced. -/
structure CorrelationId where
  value : UInt32
  deriving DecidableEq, Repr, Inhabited

instance : ToString CorrelationId := ⟨fun c ↦ "#" ++ toString c.value⟩

end MeshBridge
