import MeshBridge.Address
import MeshBridge.Attribute.Value
import MeshBridge.Json.Record
/-!
Addresses and attribute values in JSON. An address is its text; a value is an object of its type and
its contents, or an array of the two. Each reader accepts what the writer beside it produces.
-/

set_option autoImplicit false
set_option relaxedAutoImplicit false

namespace MeshBridge

namespace Eui64

def toJson (a : Eui64) : Json := .str (toString a)

def ofJson? (j : Json) : Option Eui64 := j.text?.bind fun text ↦ (parse text).toOption

end Eui64

namespace CorrelationId

def toJson (c : CorrelationId) : Json := .int c.value.toNat

def ofJson? (j : Json) : Option CorrelationId := j.uint32?.map .mk

end CorrelationId

namespace AttributeType

def toJson (t : AttributeType) : Json := .str t.name

def ofJson? (origin : Json.Origin) (j : Json) : Option AttributeType :=
  (j.name? origin).bind ofName?

/-- The type at the head of an array: its name, or its number if the array was set aside. -/
def ofHead? (origin : Json.Origin) : Json → Option AttributeType
  | .str name => ofName? name
  | .int n => if origin = .setAside ∧ 0 ≤ n then all[n.toNat]? else none
  | _ => none

end AttributeType

namespace AttributeValue

/-- The contents of a value without its type. -/
def contents : AttributeValue → Json
  | bool b => .bool b
  | u8 n => .int n.toNat
  | u16 n => .int n.toNat
  | u32 n => .int n.toNat
  | i8 n => .int n.toInt
  | i16 n => .int n.toInt
  | i32 n => .int n.toInt
  | string text => .str text
  | array bytes => .arr (bytes.map fun b ↦ .int b.toNat)

def toJson (v : AttributeValue) : Json := .obj [("type", v.type.toJson), ("value", v.contents)]

/-- Contents read as a value of the given type. -/
def ofContents? (j : Json) : AttributeType → Option AttributeValue
  | .bool => j.bool?.map bool
  | .u8 => j.uint8?.map u8
  | .u16 => j.uint16?.map u16
  | .u32 => j.uint32?.map u32
  | .i8 => (j.within? Int8.minValue.toInt Int8.maxValue.toInt).map (i8 <| Int8.ofInt ·)
  | .i16 => (j.within? Int16.minValue.toInt Int16.maxValue.toInt).map (i16 <| Int16.ofInt ·)
  | .i32 => (j.within? Int32.minValue.toInt Int32.maxValue.toInt).map (i32 <| Int32.ofInt ·)
  | .string => j.text?.map string
  | .array => (j.list? Json.uint8?).map array

def ofJson? (origin : Json.Origin) : Json → Option AttributeValue
  | .arr [type, value] => do ofContents? value (← AttributeType.ofHead? origin type)
  | .arr _ => none
  | j => do
    let [type, value] ← j.record? ["type", "value"] | none
    ofContents? (← value) (← Json.required (AttributeType.ofJson? origin) type)

end AttributeValue

end MeshBridge
