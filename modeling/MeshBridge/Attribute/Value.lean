import MeshBridge.Text.Quoted
/-!
Typed attribute values. A value carries its type, and there is no untyped view of it.
-/

set_option autoImplicit false
set_option relaxedAutoImplicit false

namespace MeshBridge

/-- The type of an attribute. -/
inductive AttributeType where
  | bool | u8 | u16 | u32 | i8 | i16 | i32 | string | array
  deriving DecidableEq, Repr, Inhabited

namespace AttributeType

def all : List AttributeType := [bool, u8, u16, u32, i8, i16, i32, string, array]

/-- The name of a type in documents. -/
def name : AttributeType → String
  | bool => "bool"
  | u8 => "u8"
  | u16 => "u16"
  | u32 => "u32"
  | i8 => "i8"
  | i16 => "i16"
  | i32 => "i32"
  | string => "string"
  | array => "array"

/-- The name of a type in messages. -/
def label : AttributeType → String
  | bool => "Bool"
  | u8 => "U8"
  | u16 => "U16"
  | u32 => "U32"
  | i8 => "I8"
  | i16 => "I16"
  | i32 => "I32"
  | string => "String"
  | array => "Array"

def ofName? (name : String) : Option AttributeType := all.find? (·.name = name)

def isInteger : AttributeType → Bool
  | bool | string | array => false
  | _ => true

end AttributeType

/-- A value of an attribute. -/
inductive AttributeValue where
  | bool (b : Bool)
  | u8 (n : UInt8)
  | u16 (n : UInt16)
  | u32 (n : UInt32)
  | i8 (n : Int8)
  | i16 (n : Int16)
  | i32 (n : Int32)
  | string (text : String)
  | array (bytes : List UInt8)
  deriving DecidableEq, Repr, Inhabited

namespace AttributeValue

def type : AttributeValue → AttributeType
  | bool _ => .bool
  | u8 _ => .u8
  | u16 _ => .u16
  | u32 _ => .u32
  | i8 _ => .i8
  | i16 _ => .i16
  | i32 _ => .i32
  | string _ => .string
  | array _ => .array

/-- The value of an attribute that was declared and not reported yet. -/
def zero : AttributeType → AttributeValue
  | .bool => bool false
  | .u8 => u8 0
  | .u16 => u16 0
  | .u32 => u32 0
  | .i8 => i8 0
  | .i16 => i16 0
  | .i32 => i32 0
  | .string => string ""
  | .array => array []

@[simp] theorem type_zero (t : AttributeType) : (zero t).type = t := by cases t <;> rfl

def bool? : AttributeValue → Option Bool
  | bool b => some b
  | _ => none

/-- The number in a value of any integer type. -/
def int? : AttributeValue → Option Int
  | u8 n => some n.toNat
  | u16 n => some n.toNat
  | u32 n => some n.toNat
  | i8 n => some n.toInt
  | i16 n => some n.toInt
  | i32 n => some n.toInt
  | _ => none

def text? : AttributeValue → Option String
  | string text => some text
  | _ => none

def bytes? : AttributeValue → Option (List UInt8)
  | array bytes => some bytes
  | _ => none

instance : ToString AttributeValue where
  toString
    | bool b => toString b
    | u8 n => toString n
    | u16 n => toString n
    | u32 n => toString n
    | i8 n => toString n
    | i16 n => toString n
    | i32 n => toString n
    | string text => Text.quoted text
    | array bytes => "[" ++ toString bytes.length ++ " bytes]"

end AttributeValue

end MeshBridge
