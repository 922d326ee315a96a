import MeshBridge.Attribute.Value
import MeshBridge.Fault
import MeshBridge.LittleEndian
import MeshBridge.Text.Utf8
/-!
The form of attribute values on the air. Numbers are little-endian and of fixed width, signed ones
in two's complement; strings begin with a byte that holds their length, where the length 255 marks a
string that is absent. `Wire.encode` writes what `Wire.decode` reads.
-/

set_option autoImplicit false
set_option relaxedAutoImplicit false

namespace MeshBridge.Wire

/-- The encodings that are understood, by the number that names them on the air. -/
inductive Format where
  | boolean | bitmap8 | bitmap16 | uint8 | uint16 | uint32 | int8 | int16 | int32 | enum8
  | octetString | charString
  deriving DecidableEq, Repr

namespace Format

def code : Format → UInt8
  | boolean => 0x10
  | bitmap8 => 0x18
  | bitmap16 => 0x19
  | uint8 => 0x20
  | uint16 => 0x21
  | uint32 => 0x23
  | int8 => 0x28
  | int16 => 0x29
  | int32 => 0x2B
  | enum8 => 0x30
  | octetString => 0x41
  | charString => 0x42

def all : List Format :=
  [boolean, bitmap8, bitmap16, uint8, uint16, uint32, int8, int16, int32, enum8, octetString,
    charString]

def ofCode? (code : UInt8) : Option Format := all.find? (·.code = code)

end Format

def typeText (code : UInt8) : String := "ZCL type 0x" ++ Hex.padded .upper 2 code.toNat

/-- The number in exactly `width` bytes. -/
def fixed (code : UInt8) (width : Nat) (raw : List UInt8) : Except Fault Nat :=
  if raw.length = width then .ok (LittleEndian.decode raw)
  else .error (.invalidArgument
    (typeText code ++ " needs " ++ toString width ++ " bytes, got " ++ toString raw.length))

/-- The bytes announced by the first one. What follows them is not looked at. -/
def lengthPrefixed (code : UInt8) : List UInt8 → Except Fault (List UInt8)
  | [] => .error (.invalidArgument (typeText code ++ " missing length byte"))
  | length :: rest =>
    if length = 0xFF then .ok []
    else if length.toNat ≤ rest.length then .ok (rest.take length.toNat)
    else .error (.invalidArgument
      ("ZCL string declares " ++ toString length ++ " bytes, " ++ toString rest.length ++
        " available"))

def decodeBool (n : Nat) : Except Fault AttributeValue :=
  if n = 0 then .ok (.bool false)
  else if n = 1 then .ok (.bool true)
  else .error (.invalidArgument ("invalid ZCL boolean 0x" ++ Hex.padded .upper 2 n))

def decodeText (bytes : List UInt8) : Except Fault AttributeValue :=
  match Utf8.decode bytes with
  | .ok text => .ok (.string text)
  | .error defect => .error (.invalidArgument ("ZCL string not UTF-8: " ++ defect.message))

/-- The value that bytes hold in a format. -/
def decodeAs (format : Format) (raw : List UInt8) : Except Fault AttributeValue :=
  let code := format.code
  match format with
  | .boolean => (fixed code 1 raw).bind decodeBool
  | .bitmap8 | .uint8 | .enum8 => (fixed code 1 raw).map (.u8 ·.toUInt8)
  | .bitmap16 | .uint16 => (fixed code 2 raw).map (.u16 ·.toUInt16)
  | .uint32 => (fixed code 4 raw).map (.u32 ·.toUInt32)
  | .int8 => (fixed code 1 raw).map (.i8 ·.toUInt8.toInt8)
  | .int16 => (fixed code 2 raw).map (.i16 ·.toUInt16.toInt16)
  | .int32 => (fixed code 4 raw).map (.i32 ·.toUInt32.toInt32)
  | .octetString => (lengthPrefixed code raw).map .array
  | .charString => (lengthPrefixed code raw).bind decodeText

/-- The value of a report: the code of its format, and its bytes. -/
def decode (code : UInt8) (raw : List UInt8) : Except Fault AttributeValue :=
  match Format.ofCode? code with
  | some format => decodeAs format raw
  | none => .error (.invalidArgument
      ("unsupported ZCL data type 0x" ++ Hex.padded .upper 2 code.toNat))

/-- A length byte and the bytes it announces; 254 of them at most. -/
def announced (bytes : List UInt8) : Option (List UInt8) :=
  if bytes.length ≤ 254 then some (bytes.length.toUInt8 :: bytes) else none

/-- The bytes of a value in a format that carries it. -/
def encode : Format → AttributeValue → Option (List UInt8)
  | .boolean, .bool b => some [if b then 1 else 0]
  | .bitmap8, .u8 n | .uint8, .u8 n | .enum8, .u8 n => some [n]
  | .bitmap16, .u16 n | .uint16, .u16 n => some (LittleEndian.encode 2 n.toNat)
  | .uint32, .u32 n => some (LittleEndian.encode 4 n.toNat)
  | .int8, .i8 n => some (LittleEndian.encode 1 n.toUInt8.toNat)
  | .int16, .i16 n => some (LittleEndian.encode 2 n.toUInt16.toNat)
  | .int32, .i32 n => some (LittleEndian.encode 4 n.toUInt32.toNat)
  | .octetString, .array bytes => announced bytes
  | .charString, .string text => announced (Utf8.encode text)
  | _, _ => none

end MeshBridge.Wire
