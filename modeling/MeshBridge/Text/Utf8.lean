/-!
UTF-8 as a partial decoding of bytes. A refusal says where the text stops being well formed: the
index of the first byte of the bad sequence, and how many bytes of it could still have begun a
character. A sequence that the end of the input cuts short is told apart.
-/

set_option autoImplicit false
set_option relaxedAutoImplicit false

namespace MeshBridge.Utf8

/-- Why bytes are not UTF-8. -/
inductive Defect where
  /-- Some `length` bytes from `index` on begin no character. -/
  | invalid (length index : Nat)
  /-- The input ends inside the character that starts at `index`. -/
  | incomplete (index : Nat)
  deriving DecidableEq, Repr

def Defect.message : Defect → String
  | .invalid length index => s!"invalid utf-8 sequence of {length} bytes from index {index}"
  | .incomplete index => s!"incomplete utf-8 byte sequence from index {index}"

/-- What the first bytes of an input hold. -/
inductive Lead where
  /-- A whole character of the given number of bytes. -/
  | char (scalar length : Nat)
  /-- A sequence that fails after `length` bytes. -/
  | bad (length : Nat)
  /-- A sequence that needs more bytes than there are. -/
  | short
  deriving DecidableEq, Repr

def isTail (b : UInt8) : Bool := 0x80 ≤ b && b ≤ 0xBF

/-- The low six bits of a byte that continues a character. -/
def tailBits (b : UInt8) : Nat := b.toNat % 64

/-- The second bytes that may follow a lead byte of three or four bytes. The bounds keep out
overlong forms, surrogates and numbers past the last code point. -/
def allowedSecond (lead second : UInt8) : Bool :=
  if lead = 0xE0 then 0xA0 ≤ second && second ≤ 0xBF
  else if lead = 0xED then 0x80 ≤ second && second ≤ 0x9F
  else if lead = 0xF0 then 0x90 ≤ second && second ≤ 0xBF
  else if lead = 0xF4 then 0x80 ≤ second && second ≤ 0x8F
  else isTail second

def lead (b : UInt8) (rest : List UInt8) : Lead :=
  if b < 0x80 then .char b.toNat 1
  else if 0xC2 ≤ b && b ≤ 0xDF then
    match rest with
    | [] => .short
    | c :: _ => if isTail c then .char (b.toNat % 32 * 64 + tailBits c) 2 else .bad 1
  else if 0xE0 ≤ b && b ≤ 0xEF then
    match rest with
    | [] => .short
    | c :: rest =>
      if !allowedSecond b c then .bad 1
      else match rest with
        | [] => .short
        | d :: _ =>
          if isTail d then .char ((b.toNat % 16 * 64 + tailBits c) * 64 + tailBits d) 3 else .bad 2
  else if 0xF0 ≤ b && b ≤ 0xF4 then
    match rest with
    | [] => .short
    | c :: rest =>
      if !allowedSecond b c then .bad 1
      else match rest with
        | [] => .short
        | d :: rest =>
          if !isTail d then .bad 2
          else match rest with
            | [] => .short
            | e :: _ =>
              if isTail e then
                .char (((b.toNat % 8 * 64 + tailBits c) * 64 + tailBits d) * 64 + tailBits e) 4
              else .bad 3
  else .bad 1

/-- Decodes from the byte at `index` on; `skip` bytes belong to the character read last. -/
def decodeFrom : (index skip : Nat) → List UInt8 → Except Defect (List Char)
  | _, _, [] => .ok []
  | index, skip + 1, _ :: rest => decodeFrom (index + 1) skip rest
  | index, 0, b :: rest =>
    match lead b rest with
    | .char scalar length => (decodeFrom (index + 1) (length - 1) rest).map (Char.ofNat scalar :: ·)
    | .bad length => .error (.invalid length index)
    | .short => .error (.incomplete index)

def decode (bytes : List UInt8) : Except Defect String :=
  (decodeFrom 0 0 bytes).map String.ofList

/-- The bytes of a text. -/
def encode (text : String) : List UInt8 := text.toUTF8.toList

end MeshBridge.Utf8
