import MeshBridge.Json.Basic
import MeshBridge.Text.Hex
import MeshBridge.Text.Utf8
/-!
Reading JSON text from its bytes. The grammar is strict: one value, blanks around it, no leading
zeros, no raw controls in strings. A numeral is an integer if it has neither point nor exponent and
fits a word of 64 bits; otherwise it is taken as its leading digits, as many as fit such a word,
times a power of ten. Each function reads from the front of a list and returns what is left.
-/

set_option autoImplicit false
set_option relaxedAutoImplicit false

namespace MeshBridge.Json

def isBlank (b : UInt8) : Bool := b = 32 || b = 10 || b = 9 || b = 13

def isDigit (b : UInt8) : Bool := 48 ≤ b && b ≤ 57

def skipBlanks (bytes : List UInt8) : List UInt8 := bytes.dropWhile isBlank

/-! ### Numerals -/

/-- The parts of a numeral: the digits before and after the point, and the exponent. -/
structure Numeral where
  negative : Bool
  whole : List UInt8
  fraction : List UInt8
  /-- The sign and the digits of the exponent, if there is one. -/
  exponent : Option (Bool × List UInt8)
  deriving Repr

/-- At least one digit. -/
def digits (bytes : List UInt8) : Option (List UInt8 × List UInt8) :=
  match bytes.takeWhile isDigit with
  | [] => none
  | ds => some (ds, bytes.dropWhile isDigit)

def exponentPart (bytes : List UInt8) : Option (Option (Bool × List UInt8) × List UInt8) :=
  match bytes with
  | b :: rest =>
    if b = 101 ∨ b = 69 then
      let (negative, rest) := match rest with
        | 43 :: rest => (false, rest)
        | 45 :: rest => (true, rest)
        | rest => (false, rest)
      (digits rest).map fun (ds, rest) ↦ (some (negative, ds), rest)
    else some (none, bytes)
  | [] => some (none, bytes)

def fractionPart (bytes : List UInt8) : Option (List UInt8 × List UInt8) :=
  match bytes with
  | 46 :: rest => digits rest
  | _ => some ([], bytes)

def numeral (bytes : List UInt8) : Option (Numeral × List UInt8) := do
  let (negative, bytes) := match bytes with
    | 45 :: rest => (true, rest)
    | _ => (false, bytes)
  let (whole, bytes) ← digits bytes
  if whole.head? = some 48 ∧ whole.length ≠ 1 then none
  let (fraction, bytes) ← fractionPart bytes
  let (exponent, bytes) ← exponentPart bytes
  some (⟨negative, whole, fraction, exponent⟩, bytes)

def natOf (ds : List UInt8) : Nat := ds.foldl (fun n d ↦ n * 10 + (d.toNat - 48)) 0

/-- The digits of a numeral that a word of 64 bits can hold, with the power of ten they are to be
scaled by. The first digit before the point that no longer fits, and those after it, only count for
the power; after the point they do not count at all. -/
def significand (whole fraction : List UInt8) : Nat × Int :=
  let fits (n : Nat) (d : UInt8) := n * 10 + (d.toNat - 48) < UInt64.size
  let (n, dropped) := whole.foldl
    (fun (n, dropped) d ↦
      if dropped = 0 ∧ fits n d then (n * 10 + (d.toNat - 48), 0) else (n, dropped + 1)) (0, 0)
  let (n, scale, _) := fraction.foldl
    (fun (n, scale, more) d ↦
      if more ∧ fits n d then (n * 10 + (d.toNat - 48), scale - 1, true) else (n, scale, false))
    (n, (dropped : Int), true)
  (n, scale)

/-- Scales by steps of at most `10 ^ 308`, rounding at each; a result beyond every number is
refused. -/
def scaleBy (fuel : Nat) (x : Float) (exponent : Int) : Option Float :=
  match fuel with
  | 0 => some x
  | fuel + 1 =>
    if exponent.natAbs ≤ 308 then
      let power := Float.ofScientific 1 false exponent.natAbs
      let y := if 0 ≤ exponent then x * power else x / power
      if y.isInf then none else some y
    else if x == 0.0 then some x
    else if 0 ≤ exponent then none
    else scaleBy fuel (x / 1e308) (exponent + 308)

/-- The number a numeral stands for. A power of ten that no word of 32 bits holds makes it zero or
unreadable at once. -/
def Numeral.toJson (n : Numeral) : Json :=
  let integral := n.fraction.isEmpty && n.exponent.isNone
  let whole := natOf n.whole
  if integral && !n.negative && whole < UInt64.size then .int whole
  else if integral && n.negative && 0 < whole && Int64.minValue.toInt ≤ -whole then .int (-whole)
  else
    let signed (x : Float) : Json := .real (if n.negative then -x else x)
    let (m, scale) := significand n.whole n.fraction
    let start := m.toUInt64.toFloat
    let scaled (exponent : Int) : Json := match scaleBy 8 start exponent with
      | some x => signed x
      | none => .unreadable
    match n.exponent with
    | none => scaled scale
    | some (down, ds) =>
      let e := natOf ds
      if Int32.maxValue.toInt < e then
        if m ≠ 0 ∧ !down then .unreadable else signed 0.0
      else scaled (if down then scale - e else scale + e)

/-! ### Strings -/

/-- A part of a string: a byte of its text, or a code unit written as an escape. -/
inductive Piece where
  | byte (b : UInt8)
  | codeUnit (n : Nat)
  deriving Repr

def utf8Of (scalar : Nat) : List UInt8 := Utf8.encode (String.singleton (Char.ofNat scalar))

/-- The bytes that the pieces stand for; nothing if half a surrogate pair stands alone. -/
def bytesOfPieces : List Piece → Option (List UInt8)
  | [] => some []
  | .byte b :: rest => (bytesOfPieces rest).map (b :: ·)
  | .codeUnit n :: rest =>
    if 0xDC00 ≤ n ∧ n < 0xE000 then none
    else if 0xD800 ≤ n ∧ n < 0xDC00 then
      match rest with
      | .codeUnit low :: rest =>
        if 0xDC00 ≤ low ∧ low < 0xE000 then
          (bytesOfPieces rest).map
            (utf8Of (0x10000 + (n - 0xD800) * 0x400 + (low - 0xDC00)) ++ ·)
        else none
      | _ => none
    else (bytesOfPieces rest).map (utf8Of n ++ ·)

/-- The text that the pieces stand for, if it is one. -/
def textOfPieces (pieces : List Piece) : Option String :=
  (bytesOfPieces pieces).bind fun bytes ↦ (Utf8.decode bytes).toOption

/-- The text of a key. Only digits written plainly make a numeral of it: one with a digit written as
an escape keeps a backslash in front. -/
def keyOfPieces (pieces : List Piece) : Option String :=
  let escaped := pieces.any fun
    | .codeUnit _ => true
    | .byte _ => false
  (textOfPieces pieces).map fun text ↦
    if escaped ∧ text.toList.all Char.isDigit then "\\" ++ text else text

/-- The short escapes. -/
def shortEscape? (b : UInt8) : Option UInt8 :=
  if b = 34 then some 34
  else if b = 92 then some 92
  else if b = 47 then some 47
  else if b = 98 then some 8
  else if b = 102 then some 12
  else if b = 110 then some 10
  else if b = 114 then some 13
  else if b = 116 then some 9
  else none

def hexOf (bytes : List UInt8) : Option Nat := Hex.value? (bytes.map fun b ↦ Char.ofNat b.toNat)

/-- The pieces of a string up to its closing quote. -/
def stringBody : List UInt8 → Option (List Piece × List UInt8)
  | [] => none
  | 34 :: rest => some ([], rest)
  | 92 :: 117 :: a :: b :: c :: d :: rest => do
    let n ← hexOf [a, b, c, d]
    let (pieces, rest) ← stringBody rest
    some (.codeUnit n :: pieces, rest)
  | 92 :: b :: rest => do
    let e ← shortEscape? b
    let (pieces, rest) ← stringBody rest
    some (.byte e :: pieces, rest)
  | b :: rest =>
    if b < 32 ∨ b = 92 then none
    else (stringBody rest).map fun (pieces, rest) ↦ (.byte b :: pieces, rest)

/-! ### Values -/

/-- Levels of nesting that can be read. -/
def maxDepth : Nat := 127

def word (text : String) (value : Json) (bytes : List UInt8) : Option (Json × List UInt8) :=
  let w := Utf8.encode text
  if w.isPrefixOf bytes then some (value, bytes.drop w.length) else none

/-- An object; one with an unreadable key is unreadable as a whole. -/
def ofFields (fields : List (Option String × Json)) : Json :=
  match fields.mapM fun (key, value) ↦ key.map (·, value) with
  | some fields => .obj fields
  | none => .unreadable

mutual

/-- One value, blanks before it being skipped. Every call uses up a byte, so the length of the text
is fuel enough. -/
def value (fuel depth : Nat) (bytes : List UInt8) : Option (Json × List UInt8) :=
  match fuel with
  | 0 => none
  | fuel + 1 =>
    match skipBlanks bytes with
    | [] => none
    | b :: rest =>
      if b = 34 then
        (stringBody rest).map fun (pieces, rest) ↦
          ((textOfPieces pieces).elim .unreadable .str, rest)
      else if b = 91 then do
        let (items, rest) ← items fuel (depth + 1) true rest
        some (if depth < maxDepth then .arr items else .unreadable, rest)
      else if b = 123 then do
        let (fields, rest) ← fields fuel (depth + 1) true rest
        some (if depth < maxDepth then ofFields fields else .unreadable, rest)
      else if b = 110 then word "null" .null (b :: rest)
      else if b = 116 then word "true" (.bool true) (b :: rest)
      else if b = 102 then word "false" (.bool false) (b :: rest)
      else (numeral (b :: rest)).map fun (n, rest) ↦ (n.toJson, rest)

/-- The items of an array up to its bracket; `first` while none has been read. -/
def items (fuel depth : Nat) (first : Bool) (bytes : List UInt8) :
    Option (List Json × List UInt8) :=
  match fuel with
  | 0 => none
  | fuel + 1 =>
    match skipBlanks bytes with
    | [] => none
    | b :: rest =>
      if b = 93 then some ([], rest)
      else do
        let bytes ← if first then some (b :: rest) else if b = 44 then some rest else none
        let (item, bytes) ← value fuel depth bytes
        let (more, bytes) ← items fuel depth false bytes
        some (item :: more, bytes)

/-- The fields of an object up to its brace, keys that stand for no text being marked. -/
def fields (fuel depth : Nat) (first : Bool) (bytes : List UInt8) :
    Option (List (Option String × Json) × List UInt8) :=
  match fuel with
  | 0 => none
  | fuel + 1 =>
    match skipBlanks bytes with
    | [] => none
    | b :: rest =>
      if b = 125 then some ([], rest)
      else do
        let bytes ← if first then some (b :: rest) else if b = 44 then some (skipBlanks rest)
          else none
        match bytes with
        | 34 :: bytes =>
          let (key, bytes) ← stringBody bytes
          match skipBlanks bytes with
          | 58 :: bytes =>
            let (item, bytes) ← value fuel depth bytes
            let (more, bytes) ← fields fuel depth false bytes
            some ((keyOfPieces key, item) :: more, bytes)
          | _ => none
        | _ => none

end

/-- The value of a whole text. -/
def ofBytes? (bytes : List UInt8) : Option Json := do
  let (value, rest) ← value (bytes.length + 1) 0 bytes
  if (skipBlanks rest).isEmpty then some value else none

def ofText? (text : String) : Option Json := ofBytes? (Utf8.encode text)

end MeshBridge.Json
