import MeshBridge.Text.Hex
import MeshBridge.Toml.Basic
import MeshBridge.Toml.Datetime
/-!
Numbers, dates and truth values in settings documents, which stand there without quotes. Underscores
may stand between the digits of a number.
-/

set_option autoImplicit false
set_option relaxedAutoImplicit false

namespace MeshBridge.Toml

open Decimal (isDigit)

/-- Digits between which single underscores may stand, without them. -/
def digits? (isDigit : Char → Bool) : List Char → Option (List Char)
  | [] => none
  | [c] => if isDigit c then some [c] else none
  | c :: '_' :: rest => if isDigit c then (digits? isDigit rest).map (c :: ·) else none
  | c :: rest => if isDigit c then (digits? isDigit rest).map (c :: ·) else none

/-- Whether decimal digits are the standard form of a number: none, or no zero, in front. -/
def isStandard : List Char → Bool
  | '0' :: _ :: _ => false
  | _ => true

/-- The sign of a number, and what follows it. -/
def sign : List Char → Bool × List Char
  | '-' :: rest => (true, rest)
  | '+' :: rest => (false, rest)
  | all => (false, all)

/-- The number denoted by digits to a base. -/
def natOfBase (base : Nat) (digits : List Char) : Nat :=
  digits.foldl (fun n c ↦ n * base + (Hex.digitValue? c).getD 0) 0

def isBaseDigit (base : Nat) (c : Char) : Bool := (Hex.digitValue? c).any (· < base)

/-- Integers are those of 64 bits. -/
def inRange (n : Int) : Option Int :=
  if Int64.minValue.toInt ≤ n ∧ n ≤ Int64.maxValue.toInt then some n else none

def integer? (word : List Char) : Option Int :=
  let based (base : Nat) (rest : List Char) : Option Int :=
    (digits? (isBaseDigit base) rest).bind fun ds ↦ inRange (natOfBase base ds)
  match word with
  | '0' :: 'x' :: rest => based 16 rest
  | '0' :: 'o' :: rest => based 8 rest
  | '0' :: 'b' :: rest => based 2 rest
  | word => do
    let (negative, rest) := sign word
    let ds ← digits? isDigit rest
    if isStandard rest then
      let n := natOfBase 10 ds
      inRange (if negative then -(n : Int) else n)
    else none

/-- The exponent of a number, from its mark on. -/
def exponent? : List Char → Option Int
  | [] => some 0
  | mark :: rest =>
    if mark = 'e' ∨ mark = 'E' then
      let (negative, rest) := sign rest
      (digits? isDigit rest).map fun ds ↦
        if negative then -(natOfBase 10 ds : Int) else natOfBase 10 ds
    else none

/-- A number with a fraction, an exponent or both, none of which may be too great. -/
def real? (word : List Char) : Option Float :=
  let (negative, rest) := sign word
  if rest = ['i', 'n', 'f'] then
    some (Float.ofBits (if negative then 0xFFF0000000000000 else 0x7FF0000000000000))
  else if rest = ['n', 'a', 'n'] then some (Float.ofBits 0x7FF8000000000000)
  else do
    let isPart (c : Char) := isDigit c || c = '_'
    let (whole, rest) := (rest.takeWhile isPart, rest.dropWhile isPart)
    let wholeDigits ← digits? isDigit whole
    if !isStandard whole || rest.isEmpty then none
    else
      let (fraction, rest) ← match rest with
        | '.' :: rest =>
          (digits? isDigit (rest.takeWhile isPart)).map (·, rest.dropWhile isPart)
        | rest => some ([], rest)
      let exponent ← exponent? rest
      let x := Decimal.nearest negative (natOfBase 10 (wholeDigits ++ fraction))
        (exponent - fraction.length)
      if x == Float.ofBits 0x7FF0000000000000 then none else some x

/-- The value of a word without quotes. -/
def scalarOf? (word : List Char) : Option Toml :=
  if word = "true".toList then some (.boolean true)
  else if word = "false".toList then some (.boolean false)
  else
    ((datetime? .bare word).map .datetime).or
      (((real? word).map .real).or ((integer? word).map .integer))

def isWordChar (c : Char) : Bool :=
  c.isAlphanum || c = '_' || c = '+' || c = '-' || c = '.' || c = ':'

/-- The longest word, and what follows it. A single blank may part a date from a time. -/
def word (cs : List Char) : List Char × List Char :=
  let first := cs.takeWhile isWordChar
  match (date? first).any (·.2.isEmpty), cs.dropWhile isWordChar with
  | true, ' ' :: rest =>
    match rest.takeWhile isWordChar with
    | [] => (first, ' ' :: rest)
    | second => (first ++ ' ' :: second, rest.dropWhile isWordChar)
  | _, rest => (first, rest)

end MeshBridge.Toml
