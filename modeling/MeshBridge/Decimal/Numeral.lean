/-!
Decimal numerals as they occur in settings, keys and documents: runs of digits, and the number
nearest to a decimal fraction with an exponent.
-/

set_option autoImplicit false
set_option relaxedAutoImplicit false

namespace MeshBridge.Decimal

def isDigit (c : Char) : Bool := 48 ≤ c.toNat && c.toNat ≤ 57

/-- The number that a run of decimal digits denotes, whatever else stands in it being refused. -/
def natOfDigits? (digits : List Char) : Option Nat :=
  digits.foldlM (fun acc c ↦ if isDigit c then some (acc * 10 + (c.toNat - 48)) else none) 0

/-- A natural number below `bound`: one sign `+` is allowed, and at least one digit is needed. -/
def unsigned? (bound : Nat) (text : String) : Option Nat :=
  let digits := match text.toList with
    | '+' :: rest => rest
    | all => all
  match digits with
  | [] => none
  | digits => (natOfDigits? digits).filter (· < bound)

/-- The floating-point number nearest to `digits * 10 ^ exponent`. Beyond the bounds on the exponent
the answer no longer depends on it. -/
def nearest (negative : Bool) (digits : Nat) (exponent : Int) : Float :=
  let magnitude : Float :=
    if digits = 0 then 0.0
    else
      let size := (Nat.toDigits 10 digits).length
      if 400 < exponent + size then Float.ofBits 0x7FF0000000000000
      else if exponent + size < -400 then 0.0
      else match exponent with
        | .ofNat e => Float.ofScientific digits false e
        | .negSucc e => Float.ofScientific digits true (e + 1)
  if negative then -magnitude else magnitude

/-- Splits a list at its first element that fails the test. -/
def span (p : Char → Bool) (cs : List Char) : List Char × List Char :=
  (cs.takeWhile p, cs.dropWhile p)

/-- Reads a decimal number: an optional sign, digits with at most one point among or beside them,
and an optional exponent. The words `inf`, `infinity` and `nan` are read in any case. -/
def float? (text : String) : Option Float :=
  let (negative, body) := match text.toList with
    | '-' :: rest => (true, rest)
    | '+' :: rest => (false, rest)
    | all => (false, all)
  let word := (String.ofList body).map Char.toLower
  if word = "inf" ∨ word = "infinity" then
    some (Float.ofBits (if negative then 0xFFF0000000000000 else 0x7FF0000000000000))
  else if word = "nan" then some (Float.ofBits 0x7FF8000000000000)
  else
    let (whole, rest) := span isDigit body
    let (fraction, rest) := match rest with
      | '.' :: rest => span isDigit rest
      | rest => ([], rest)
    let exponent? : Option Int := match rest with
      | [] => some 0
      | mark :: rest =>
        if mark = 'e' ∨ mark = 'E' then
          let (minus, digits) := match rest with
            | '-' :: rest => (true, rest)
            | '+' :: rest => (false, rest)
            | all => (false, all)
          match digits with
          | [] => none
          | digits => (natOfDigits? digits).map fun (n : Nat) ↦ if minus then -(n : Int) else n
        else none
    match whole ++ fraction, exponent? with
    | [], _ => none
    | _, none => none
    | digits, some exponent =>
      (natOfDigits? digits).map fun n ↦ nearest negative n (exponent - fraction.length)

end MeshBridge.Decimal
