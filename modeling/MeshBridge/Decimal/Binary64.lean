/-!
The exact value of a binary floating-point number, as a sign, a natural mantissa and a power of two,
and the integer nearest to it. All arithmetic is on natural numbers.
-/

set_option autoImplicit false
set_option relaxedAutoImplicit false

namespace MeshBridge

/-- A floating-point number taken apart: `finite s m q` is `m * 2 ^ q`, negated if `s`. -/
inductive Binary64 where
  | nan
  | infinite (negative : Bool)
  | finite (negative : Bool) (mantissa : Nat) (exponent : Int)
  deriving DecidableEq, Repr

namespace Binary64

def ofFloat (x : Float) : Binary64 :=
  let bits := x.toBits.toNat
  let negative := Nat.pow 2 63 ≤ bits
  let exponent : Nat := bits / Nat.pow 2 52 % 2048
  let fraction := bits % Nat.pow 2 52
  if exponent = 2047 then
    if fraction = 0 then .infinite negative else .nan
  else if exponent = 0 then .finite negative fraction (-1074)
  else .finite negative (fraction + Nat.pow 2 52) ((exponent : Int) - 1075)

/-- The natural number nearest to `m * 2 ^ q`; a half goes up. -/
def roundNat (mantissa : Nat) : Int → Nat
  | .ofNat q => mantissa * Nat.pow 2 q
  | .negSucc q => (mantissa + Nat.pow 2 q) / Nat.pow 2 (q + 1)

/-- The integer nearest to a number, a half going away from zero; what lies outside the words of 64
bits goes to the nearer end of their range, and what is no number to zero. -/
def roundInt64 : Binary64 → Int64
  | .nan => 0
  | .infinite negative => if negative then Int64.minValue else Int64.maxValue
  | .finite negative mantissa exponent =>
    let n := roundNat mantissa exponent
    if negative then Int64.ofInt (max (-(n : Int)) Int64.minValue.toInt)
    else Int64.ofInt (min n Int64.maxValue.toInt)

end Binary64

end MeshBridge
