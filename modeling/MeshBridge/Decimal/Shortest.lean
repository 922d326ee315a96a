import MeshBridge.Decimal.Binary64
/-!
The shortest decimal that reads back as a given floating-point number. A number stands for the
interval of reals that round to it; on the grids of one, two, … significant digits the first grid
with a point in that interval is taken, and on it the point nearest to the number.
-/

set_option autoImplicit false
set_option relaxedAutoImplicit false

namespace MeshBridge.Decimal

/-- `digits * 10 ^ exponent`. -/
structure Scientific where
  digits : Nat
  exponent : Int
  deriving DecidableEq, Repr

/-- What is taken of two grid points that are equally near. -/
inductive Tie where
  | up
  | even
  deriving DecidableEq, Repr

/-- The reals that round to a number, over one common denominator. -/
structure Interval where
  low : Nat
  value : Nat
  high : Nat
  denominator : Nat
  /-- Whether the ends belong to it. -/
  closed : Bool
  deriving Repr

/-- The interval of `m * 2 ^ q`. It reaches half a step to either side, and a quarter below a power
of two, where the steps get smaller; its ends round to the number when the mantissa is even. -/
def Interval.of (mantissa : Nat) (exponent : Int) : Interval :=
  let below := if mantissa = Nat.pow 2 52 ∧ -1074 < exponent then 1 else 2
  let scaled : Interval :=
    { low := 4 * mantissa - below, value := 4 * mantissa, high := 4 * mantissa + 2
      denominator := 1, closed := mantissa % 2 = 0 }
  match exponent - 2 with
  | .ofNat k =>
    { scaled with
      low := scaled.low * Nat.pow 2 k, value := scaled.value * Nat.pow 2 k
      high := scaled.high * Nat.pow 2 k }
  | .negSucc k => { scaled with denominator := Nat.pow 2 (k + 1) }

/-- The interval in units of `10 ^ p`. -/
def Interval.inUnits (i : Interval) : Int → Interval
  | .ofNat p => { i with denominator := i.denominator * Nat.pow 10 p }
  | .negSucc p =>
    { i with
      low := i.low * Nat.pow 10 (p + 1), value := i.value * Nat.pow 10 (p + 1)
      high := i.high * Nat.pow 10 (p + 1) }

def Interval.contains (i : Interval) (n : Nat) : Bool :=
  let x := n * i.denominator
  if i.closed then i.low ≤ x && x ≤ i.high else i.low < x && x < i.high

/-- The grid point of the interval that is nearest to its number, if there is one. -/
def Interval.nearest (i : Interval) (tie : Tie) : Option Nat :=
  let below := i.value / i.denominator
  let rest := i.value % i.denominator
  match i.contains below, i.contains (below + 1) with
  | false, false => none
  | true, false => some below
  | false, true => some (below + 1)
  | true, true =>
    if 2 * rest < i.denominator then some below
    else if i.denominator < 2 * rest then some (below + 1)
    else match tie with
      | .up => some (below + 1)
      | .even => some (if below % 2 = 0 then below else below + 1)

/-- Digits before the point of the number, which is negative for small fractions: the number lies
between `10 ^ (n - 1)` and `10 ^ n`. -/
def Interval.magnitude (i : Interval) : Int :=
  let shift : Nat := 330
  (Nat.toDigits 10 (i.value * Nat.pow 10 shift / i.denominator)).length - (shift : Int)

/-- The first grid with a point in the interval, from `10 ^ unit` on downwards. -/
def Interval.search (i : Interval) (tie : Tie) : (fuel : Nat) → (unit : Int) → Scientific
  | 0, unit => ⟨(i.inUnits unit).value / (i.inUnits unit).denominator, unit⟩
  | fuel + 1, unit =>
    match (i.inUnits unit).nearest tie with
    | some digits => ⟨digits, unit⟩
    | none => i.search tie fuel (unit - 1)

/-- The shortest decimal for `m * 2 ^ q`, which must be a positive floating-point number. Seventeen
digits always suffice. -/
def shortest (tie : Tie) (mantissa : Nat) (exponent : Int) : Scientific :=
  let i := Interval.of mantissa exponent
  i.search tie 17 (i.magnitude - 1)

end MeshBridge.Decimal
