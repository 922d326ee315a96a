import MeshBridge.Decimal.Shortest
/-!
How a floating-point number is laid out as text once its shortest digits are known. A layout says
which magnitudes are written positionally, whether a whole number keeps a point, and how the values
outside the reals are spelt. The three layouts below are those of messages, of JSON and of TOML.
-/

set_option autoImplicit false
set_option relaxedAutoImplicit false

namespace MeshBridge.Decimal

/-- The decisions of a text form for floating-point numbers. -/
structure Layout where
  tie : Tie
  /-- The power of ten of the first digit for which no exponent is written; every one, if absent. -/
  positional : Option (Int × Int)
  /-- Whether a whole number written positionally ends in `.0`. -/
  wholePoint : Bool
  nan : String
  /-- The text of an infinity, given whether it is negative. -/
  infinity : Bool → String

/-- Digits written positionally, `point` of them before the point. -/
def positionalText (wholePoint : Bool) (digits : List Char) (point : Int) : List Char :=
  match point with
  | .negSucc k => ['0', '.'] ++ List.replicate (k + 1) '0' ++ digits
  | .ofNat point =>
    if point = 0 then ['0', '.'] ++ digits
    else if digits.length ≤ point then
      digits ++ List.replicate (point - digits.length) '0' ++
        (if wholePoint then ['.', '0'] else [])
    else digits.take point ++ ['.'] ++ digits.drop point

/-- Digits written with one of them before the point and a signed power of ten. -/
def exponentText (digits : List Char) (exponent : Int) : List Char :=
  let fraction := match digits.drop 1 with
    | [] => []
    | rest => '.' :: rest
  digits.take 1 ++ fraction ++ ['e', if exponent < 0 then '-' else '+'] ++
    Nat.toDigits 10 exponent.natAbs

/-- The text of a number, zeros at the end of its digits dropped. -/
def Layout.text (layout : Layout) (x : Float) : String :=
  match Binary64.ofFloat x with
  | .nan => layout.nan
  | .infinite negative => layout.infinity negative
  | .finite negative mantissa exponent =>
    let sign := if negative then ['-'] else []
    let magnitude :=
      if mantissa = 0 then positionalText layout.wholePoint ['0'] 1
      else
        let s := shortest layout.tie mantissa exponent
        let all := Nat.toDigits 10 s.digits
        let point := all.length + s.exponent
        let digits := (all.reverse.dropWhile (· = '0')).reverse
        let plain := match layout.positional with
          | none => true
          | some (low, high) => low ≤ point - 1 && point - 1 ≤ high
        if plain then positionalText layout.wholePoint digits point
        else exponentText digits (point - 1)
    String.ofList (sign ++ magnitude)

/-- Numbers in messages are always positional and whole ones carry no point. -/
def plain : Layout where
  tie := .up
  positional := none
  wholePoint := false
  nan := "NaN"
  infinity := fun negative ↦ if negative then "-inf" else "inf"

/-- JSON has no text for what is no real number. -/
def json : Layout where
  tie := .even
  positional := some (-5, 15)
  wholePoint := true
  nan := "null"
  infinity := fun _ ↦ "null"

def toml : Layout where
  tie := .up
  positional := none
  wholePoint := true
  nan := "nan"
  infinity := fun negative ↦ if negative then "-inf" else "inf"

end MeshBridge.Decimal
