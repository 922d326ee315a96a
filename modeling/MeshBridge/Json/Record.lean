import MeshBridge.Json.Basic
/-!
Rules by which JSON values are read as data. A record is an object, in which unknown fields are
passed over and no known field may occur twice, or an array of its fields in order. A choice carries
its name in a field of its own or as the first item of an array. An integer reads as a
floating-point number, never the other way round.
-/

set_option autoImplicit false
set_option relaxedAutoImplicit false

namespace MeshBridge.Json

def bool? : Json → Option Bool
  | .bool b => some b
  | _ => none

def text? : Json → Option String
  | .str text => some text
  | _ => none

def int? : Json → Option Int
  | .int n => some n
  | _ => none

/-- An integer from zero up to before `bound`. -/
def nat? (bound : Nat) (j : Json) : Option Nat :=
  j.int?.bind fun n ↦ if 0 ≤ n ∧ n < bound then some n.toNat else none

/-- An integer from `least` to `greatest`. -/
def within? (least greatest : Int) (j : Json) : Option Int :=
  j.int?.filter fun n ↦ least ≤ n ∧ n ≤ greatest

def uint8? (j : Json) : Option UInt8 := (j.nat? UInt8.size).map Nat.toUInt8

def uint16? (j : Json) : Option UInt16 := (j.nat? UInt16.size).map Nat.toUInt16

def uint32? (j : Json) : Option UInt32 := (j.nat? UInt32.size).map Nat.toUInt32

def int64? (j : Json) : Option Int64 :=
  (j.within? Int64.minValue.toInt Int64.maxValue.toInt).map Int64.ofInt

def float? : Json → Option Float
  | .int n => some (Float.ofInt n)
  | .real x => some x
  | _ => none

def list? {α : Type} (read : Json → Option α) : Json → Option (List α)
  | .arr items => items.mapM read
  | _ => none

/-- `null` reads as nothing. -/
def nullable? {α : Type} (read : Json → Option α) : Json → Option (Option α)
  | .null => some none
  | j => (read j).map some

/-- The values of the named fields, in the order of the names. -/
def record? (names : List String) : Json → Option (List (Option Json))
  | .arr items =>
    if items.length ≤ names.length then
      some (items.map some ++ List.replicate (names.length - items.length) none)
    else none
  | .obj fields =>
    names.mapM fun name ↦
      match fields.filter (·.1 = name) with
      | [] => some none
      | [(_, value)] => some (some value)
      | _ => none
  | _ => none

/-- Reads a field that must be there. -/
def required {α : Type} (read : Json → Option α) (field : Option Json) : Option α :=
  field.bind read

/-- Reads a field that has a default. -/
def orElse {α : Type} (default : α) (read : Json → Option α) : Option Json → Option α
  | none => some default
  | some j => read j

/-- Where a value was taken from. It decides what may stand beside a bare name that is written as
the one field of an object. -/
inductive Origin where
  | json
  | toml
  /-- A part of a choice, set aside until the name of the choice was known. -/
  | setAside
  deriving DecidableEq, Repr

def Origin.isUnit : Origin → Json → Bool
  | .json, .null => true
  | .toml, .obj [] => true
  | .toml, .arr [] => true
  | .setAside, .null => true
  | .setAside, .obj [] => true
  | _, _ => false

/-- A bare name. -/
def name? (origin : Origin) : Json → Option String
  | .str name => some name
  | .obj [(name, value)] => if origin.isUnit value then some name else none
  | _ => none

/-- A choice whose name stands among its fields: the name, and the fields without it. All of them
have to be readable, as they are set aside before the name is known. -/
def tagged? (tag : String) : Json → Option (String × Json)
  | .arr (name :: rest) =>
    if readableAll rest then name.text?.map (·, .arr rest) else none
  | .obj fields =>
    match fields.partition (·.1 = tag) with
    | ([(_, name)], rest) =>
      if readableFields rest then name.text?.map (·, .obj rest) else none
    | _ => none
  | _ => none

end MeshBridge.Json
