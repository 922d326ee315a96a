/-!
JSON values. A document may hold scalars that are well formed and yet stand for nothing: a numeral
beyond every number, a text with half a surrogate pair, a nesting too deep to be read. Such a value
may be passed over, so it is kept as `unreadable`, and only reading it fails.
-/

set_option autoImplicit false
set_option relaxedAutoImplicit false

namespace MeshBridge

/-- A JSON value. Fields keep the order and the repetitions of the text. -/
inductive Json where
  | null
  | bool (b : Bool)
  | int (n : Int)
  | real (x : Float)
  | unreadable
  | str (text : String)
  | arr (items : List Json)
  | obj (fields : List (String × Json))
  deriving Inhabited

namespace Json

mutual

/-- Whether every part of a value can be read. -/
def readable : Json → Bool
  | .unreadable => false
  | .arr items => readableAll items
  | .obj fields => readableFields fields
  | _ => true

def readableAll : List Json → Bool
  | [] => true
  | item :: rest => item.readable && readableAll rest

def readableFields : List (String × Json) → Bool
  | [] => true
  | (_, value) :: rest => value.readable && readableFields rest

end

/-- The first value under a key. -/
def field? (key : String) : Json → Option Json
  | .obj fields => (fields.find? (·.1 = key)).map (·.2)
  | _ => none

def ofOption {α : Type} (write : α → Json) : Option α → Json
  | none => .null
  | some a => write a

end Json

end MeshBridge
