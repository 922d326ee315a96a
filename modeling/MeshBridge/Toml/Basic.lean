import MeshBridge.Json.Basic
/-!
Values of settings documents. A table that was just read holds its entries in the order in which the
document has them.
-/

set_option autoImplicit false
set_option relaxedAutoImplicit false

namespace MeshBridge

inductive Toml where
  | text (text : String)
  | integer (n : Int)
  | real (x : Float)
  | boolean (b : Bool)
  /-- A date, a time or both, in its usual form. -/
  | datetime (text : String)
  | array (items : List Toml)
  | table (entries : List (String × Toml))
  deriving Inhabited

namespace Toml

def isTable : Toml → Bool
  | table _ => true
  | _ => false

/-- The first value under a key. -/
def field? (key : String) : Toml → Option Toml
  | table entries => (entries.find? (·.1 = key)).map (·.2)
  | _ => none

mutual

/-- The value as JSON, dates and times in a form given by `date`. -/
def toJsonWith (date : String → Json) : Toml → Json
  | text s => .str s
  | .integer n => .int n
  | .real x => .real x
  | .boolean b => .bool b
  | datetime s => date s
  | .array items => .arr (itemsToJson date items)
  | .table entries => .obj (entriesToJson date entries)

def itemsToJson (date : String → Json) : List Toml → List Json
  | [] => []
  | item :: rest => item.toJsonWith date :: itemsToJson date rest

def entriesToJson (date : String → Json) : List (String × Toml) → List (String × Json)
  | [] => []
  | (key, value) :: rest => (key, value.toJsonWith date) :: entriesToJson date rest

end

/-- The one key of a table that stands for a date or time, whose text is under it. -/
def datetimeKey : String := "$__toml_private_datetime"

/-- The value as JSON; a date or time is an object, so that it is no text. -/
def toJson (v : Toml) : Json := v.toJsonWith fun text ↦ .obj [(datetimeKey, .str text)]

/-- The value as the data that is read from it; a date or time reads as its text. -/
def toData (v : Toml) : Json := v.toJsonWith .str

end Toml

end MeshBridge
