import MeshBridge.Decimal.Layout
import MeshBridge.Json.Basic
import MeshBridge.Text.Hex
/-!
JSON text. `compress` writes a value without blanks; `pretty` puts every item on a line of its own,
indented by two blanks a level.
-/

set_option autoImplicit false
set_option relaxedAutoImplicit false

namespace MeshBridge.Json

/-- How a character is written inside a JSON string. -/
def escape (c : Char) : List Char :=
  if c = '\x22' then ['\\', '\x22']
  else if c = '\\' then ['\\', '\\']
  else if c = '\x08' then ['\\', 'b']
  else if c = '\x0c' then ['\\', 'f']
  else if c = '\n' then ['\\', 'n']
  else if c = '\r' then ['\\', 'r']
  else if c = '\t' then ['\\', 't']
  else if c.toNat < 0x20 then ['\\', 'u'] ++ Hex.fixed .lower 4 c.toNat
  else [c]

def stringText (text : String) : String :=
  String.ofList ('\x22' :: (text.toList.flatMap escape ++ ['\x22']))

/-- The text of a value that holds no other values. -/
def scalarText : Json → String
  | .bool b => if b then "true" else "false"
  | .int n => toString n
  | .real x => Decimal.json.text x
  | .str text => stringText text
  | _ => "null"

mutual

def compress : Json → String
  | .arr items => "[" ++ compressItems items ++ "]"
  | .obj fields => "\x7b" ++ compressFields fields ++ "\x7d"
  | scalar => scalarText scalar

def compressItems : List Json → String
  | [] => ""
  | [item] => compress item
  | item :: rest => compress item ++ "," ++ compressItems rest

def compressFields : List (String × Json) → String
  | [] => ""
  | [(key, value)] => stringText key ++ ":" ++ compress value
  | (key, value) :: rest => stringText key ++ ":" ++ compress value ++ "," ++ compressFields rest

end

/-- The start of a line at a level of nesting. -/
def newLine (level : Nat) : String := "\n" ++ String.ofList (List.replicate (2 * level) ' ')

mutual

/-- The lines of a value, all but the first indented to `level`. -/
def prettyAt (level : Nat) : Json → String
  | .arr [] => "[]"
  | .arr items => "[" ++ prettyItems (level + 1) items ++ newLine level ++ "]"
  | .obj [] => "\x7b\x7d"
  | .obj fields => "\x7b" ++ prettyFields (level + 1) fields ++ newLine level ++ "\x7d"
  | scalar => scalarText scalar

def prettyItems (level : Nat) : List Json → String
  | [] => ""
  | [item] => newLine level ++ prettyAt level item
  | item :: rest => newLine level ++ prettyAt level item ++ "," ++ prettyItems level rest

def prettyFields (level : Nat) : List (String × Json) → String
  | [] => ""
  | [(key, value)] => newLine level ++ stringText key ++ ": " ++ prettyAt level value
  | (key, value) :: rest =>
    newLine level ++ stringText key ++ ": " ++ prettyAt level value ++ "," ++
      prettyFields level rest

end

def pretty (value : Json) : String := prettyAt 0 value

end MeshBridge.Json
