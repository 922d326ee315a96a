import MeshBridge.Decimal.Layout
import MeshBridge.Text.Hex
import MeshBridge.Toml.Basic
import MeshBridge.Toml.Text
/-!
The text of settings documents. A table writes its plain values first, each on a line of its own,
and then its tables under headers, with an empty line between any two of these parts; within each
kind the entries keep their order. An array of at least two values has a line for each of them; one
of tables only is written under double headers.
-/

set_option autoImplicit false
set_option relaxedAutoImplicit false

namespace MeshBridge.Toml

/-! ### Texts and keys -/

/-- How many times in a row a character occurs at most. -/
def longestRun (c : Char) (cs : List Char) : Nat :=
  (cs.foldl (fun (longest, current) d ↦
    if d = c then (max longest (current + 1), current + 1) else (longest, 0)) (0, 0)).1

/-- Whether a character can only be written by an escape. -/
def needsEscape (c : Char) : Bool := !isPlain c && c ≠ '\n'

/-- A character in an escaped text. -/
def escape (c : Char) : List Char :=
  if c = '\x08' then ['\x5c', 'b']
  else if c = '\t' then ['\x5c', 't']
  else if c = '\n' then ['\x5c', 'n']
  else if c = '\x0c' then ['\x5c', 'f']
  else if c = '\r' then ['\x5c', 'r']
  else if c = '\x22' then ['\x5c', '\x22']
  else if c = '\x5c' then ['\x5c', '\x5c']
  else if isPlain c then [c]
  else ['\x5c', 'u'] ++ Hex.fixed .upper 4 c.toNat

/-- The contents of an escaped text on several lines, `run` quotes having come just before. -/
def escapeLines (run : Nat) : List Char → List Char
  | [] => []
  | c :: rest =>
    if c = '\x22' ∧ run < 2 then c :: escapeLines (run + 1) rest
    else if c = '\n' then c :: escapeLines 0 rest
    else escape c ++ escapeLines 0 rest

/-- A text in the first of its forms that shows it as it is; if there is none, with escapes. -/
def textForm (text : String) : String :=
  let cs := text.toList
  let coded := cs.any needsEscape
  let slashed := cs.contains '\x5c'
  let broken := cs.contains '\n'
  let doubles := longestRun '\x22' cs
  let singles := longestRun '\'' cs
  let opening := if broken then ['\n'] else []
  let triple (q : Char) (contents : List Char) := [q, q, q] ++ opening ++ contents ++ [q, q, q]
  String.ofList <|
    if !coded && !slashed && !broken && doubles = 0 then '\x22' :: cs.flatMap escape ++ ['\x22']
    else if !coded && !broken && singles = 0 then '\'' :: cs ++ ['\'']
    else if !coded && !slashed && doubles ≤ 2 then triple '\x22' (escapeLines 0 cs)
    else if !coded && singles ≤ 2 then triple '\'' cs
    else if broken then triple '\x22' (escapeLines 0 cs)
    else '\x22' :: cs.flatMap escape ++ ['\x22']

/-- A key, bare if it can be. -/
def keyForm (key : String) : String :=
  let cs := key.toList
  if !cs.isEmpty && cs.all (fun c ↦ c.isAlphanum || c = '_' || c = '-') then key
  else
    let plain := !cs.any (fun c ↦ needsEscape c || c = '\n')
    if plain && !cs.contains '\'' && (cs.contains '\x22' || cs.contains '\x5c') then
      "'" ++ key ++ "'"
    else String.ofList ('\x22' :: cs.flatMap escape ++ ['\x22'])

/-- The keys of a header. -/
def pathForm (path : List String) : String := ".".intercalate (path.map keyForm)

/-! ### Values in a line -/

mutual

def valueForm : Toml → String
  | text s => textForm s
  | integer n => toString n
  | real x => Decimal.toml.text x
  | boolean b => toString b
  | datetime s => s
  | array [] => "[]"
  | array [v] => "[" ++ valueForm v ++ "]"
  | array items => "[" ++ itemForms items ++ "\n]"
  | table entries => "\x7b" ++ entryForms entries ++ "\x7d"

/-- Values on lines of their own, each with a comma. -/
def itemForms : List Toml → String
  | [] => ""
  | v :: rest => "\n    " ++ valueForm v ++ "," ++ itemForms rest

def entryForms : List (String × Toml) → String
  | [] => ""
  | [(key, v)] => " " ++ keyForm key ++ " = " ++ valueForm v ++ " "
  | (key, v) :: rest => " " ++ keyForm key ++ " = " ++ valueForm v ++ "," ++ entryForms rest

end

/-! ### Documents -/

/-- Whether a value is written under headers of its own. -/
def hasHeader : Toml → Bool
  | table _ => true
  | array [] => false
  | array items => items.all isTable
  | _ => false

/-- The lines of the plain values of a table. -/
def plainLines (entries : List (String × Toml)) : List String :=
  (entries.filter fun e ↦ !hasHeader e.2).map fun (key, v) ↦
    keyForm key ++ " = " ++ valueForm v ++ "\n"

/-- The part of a table that stands under its own header: nothing if all it has are tables. -/
def blockOf (header : String) (isItem : Bool) (entries : List (String × Toml)) : List String :=
  let lines := plainLines entries
  if isItem || !lines.isEmpty || entries.isEmpty then [header ++ "\n" ++ String.join lines] else []

mutual

/-- The parts of the tables among entries, in order. -/
def blocks (path : List String) : List (String × Toml) → List String
  | [] => []
  | (key, v) :: rest => blocksOf (path ++ [key]) v ++ blocks path rest

/-- The parts that a value at a path is written in. -/
def blocksOf (path : List String) : Toml → List String
  | table entries =>
    blockOf ("[" ++ pathForm path ++ "]") false entries ++ blocks path entries
  | array items => if hasHeader (.array items) then itemBlocks path items else []
  | _ => []

def itemBlocks (path : List String) : List Toml → List String
  | [] => []
  | table entries :: rest =>
    blockOf ("[[" ++ pathForm path ++ "]]") true entries ++ blocks path entries ++
      itemBlocks path rest
  | _ :: rest => itemBlocks path rest

end

/-- The document with the given entries, which are written in this order. -/
def document (entries : List (String × Toml)) : String :=
  let first := String.join (plainLines entries)
  "\n".intercalate ((if first.isEmpty then [] else [first]) ++ blocks [] entries)

end MeshBridge.Toml
