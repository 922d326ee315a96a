import MeshBridge.Fault
import MeshBridge.Toml.Scalar
import MeshBridge.Toml.Text
import MeshBridge.Toml.Tree
/-!
Settings documents. A document is a series of sections, each with a header and pairs of keys and
values below it; only the first has no header. A value and a path of keys may be nested to a bounded
depth.
-/

set_option autoImplicit false
set_option relaxedAutoImplicit false

namespace MeshBridge.Toml

/-- Drops blanks, comments and ends of lines. -/
def skipTrivia (inComment : Bool) : List Char → Option (List Char)
  | [] => some []
  | '\n' :: rest => skipTrivia false rest
  | '\r' :: '\n' :: rest => skipTrivia false rest
  | c :: rest =>
    if inComment then if isPlain c then skipTrivia true rest else none
    else if isSpace c then skipTrivia false rest
    else if c = '#' then skipTrivia true rest
    else some (c :: rest)

/-- Drops blanks and a comment up to the end of the line or of the document. -/
def endLine (cs : List Char) : Option (List Char) :=
  let rest := match cs.dropWhile isSpace with
    | '#' :: rest => rest.dropWhile isPlain
    | rest => rest
  match rest with
  | [] => some []
  | '\n' :: rest => some rest
  | '\r' :: '\n' :: rest => some rest
  | _ => none

/-! ### Keys -/

def isBare (c : Char) : Bool := c.isAlphanum || c = '_' || c = '-'

def maxPath : Nat := 79

/-- One key of a path. -/
def simpleKey : List Char → Option (String × List Char)
  | '\x22' :: rest => (basic rest).map fun (key, rest) ↦ (String.ofList key, rest)
  | '\'' :: rest => (literal rest).map fun (key, rest) ↦ (String.ofList key, rest)
  | cs =>
    let key := cs.takeWhile isBare
    if key.isEmpty then none else some (String.ofList key, cs.dropWhile isBare)

/-- Keys with points between them, and what follows them and the blanks after them. -/
def keyPath : (room : Nat) → List Char → Option (List String × List Char)
  | 0, _ => none
  | room + 1, cs => do
    let (key, rest) ← simpleKey (cs.dropWhile isSpace)
    match rest.dropWhile isSpace with
    | '.' :: rest => do
      let (path, rest) ← keyPath room rest
      some (key :: path, rest)
    | rest => some ([key], rest)

/-- A path of keys and the equals sign after it. -/
def pairKey (cs : List Char) : Option (List String × List Char) := do
  match ← keyPath maxPath cs with
  | (path, '=' :: rest) => some (path, rest.dropWhile isSpace)
  | _ => none

/-! ### Values -/

def maxDepth : Nat := 79

mutual

/-- A value, and what follows it. `fuel` bounds the number of steps, `depth` that of brackets. -/
def value : (fuel depth : Nat) → List Char → Option (Toml × List Char)
  | 0, _, _ => none
  | fuel + 1, depth, cs =>
    match cs, depth with
    | '[' :: _, 0 => none
    | '\x7b' :: _, 0 => none
    | '[' :: rest, depth + 1 => do
      let (values, rest) ← items fuel depth rest
      some (.array values, rest)
    | '\x7b' :: rest, depth + 1 => do
      let (inner, rest) ← pairs fuel depth true (rest.dropWhile isSpace)
      some (.table (Node.entriesToToml (← Node.addPairs [] inner)), rest)
    | '\x22' :: _, _ => (quotedText cs).map fun (s, rest) ↦ (.text (String.ofList s), rest)
    | '\'' :: _, _ => (quotedText cs).map fun (s, rest) ↦ (.text (String.ofList s), rest)
    | _, _ => do
      let (found, rest) := word cs
      some (← scalarOf? found, rest)

/-- The values of an array up to its closing bracket. -/
def items : (fuel depth : Nat) → List Char → Option (List Toml × List Char)
  | 0, _, _ => none
  | fuel + 1, depth, cs => do
    match ← skipTrivia false cs with
    | ']' :: rest => some ([], rest)
    | cs => do
      let (first, rest) ← value fuel depth cs
      match ← skipTrivia false rest with
      | ']' :: rest => some ([first], rest)
      | ',' :: rest => do
        let (others, rest) ← items fuel depth rest
        some (first :: others, rest)
      | _ => none

/-- The pairs of a table on one line up to its closing brace. -/
def pairs : (fuel depth : Nat) → (first : Bool) → List Char →
    Option (List (List String × Toml) × List Char)
  | 0, _, _, _ => none
  | fuel + 1, depth, first, cs =>
    match first, cs with
    | true, '\x7d' :: rest => some ([], rest)
    | _, cs => do
      let (path, rest) ← pairKey cs
      let (v, rest) ← value fuel depth rest
      match rest.dropWhile isSpace with
      | '\x7d' :: rest => some ([(path, v)], rest)
      | ',' :: rest => do
        let (others, rest) ← pairs fuel depth false (rest.dropWhile isSpace)
        some ((path, v) :: others, rest)
      | _ => none

end

/-! ### Documents -/

/-- A line of a document. -/
inductive Line where
  | header (path : List String)
  | doubleHeader (path : List String)
  | pair (path : List String) (v : Toml)

/-- A line up to its end. -/
def line (cs : List Char) : Option (Line × List Char) := do
  let (found, rest) ← match cs with
    | '[' :: '[' :: rest => do
      match ← keyPath maxPath rest with
      | (path, ']' :: ']' :: rest) => some (Line.doubleHeader path, rest)
      | _ => none
    | '[' :: rest => do
      match ← keyPath maxPath rest with
      | (path, ']' :: rest) => some (Line.header path, rest)
      | _ => none
    | cs => do
      let (path, rest) ← pairKey cs
      let (v, rest) ← value (2 * rest.length + 2) maxDepth rest
      some (Line.pair path v, rest)
  some (found, ← endLine rest)

/-- The lines of a document that are not empty. -/
def lines : (fuel : Nat) → List Char → Option (List Line)
  | 0, _ => none
  | fuel + 1, cs => do
    match ← skipTrivia false cs with
    | [] => some []
    | cs => do
      let (first, rest) ← line cs
      some (first :: (← lines fuel rest))

/-- A part of a document under one header. -/
structure Section where
  /-- The path of the header, and whether it is double; nothing for the first part. -/
  header : Option (List String × Bool)
  pairs : List (List String × Toml)

/-- The sections that lines form after the one that was begun. -/
def sections (begun : Section) : List Line → List Section
  | [] => [begun]
  | .pair path v :: rest => sections { begun with pairs := begun.pairs ++ [(path, v)] } rest
  | .header path :: rest => begun :: sections ⟨some (path, false), []⟩ rest
  | .doubleHeader path :: rest => begun :: sections ⟨some (path, true), []⟩ rest

def addSection (root : Node.Entries) (s : Section) : Option Node.Entries :=
  match s.header with
  | none => Node.addPairs root s.pairs
  | some (path, false) => Node.addTable path s.pairs root
  | some (path, true) => Node.addItem path s.pairs root

/-- The table that a document describes. A byte order mark in front is passed over. -/
def ofText? (text : String) : Option Toml := do
  let cs := match text.toList with
    | '\ufeff' :: rest => rest
    | all => all
  let all ← lines (cs.length + 1) cs
  let root ← (sections ⟨none, []⟩ all).foldlM addSection []
  some (.table (Node.entriesToToml root))

/-- The detail of the fault for a text that is no document. -/
def malformed : String := "malformed document"

def parse (text : String) : Except Fault Toml :=
  match ofText? text with
  | some v => .ok v
  | none => .error (.config malformed)

end MeshBridge.Toml
