import MeshBridge.Toml.Basic
/-!
The tree that grows while a settings document is read. A table remembers how it came about, since
that decides what may be added to it: one that only stood on the way to others may still be opened
by a header, one that was made by a dotted key may be added to by dotted keys alone. Entries are in
the order in which they came; a table that a header opens comes then, whatever stood in it before.
-/

set_option autoImplicit false
set_option relaxedAutoImplicit false

namespace MeshBridge.Toml

inductive Node where
  | leaf (v : Toml)
  /-- A table: whether it only stood on the way to others, and whether a dotted key made it. -/
  | table (implicit dotted : Bool) (entries : List (String × Node))
  /-- Tables under one header in double brackets, in order. -/
  | tables (items : List (List (String × Node)))

namespace Node

abbrev Entries := List (String × Node)

mutual

def toToml : Node → Toml
  | .leaf v => v
  | .table _ _ entries => .table (entriesToToml entries)
  | .tables items => .array (itemsToToml items)

def entriesToToml : List (String × Node) → List (String × Toml)
  | [] => []
  | (key, node) :: rest => (key, node.toToml) :: entriesToToml rest

def itemsToToml : List (List (String × Node)) → List Toml
  | [] => []
  | entries :: rest => .table (entriesToToml entries) :: itemsToToml rest

end

/-- Replaces the node under a key, which is added at the end if it is new. -/
def put (key : String) (node : Node) : Entries → Entries
  | [] => [(key, node)]
  | (k, old) :: rest => if k = key then (k, node) :: rest else (k, old) :: put key node rest

/-- Changes the table at a path, creating tables on the way. The last table under a double header
stands for all of them. By a dotted key (`byDots`) only tables are entered that no header opened.
The change is told whether its table was made by a dotted key. -/
def changeAt (byDots : Bool) (change : Bool → Entries → Option Entries) :
    List String → (dotted : Bool) → Entries → Option Entries
  | [], dotted, entries => change dotted entries
  | key :: path, _, entries =>
    match entries.lookup key with
    | none => do
      let made ← changeAt byDots change path byDots []
      some (put key (.table true byDots made) entries)
    | some (.leaf _) => none
    | some (.tables items) => do
      let last ← changeAt byDots change path false (← items.getLast?)
      some (put key (.tables (items.dropLast ++ [last])) entries)
    | some (.table implicit dotted inner) =>
      if byDots && !implicit then none
      else do
        let inner ← changeAt byDots change path dotted inner
        some (put key (.table implicit dotted inner) entries)

/-- Adds a value under a path of keys to a table that a header opened. -/
def addPair (entries : Entries) (pair : List String × Toml) : Option Entries := do
  let key ← pair.1.getLast?
  let path := pair.1.dropLast
  let add (dotted : Bool) (entries : Entries) : Option Entries :=
    if dotted = path.isEmpty ∨ (entries.lookup key).isSome then none
    else some (entries ++ [(key, .leaf pair.2)])
  changeAt true add path false entries

def addPairs (entries : Entries) (pairs : List (List String × Toml)) : Option Entries :=
  pairs.foldlM addPair entries

/-- Opens the table of a header and adds its pairs. -/
def addTable (header : List String) (pairs : List (List String × Toml)) (root : Entries) :
    Option Entries := do
  let key ← header.getLast?
  let fill (entries inner : Entries) : Option Entries := do
    let filled ← addPairs inner pairs
    some (entries.filter (·.1 ≠ key) ++ [(key, .table false false filled)])
  let add (_ : Bool) (entries : Entries) : Option Entries :=
    match entries.lookup key with
    | none => fill entries []
    | some (.table true false inner) => fill entries inner
    | some _ => none
  changeAt false add header.dropLast false root

/-- Adds one more table with its pairs under a double header. -/
def addItem (header : List String) (pairs : List (List String × Toml)) (root : Entries) :
    Option Entries := do
  let key ← header.getLast?
  let item ← addPairs [] pairs
  let add (_ : Bool) (entries : Entries) : Option Entries :=
    match entries.lookup key with
    | none => some (put key (.tables [item]) entries)
    | some (.tables items) => some (put key (.tables (items ++ [item])) entries)
    | some _ => none
  changeAt false add header.dropLast false root

end Node

end MeshBridge.Toml
