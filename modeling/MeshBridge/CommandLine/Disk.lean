import MeshBridge.CommandLine.Program
/-!
A disk with directories and files, so that several runs of the program can follow each other. A path
is walked part by part, and every part but the last has to be a directory that is there. A program
runs in a directory of its own, from which paths without a slash in front start.
-/

set_option autoImplicit false
set_option relaxedAutoImplicit false

namespace MeshBridge.CommandLine

/-- A place on a disk: the names on the way to it from the root. -/
abbrev Place := List String

inductive DiskItem where
  | directory
  | file (bytes : List UInt8)
  deriving DecidableEq, Repr

/-- Items by their places, of which the first counts. The root is always there. -/
structure Disk where
  items : List (Place × DiskItem)
  /-- The directory in which the program runs. -/
  workplace : Place
  deriving DecidableEq, Repr

/-- Where a path leads. -/
inductive Destination where
  | item (place : Place) (what : DiskItem)
  /-- Nothing is there yet, but its directory is. -/
  | free (place : Place)
  deriving DecidableEq, Repr

namespace Disk

/-! ### Paths -/

/-- The parts of a path, split at slashes. -/
def partsOf : List Char → List (List Char)
  | [] => [[]]
  | '/' :: rest => [] :: partsOf rest
  | c :: rest =>
    match partsOf rest with
    | [] => [[c]]
    | part :: parts => (c :: part) :: parts

def parts (path : String) : List String := (partsOf path.toList).map String.ofList

/-- Whether a part stays where it is. -/
def stays (part : String) : Bool := part.isEmpty || part = "."

/-- Parts without those at the end that stay where they are. -/
def trim (parts : List String) : List String := (parts.reverse.dropWhile stays).reverse

/-- The path of the directory above, in parts; nothing where that is the root or the directory from
which the path starts. -/
def above : List String → List String
  | [] => []
  | first :: rest =>
    match (trim rest).dropLast with
    | [] => if first.isEmpty ∨ (trim rest).isEmpty then [] else [first]
    | rest => first :: trim rest

def maxName : Nat := 255

def maxPath : Nat := 4095

/-- Whether a path can be that of anything. -/
def isPath (parts : List String) : Bool :=
  let path := "/".intercalate parts
  !path.isEmpty && path.utf8ByteSize ≤ maxPath && !path.toList.contains '\x00'

/-- The directory from which a path starts. -/
def start (d : Disk) (parts : List String) : Place :=
  if parts.head? = some "" then [] else d.workplace

/-! ### Walks -/

def item? (d : Disk) (place : Place) : Option DiskItem :=
  if place.isEmpty then some .directory else d.items.lookup place

def put (d : Disk) (place : Place) (what : DiskItem) : Disk :=
  { d with items := (place, what) :: d.items }

/-- Walks from a directory. -/
def walk (d : Disk) (place : Place) : List String → Option Destination
  | [] => some (.item place .directory)
  | part :: rest =>
    if stays part then d.walk place rest
    else if part = ".." then d.walk place.dropLast rest
    else if maxName < part.utf8ByteSize then none
    else match d.item? (place ++ [part]) with
      | some .directory => d.walk (place ++ [part]) rest
      | some what => if rest.isEmpty then some (.item (place ++ [part]) what) else none
      | none => if rest.isEmpty then some (.free (place ++ [part])) else none

def find (d : Disk) (path : String) : Option Destination :=
  if isPath (parts path) then d.walk (d.start (parts path)) (parts path) else none

/-- Walks from a directory and makes the directories that are not there. The walk may end early, and
then those stay that it has made. -/
def makeDirectories (d : Disk) (place : Place) : List String → Disk × Bool
  | [] => (d, true)
  | part :: rest =>
    match d.walk place [part] with
    | some (.item place .directory) => d.makeDirectories place rest
    | some (.free place) => (d.put place .directory).makeDirectories place rest
    | _ => (d, false)

/-- Makes the directories above a path. -/
def makeAbove (d : Disk) (path : String) : Disk × Bool :=
  match above (parts path) with
  | [] => (d, true)
  | up => if isPath up then d.makeDirectories (d.start up) up else (d, false)

/-! ### Files -/

/-- Writes a file if it can be there. -/
def write (d : Disk) (path : String) (bytes : List UInt8) : Disk :=
  let d := (d.makeAbove path).1
  match d.find path with
  | some (.free place) | some (.item place (.file _)) => d.put place (.file bytes)
  | _ => d

/-- The text in a file. -/
def read (d : Disk) (path : String) : Option String :=
  match d.find path with
  | some (.item _ (.file bytes)) => (Utf8.decode bytes).toOption
  | _ => none

/-- What is found where a store is to be opened. -/
def storeFile (d : Disk) (path : String) : StoreFile :=
  match d.makeAbove path with
  | (_, false) => .foreign
  | (d, true) =>
    match d.find path with
    | some (.free _) => .absent
    | some (.item _ (.file bytes)) => .ofBytes bytes
    | _ => .foreign

/-- One run of the program: the disk after it, and its output. -/
def run (environment? : String → Option String) (d : Disk) (arguments : List String) :
    Disk × Output :=
  let out := output ⟨⟨d.read, environment?⟩, d.storeFile⟩ arguments
  match out.store with
  | none => (d, out)
  | some (path, none) => ((d.makeAbove path).1, out)
  | some (path, some store) => (d.write path (StoreFile.render store), out)

end Disk

end MeshBridge.CommandLine
