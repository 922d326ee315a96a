import MeshBridge.Store.Flat
import MeshBridge.Text.Hex
/-!
A store kept in a file. The file begins with a byte that no text has, so that it is never taken for
one, and goes on with a line that tells what it is and a line for each row: its name and its bytes
in hexadecimal digits.
-/

set_option autoImplicit false
set_option relaxedAutoImplicit false

namespace MeshBridge

/-- What is found where a store is kept. -/
inductive StoreFile where
  | absent
  | table (rows : List (String × List UInt8))
  /-- Something else than a table of settings. -/
  | foreign
  deriving DecidableEq, Repr

namespace StoreFile

def notATable : String := "not a table of settings"

/-- Opens a store, a new one if there is none. -/
def load : StoreFile → Except Fault FlatStore
  | absent => .ok (.empty true)
  | table rows => .ok ⟨rows, true⟩
  | foreign => .error (.storage notATable)

def firstLine : List Char := "settings".toList

def hexOf (bytes : List UInt8) : List Char :=
  bytes.flatMap fun b ↦ Hex.fixed .lower 2 b.toNat

/-- The bytes in pairs of digits. -/
def bytesOf? : List Char → Option (List UInt8)
  | [] => some []
  | a :: b :: rest => do
    let byte ← Hex.value? [a, b]
    some (byte.toUInt8 :: (← bytesOf? rest))
  | _ => none

/-- The lines of a text that ends with a line. -/
def linesOf : List Char → List (List Char)
  | [] => []
  | '\n' :: rest => [] :: linesOf rest
  | c :: rest =>
    match linesOf rest with
    | [] => [[c]]
    | line :: lines => (c :: line) :: lines

def rowLine (row : String × List UInt8) : List Char :=
  hexOf (Utf8.encode row.1) ++ ' ' :: hexOf row.2

def rowOf? (line : List Char) : Option (String × List UInt8) := do
  let name ← bytesOf? (line.takeWhile (· ≠ ' '))
  let bytes ← bytesOf? ((line.dropWhile (· ≠ ' ')).drop 1)
  some (← (Utf8.decode name).toOption, bytes)

/-- The first byte of the file of a store. -/
def mark : UInt8 := 0xFF

/-- The file of a store. -/
def render (s : FlatStore) : List UInt8 :=
  mark :: Utf8.encode (String.ofList ((firstLine :: s.rows.map rowLine).flatMap (· ++ ['\n'])))

/-- The rows in the text behind the mark. -/
def rows? (text : String) : Option (List (String × List UInt8)) :=
  match linesOf text.toList with
  | [] => none
  | first :: lines => if first = firstLine then lines.mapM rowOf? else none

/-- What a file holds. -/
def ofBytes : List UInt8 → StoreFile
  | [] => foreign
  | first :: rest =>
    if first = mark then ((Utf8.decode rest).toOption.bind rows?).elim foreign table else foreign

end StoreFile

end MeshBridge
