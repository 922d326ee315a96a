import MeshBridge.Table
import MeshBridge.Toml.Basic
import MeshBridge.Toml.Datetime
/-!
The normal form of values whose keys have no fixed meaning: the entries of a table are in the order
of their keys. In such a value a table that begins with the key of dates stands for a date.
-/

set_option autoImplicit false
set_option relaxedAutoImplicit false

namespace MeshBridge.Toml

/-- Whether a table stands for a date. Only its first key counts. -/
def standsForDate : List (String × Toml) → Bool
  | (key, _) :: _ => key = datetimeKey
  | [] => false

/-- The date in the first value of a table, which must be its text. Other values are not looked
at. -/
def dateIn? : List (String × Toml) → Option Toml
  | (_, text s) :: _ => (datetime? .quoted s.toList).map datetime
  | _ => none

mutual

/-- The normal form; nothing if a table stands for a date and holds none. -/
def normal? : Toml → Option Toml
  | .array items => do some (.array (← normalItems? items))
  | .table entries =>
    if standsForDate entries then dateIn? entries
    else do some (.table (← normalEntries? entries))
  | v => some v

def normalItems? : List Toml → Option (List Toml)
  | [] => some []
  | item :: rest => do some ((← item.normal?) :: (← normalItems? rest))

def normalEntries? : List (String × Toml) → Option (List (String × Toml))
  | [] => some []
  | (key, v) :: rest => do some (Assoc.insert key (← v.normal?) (← normalEntries? rest))

end

end MeshBridge.Toml
