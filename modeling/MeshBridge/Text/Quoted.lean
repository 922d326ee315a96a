import MeshBridge.Text.Hex
import MeshBridge.Text.Printable
/-!
Quoted text for messages. A text stands between double quotes; quotes, backslashes and the common
controls have a short escape, and every other hidden character is written as its code point in
braces.
-/

set_option autoImplicit false
set_option relaxedAutoImplicit false

namespace MeshBridge.Text

/-- How a character is written between double quotes. -/
def escape (c : Char) : List Char :=
  if c = '\x00' then ['\\', '0']
  else if c = '\t' then ['\\', 't']
  else if c = '\r' then ['\\', 'r']
  else if c = '\n' then ['\\', 'n']
  else if c = '\x22' then ['\\', '\x22']
  else if c = '\\' then ['\\', '\\']
  else if isPrintable c then [c]
  else ['\\', 'u', '\x7b'] ++ Hex.fixed .lower (Hex.size c.toNat) c.toNat ++ ['\x7d']

/-- The text between double quotes, with hidden characters escaped. -/
def quoted (text : String) : String :=
  String.ofList ('\x22' :: (text.toList.flatMap escape ++ ['\x22']))

end MeshBridge.Text
