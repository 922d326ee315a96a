import MeshBridge.Text.Hex
/-!
Texts in settings documents, in their four forms: escaped or literal, on one line or on several.
Each reader starts after the opening quotes and gives the text and what follows the closing quotes.
An end of line inside a text is read as one character, however it was written.
-/

set_option autoImplicit false
set_option relaxedAutoImplicit false

namespace MeshBridge.Toml

def isSpace (c : Char) : Bool := c = ' ' || c = '\t'

/-- What may stand in a text or a comment: no control character but the tab. -/
def isPlain (c : Char) : Bool := c = '\t' || (0x20 ≤ c.toNat && c.toNat ≠ 0x7F)

/-- The character of a number, which must not be a surrogate. -/
def scalar? (digits : List Char) : Option Char :=
  (Hex.value? digits).bind fun n ↦ if h : n.isValidChar then some (Char.ofNatAux n h) else none

/-- The character a short escape stands for. -/
def shortEscape? (c : Char) : Option Char :=
  match c with
  | 'b' => some '\x08'
  | 't' => some '\t'
  | 'n' => some '\n'
  | 'f' => some '\x0c'
  | 'r' => some '\r'
  | '\x22' => some '\x22'
  | '\x5c' => some '\x5c'
  | _ => none

/-- A text read so far, and what follows it. -/
abbrev Read := Option (List Char × List Char)

/-- Puts a character in front of the text that was read after it. -/
def Read.push (c : Option Char) (r : Read) : Read := do
  let c ← c
  let (cs, rest) ← r
  some (c :: cs, rest)

/-- An escaped text on one line. -/
def basic : List Char → Read
  | [] => none
  | '\x22' :: rest => some ([], rest)
  | '\x5c' :: 'u' :: a :: b :: c :: d :: rest => (basic rest).push (scalar? [a, b, c, d])
  | '\x5c' :: 'U' :: a :: b :: c :: d :: e :: f :: g :: h :: rest =>
    (basic rest).push (scalar? [a, b, c, d, e, f, g, h])
  | '\x5c' :: c :: rest => (basic rest).push (shortEscape? c)
  | c :: rest => if isPlain c then (basic rest).push (some c) else none

/-- A literal text on one line. -/
def literal : List Char → Read
  | [] => none
  | '\'' :: rest => some ([], rest)
  | c :: rest => if isPlain c then (literal rest).push (some c) else none

/-- Whether a line ends here but for blanks. -/
def endsLine (cs : List Char) : Bool :=
  match cs.dropWhile isSpace with
  | '\n' :: _ => true
  | '\r' :: '\n' :: _ => true
  | _ => false

/-- An escaped text on several lines. Up to two quotes may stand before the closing ones. While
`joining`, blanks and ends of lines are passed over: a backslash at the end of a line joins it to
the next text. -/
def multiBasic (joining : Bool) : List Char → Read
  | [] => none
  | '\x22' :: '\x22' :: '\x22' :: '\x22' :: '\x22' :: rest => some (['\x22', '\x22'], rest)
  | '\x22' :: '\x22' :: '\x22' :: '\x22' :: rest => some (['\x22'], rest)
  | '\x22' :: '\x22' :: '\x22' :: rest => some ([], rest)
  | '\x5c' :: 'u' :: a :: b :: c :: d :: rest => (multiBasic false rest).push (scalar? [a, b, c, d])
  | '\x5c' :: 'U' :: a :: b :: c :: d :: e :: f :: g :: h :: rest =>
    (multiBasic false rest).push (scalar? [a, b, c, d, e, f, g, h])
  | '\x5c' :: rest =>
    if endsLine rest then multiBasic true rest
    else match rest with
      | [] => none
      | c :: rest => (multiBasic false rest).push (shortEscape? c)
  | '\r' :: '\n' :: rest =>
    if joining then multiBasic true rest else (multiBasic false rest).push (some '\n')
  | c :: rest =>
    if joining && (isSpace c || c = '\n') then multiBasic true rest
    else if isPlain c || c = '\n' then (multiBasic false rest).push (some c)
    else none

/-- A literal text on several lines. -/
def multiLiteral : List Char → Read
  | [] => none
  | '\'' :: '\'' :: '\'' :: '\'' :: '\'' :: rest => some (['\'', '\''], rest)
  | '\'' :: '\'' :: '\'' :: '\'' :: rest => some (['\''], rest)
  | '\'' :: '\'' :: '\'' :: rest => some ([], rest)
  | '\r' :: '\n' :: rest => (multiLiteral rest).push (some '\n')
  | c :: rest => if isPlain c || c = '\n' then (multiLiteral rest).push (some c) else none

/-- Drops the end of line right after the opening quotes. -/
def dropFirstBreak : List Char → List Char
  | '\n' :: rest => rest
  | '\r' :: '\n' :: rest => rest
  | all => all

/-- A text in any form, from its opening quotes on. -/
def quotedText : List Char → Read
  | '\x22' :: '\x22' :: '\x22' :: rest => multiBasic false (dropFirstBreak rest)
  | '\'' :: '\'' :: '\'' :: rest => multiLiteral (dropFirstBreak rest)
  | '\x22' :: rest => basic rest
  | '\'' :: rest => literal rest
  | _ => none

end MeshBridge.Toml
