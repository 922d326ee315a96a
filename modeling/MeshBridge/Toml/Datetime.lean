import MeshBridge.Decimal.Numeral
/-!
Dates and times in settings documents. A date has to be one of the calendar; a time of day may have
a fraction of a second, of which nine digits count. What is read is given back in its usual form.
-/

set_option autoImplicit false
set_option relaxedAutoImplicit false

namespace MeshBridge.Toml

open Decimal (isDigit natOfDigits?)

/-- The bounds of a time of day and of its distance from universal time. -/
structure TimeBounds where
  lastHour : Nat
  isDistance : (hours minutes : Nat) → Bool

namespace TimeBounds

/-- A date that stands in a document without quotes. -/
def bare : TimeBounds := ⟨23, fun hours minutes ↦ hours ≤ 23 && minutes ≤ 59⟩

/-- A date in a text of its own. A day may end at 24 hours, and a distance is bounded as a whole. -/
def quoted : TimeBounds := ⟨24, fun hours minutes ↦ 60 * hours + minutes ≤ 24 * 60⟩

end TimeBounds

/-- The number in exactly two digits, if it is in a range. -/
def twoDigits? (low high : Nat) (a b : Char) : Option Nat :=
  if isDigit a && isDigit b then
    (natOfDigits? [a, b]).filter fun n ↦ low ≤ n && n ≤ high
  else none

/-- A number below a hundred in two digits. -/
def twoDigits (n : Nat) : List Char := [Nat.digitChar (n / 10), Nat.digitChar (n % 10)]

def isLeapYear (year : Nat) : Bool := year % 4 = 0 && (year % 100 ≠ 0 || year % 400 = 0)

def daysIn (year month : Nat) : Nat :=
  if month = 2 then if isLeapYear year then 29 else 28
  else if month = 4 ∨ month = 6 ∨ month = 9 ∨ month = 11 then 30
  else 31

/-- A date, and what follows it. -/
def date? : List Char → Option (List Char × List Char)
  | y₁ :: y₂ :: y₃ :: y₄ :: '-' :: m₁ :: m₂ :: '-' :: d₁ :: d₂ :: rest => do
    if [y₁, y₂, y₃, y₄].all isDigit then
      let year ← natOfDigits? [y₁, y₂, y₃, y₄]
      let month ← twoDigits? 1 12 m₁ m₂
      let _ ← twoDigits? 1 (daysIn year month) d₁ d₂
      some ([y₁, y₂, y₃, y₄, '-', m₁, m₂, '-', d₁, d₂], rest)
    else none
  | _ => none

/-- The digits after the point of a second: nine of them count, and zeros at the end do not. -/
def secondFraction (digits : List Char) : List Char :=
  match ((digits.take 9).reverse.dropWhile (· = '0')).reverse with
  | [] => []
  | digits => '.' :: digits

/-- A time of day, and what follows it. -/
def time? (bounds : TimeBounds) : List Char → Option (List Char × List Char)
  | h₁ :: h₂ :: ':' :: m₁ :: m₂ :: ':' :: s₁ :: s₂ :: rest => do
    let _ ← twoDigits? 0 bounds.lastHour h₁ h₂
    let _ ← twoDigits? 0 59 m₁ m₂
    let _ ← twoDigits? 0 60 s₁ s₂
    let time := [h₁, h₂, ':', m₁, m₂, ':', s₁, s₂]
    match rest with
    | '.' :: rest =>
      let fraction := rest.takeWhile isDigit
      if fraction.isEmpty then none
      else some (time ++ secondFraction fraction, rest.dropWhile isDigit)
    | rest => some (time, rest)
  | _ => none

/-- The distance of a time from universal time, its minutes brought below an hour. -/
def offset? (bounds : TimeBounds) : List Char → Option (List Char)
  | [] => some []
  | [c] => if c = 'Z' ∨ c = 'z' then some ['Z'] else none
  | [s, h₁, h₂, ':', m₁, m₂] => do
    let hours ← twoDigits? 0 99 h₁ h₂
    let minutes ← twoDigits? 0 99 m₁ m₂
    if (s = '+' ∨ s = '-') ∧ bounds.isDistance hours minutes then
      let all := 60 * hours + minutes
      some ((if all = 0 then '+' else s) :: twoDigits (all / 60) ++ ':' :: twoDigits (all % 60))
    else none
  | _ => none

/-- A date, a time, or a date and a time with or without its distance from universal time. -/
def datetime? (bounds : TimeBounds) (cs : List Char) : Option String :=
  match date? cs with
  | some (date, []) => some (String.ofList date)
  | some (date, mark :: rest) => do
    if mark = 'T' ∨ mark = 't' ∨ mark = ' ' then
      let (time, rest) ← time? bounds rest
      let offset ← offset? bounds rest
      some (String.ofList (date ++ 'T' :: time ++ offset))
    else none
  | none =>
    match time? bounds cs with
    | some (time, []) => some (String.ofList time)
    | _ => none

end MeshBridge.Toml
