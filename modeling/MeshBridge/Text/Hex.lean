/-!
Hexadecimal numerals, read and written digit by digit. A numeral of a fixed width keeps the low
digits of its number; `value?` gives the number back and refuses every character that is not a
digit.
-/

set_option autoImplicit false
set_option relaxedAutoImplicit false

namespace MeshBridge.Hex

/-- The letters that stand for ten to fifteen. -/
inductive Letters where
  | lower
  | upper
  deriving DecidableEq, Repr

def digit : Letters → Nat → Char
  | .lower, n => if n < 10 then Char.ofNat (48 + n) else Char.ofNat (87 + n)
  | .upper, n => if n < 10 then Char.ofNat (48 + n) else Char.ofNat (55 + n)

/-- The number a digit stands for, letters of either case being read alike. -/
def digitValue? (c : Char) : Option Nat :=
  if 48 ≤ c.toNat ∧ c.toNat ≤ 57 then some (c.toNat - 48)
  else if 97 ≤ c.toNat ∧ c.toNat ≤ 102 then some (c.toNat - 87)
  else if 65 ≤ c.toNat ∧ c.toNat ≤ 70 then some (c.toNat - 55)
  else none

/-- The low `width` digits of a number, the most significant first. -/
def fixed (letters : Letters) : (width : Nat) → Nat → List Char
  | 0, _ => []
  | width + 1, n => fixed letters width (n / 16) ++ [digit letters (n % 16)]

/-- As many digits as a number has, and at least one. -/
def size (n : Nat) : Nat := n.log2 / 4 + 1

/-- All digits of a number, filled up with zeros on the left to `width`. -/
def padded (letters : Letters) (width n : Nat) : String :=
  String.ofList (fixed letters (max width (size n)) n)

/-- The number that a run of digits denotes; nothing if one character is no digit. -/
def value? (digits : List Char) : Option Nat :=
  digits.foldlM (fun acc c ↦ (digitValue? c).map (acc * 16 + ·)) 0

@[simp] theorem length_fixed (letters : Letters) (width n : Nat) :
    (fixed letters width n).length = width := by
  induction width generalizing n with
  | zero => rfl
  | succ width ih => simp [fixed, ih]

theorem digitValue?_digit (letters : Letters) {n : Nat} (h : n < 16) :
    digitValue? (digit letters n) = some n := by
  revert n
  cases letters <;> decide

/-- A number that fits into a width can be read off its digits. -/
theorem value?_fixed (letters : Letters) {width n : Nat} (h : n < Nat.pow 16 width) :
    value? (fixed letters width n) = some n := by
  induction width generalizing n with
  | zero =>
    obtain rfl : n = 0 := by simpa using h
    rfl
  | succ width ih =>
    have hhigh : n / 16 < Nat.pow 16 width := Nat.div_lt_of_lt_mul (by rwa [Nat.mul_comm])
    have hlow := digitValue?_digit letters (Nat.mod_lt n (by decide : 0 < 16))
    have hread := ih hhigh
    unfold value? at hread ⊢
    rw [fixed, List.foldlM_append, hread]
    show (digitValue? (digit letters (n % 16))).map (n / 16 * 16 + ·) >>= pure = some n
    rw [hlow]
    exact congrArg some (Nat.div_add_mod' n 16)

end MeshBridge.Hex
