import MeshBridge.Decimal.Numeral
import Mathlib.Tactic.IntervalCases
import Mathlib.Tactic.SplitIfs
/-!
Decimal digits of natural numbers. They are digits, none of them is a leading zero, and the number
is read back from them (`natOfDigits?_toDigits`).
-/

set_option autoImplicit false
set_option relaxedAutoImplicit false

namespace MeshBridge.Decimal

theorem isDigit_eq (c : Char) : isDigit c = c.isDigit := by
  rw [Bool.eq_iff_iff, Char.isDigit_iff_toNat]
  simp [isDigit]

theorem isDigit_of_mem_toDigits {n : Nat} {c : Char} (h : c ∈ Nat.toDigits 10 n) :
    isDigit c = true := by
  rw [isDigit_eq]
  exact Nat.isDigit_of_mem_toDigits (by decide) (by decide) h

theorem head?_toDigits_ne {n : Nat} (h : 0 < n) : (Nat.toDigits 10 n).head? ≠ some '0' := by
  induction n using Nat.strong_induction_on with
  | _ n ih =>
    by_cases hlt : n < 10
    · rw [Nat.toDigits_of_lt_base hlt]
      interval_cases n <;> decide
    · rw [Nat.toDigits_of_base_le (by decide) (not_lt.1 hlt), List.head?_append]
      cases hhigh : (Nat.toDigits 10 (n / 10)).head? with
      | none => exact absurd (List.head?_eq_none_iff.1 hhigh) Nat.toDigits_ne_nil
      | some c =>
        have hless := ih (n / 10) (by omega) (by omega)
        rwa [hhigh] at hless

theorem toDigits_inj {m n : Nat} : Nat.toDigits 10 m = Nat.toDigits 10 n ↔ m = n := by
  refine ⟨fun hsame ↦ ?_, congrArg _⟩
  have hvalues := congrArg (Nat.ofDigitChars 10 · 0) hsame
  simpa only [Nat.ofDigitChars_ten_toDigits] using hvalues

theorem foldlM_digits {cs : List Char} (hcs : ∀ c ∈ cs, isDigit c = true) (n : Nat) :
    cs.foldlM (fun acc c ↦ if isDigit c then some (acc * 10 + (c.toNat - 48)) else none) n =
      some (Nat.ofDigitChars 10 cs n) := by
  induction cs generalizing n with
  | nil => rfl
  | cons c cs ih =>
    rw [List.foldlM_cons, if_pos (hcs c List.mem_cons_self), Nat.ofDigitChars_cons, Nat.mul_comm]
    exact ih (fun d hd ↦ hcs d (List.mem_cons_of_mem c hd)) _

/-- A number is read back from its digits. -/
theorem natOfDigits?_toDigits (n : Nat) : natOfDigits? (Nat.toDigits 10 n) = some n := by
  rw [natOfDigits?, foldlM_digits fun c ↦ isDigit_of_mem_toDigits, Nat.ofDigitChars_ten_toDigits]

end MeshBridge.Decimal
