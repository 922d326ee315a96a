import MeshBridge.Capability.Access
import Mathlib.Algebra.Order.Round
import Mathlib.Data.Rat.Floor
import Mathlib.Tactic.FieldSimp
import Mathlib.Tactic.Linarith
/-!
Numbers as they are sent. A field of a request holds the numbers from zero to a greatest one, and
the number sent for a value is the one of these that is nearest to it: a fraction is rounded first,
and what lies outside goes to the nearer end, however far away it is and even if it is infinite
(`CapabilityValue.saturates_iff`). What is no number at all is sent as zero.
-/

set_option autoImplicit false
set_option relaxedAutoImplicit false

namespace MeshBridge

variable {high n : Nat}

theorem CapabilityValue.natCast_saturate (high : Nat) (k : Int64) :
    (saturate high k : ℤ) = max 0 (min k.toInt high) := by
  unfold saturate Int64.toNatClampNeg
  omega

namespace Binary64

/-- The exact value of a finite number. -/
def scaled (negative : Bool) (mantissa : Nat) (exponent : Int) : ℚ :=
  (if negative then -1 else 1) * (mantissa * 2 ^ exponent)

/-- Of the numbers from zero to `high`, the one that is nearest. -/
def Saturates (high n : Nat) : Binary64 → Prop
  | nan => n = 0
  | infinite negative => n = if negative then 0 else high
  | finite negative mantissa exponent =>
    (n : ℤ) = max 0 (min (round (scaled negative mantissa exponent)) high)

/-- Magnitudes are rounded exactly, whichever side of the point their digits are on. -/
theorem natCast_roundNat (mantissa : Nat) (exponent : Int) :
    (roundNat mantissa exponent : ℤ) = round ((mantissa : ℚ) * 2 ^ exponent) := by
  cases exponent with
  | ofNat q =>
    have hwhole : (mantissa : ℚ) * 2 ^ (Int.ofNat q) = ((mantissa * 2 ^ q : ℕ) : ℚ) := by
      push_cast
      rfl
    rw [hwhole, round_natCast]
    rfl
  | negSucc q =>
    have hhalf : (mantissa : ℚ) * 2 ^ (Int.negSucc q) + 1 / 2 =
        ((mantissa + 2 ^ q : ℕ) : ℚ) / ((2 ^ (q + 1) : ℕ) : ℚ) := by
      rw [zpow_negSucc]
      push_cast
      rw [pow_succ]
      field_simp
    rw [round_eq, hhalf, Rat.floor_natCast_div_natCast]
    rfl

/-- No number below zero is rounded to one above zero. -/
theorem round_neg_nonpos {x : ℚ} (h : 0 ≤ x) : round (-x) ≤ 0 := by
  have hbelow : -x + 1 / 2 < 1 := by linarith
  rw [round_eq, ← Int.lt_add_one_iff, Int.floor_lt]
  exact_mod_cast hbelow

/-- Cutting the nearest word of 64 bits gives the number nearest to the exact value. -/
theorem saturates_iff (hhigh : high < 2 ^ 63) (x : Binary64) :
    x.Saturates high n ↔ n = CapabilityValue.saturate high x.roundInt64 := by
  have hcut (k : Int64) (z : ℤ) (hk : max 0 (min k.toInt high) = max 0 (min z high)) :
      (n : ℤ) = max 0 (min z high) ↔ n = CapabilityValue.saturate high k := by
    rw [← hk, ← CapabilityValue.natCast_saturate, Nat.cast_inj]
  cases x with
  | nan => rfl
  | infinite negative =>
    cases negative with
    | true => exact Iff.rfl
    | false =>
      have hgreatest : CapabilityValue.saturate high Int64.maxValue = high :=
        Nat.min_eq_right (by
          show high ≤ Int64.maxValue.toInt.toNat
          rw [Int64.toInt_maxValue]
          omega)
      show n = high ↔ n = CapabilityValue.saturate high Int64.maxValue
      rw [hgreatest]
  | finite negative mantissa exponent =>
    have hround := natCast_roundNat mantissa exponent
    have hmin := Int64.toInt_minValue
    have hmax := Int64.toInt_maxValue
    refine hcut _ _ ?_
    cases negative with
    | true =>
      have hword : (roundInt64 (.finite true mantissa exponent)).toInt =
          max (-(roundNat mantissa exponent : ℤ)) (-2 ^ 63) := by
        rw [roundInt64, if_pos rfl, hmin]
        exact Int64.toInt_ofInt_of_le (by omega) (by omega)
      have hbelow : round (scaled true mantissa exponent) ≤ 0 := by
        rw [scaled, if_pos rfl, neg_one_mul]
        exact round_neg_nonpos
          (mul_nonneg (Nat.cast_nonneg mantissa) (zpow_nonneg zero_le_two exponent))
      rw [hword]
      omega
    | false =>
      have hword : (roundInt64 (.finite false mantissa exponent)).toInt =
          min (roundNat mantissa exponent : ℤ) (2 ^ 63 - 1) := by
        rw [roundInt64, if_neg Bool.false_ne_true, hmax]
        exact Int64.toInt_ofInt_of_le (by omega) (by omega)
      rw [hword, scaled, if_neg Bool.false_ne_true, one_mul, ← hround]
      omega

end Binary64

namespace CapabilityValue

/-- Of the numbers from zero to `high`, the one to be sent for a value. For a truth value there is
none. -/
def Saturates (high : Nat) : CapabilityValue → Nat → Prop
  | bool _, _ => False
  | int k, n => (n : ℤ) = max 0 (min k.toInt high)
  | float x, n => (Binary64.ofFloat x).Saturates high n

/-- The number that is sent is the one to be sent. -/
theorem saturates_iff (hhigh : high < 2 ^ 63) (v : CapabilityValue) :
    v.Saturates high n ↔ v.int?.map (saturate high) = some n := by
  cases v with
  | bool b => exact ⟨False.elim, nofun⟩
  | int k =>
    rw [Saturates, ← natCast_saturate, Nat.cast_inj]
    simp [int?, eq_comm]
  | float x =>
    rw [Saturates, Binary64.saturates_iff hhigh]
    simp [int?, eq_comm]

/-- There is one at most. -/
theorem Saturates.unique {v : CapabilityValue} {m : Nat} (h : v.Saturates high n)
    (hm : v.Saturates high m) (hhigh : high < 2 ^ 63) : m = n :=
  Option.some_inj.1 (((saturates_iff hhigh v).1 hm).symm.trans ((saturates_iff hhigh v).1 h))

end CapabilityValue

end MeshBridge
