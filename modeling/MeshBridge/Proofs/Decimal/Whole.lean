import MeshBridge.Decimal.Binary64
import MeshBridge.Proofs.Decimal.Digits
/-!
Floating-point numbers that are whole. Integers of at most 53 digits are such numbers
(`IsWhole.ofInt`); doubling one and adding zero to it is exact, they are compared as integers are,
and each is rounded to itself (`IsWhole.roundInt64`). The rounding takes a number apart by its bits;
that this is the number which the arithmetic works on is `Binary64.ofFloat_eq`.
-/

set_option autoImplicit false
set_option relaxedAutoImplicit false

namespace MeshBridge

open Float.Model (Format UnpackedFloat)
open Float.Model.UnpackedFloat

/-! ### Bits -/

namespace Binary64

def negative : Sign → Bool
  | .negative => true
  | .positive => false

/-- The same number, taken apart in the other form. -/
def ofUnpacked : UnpackedFloat → Binary64
  | .notANumber => .nan
  | .infinity sign => .infinite (negative sign)
  | .zero sign => .finite (negative sign) 0 (-1074)
  | .finite sign mantissa exponent _ => .finite (negative sign) mantissa exponent

section Fields

variable (bits : BitVec 64)

theorem toNat_unpackExponent :
    (@unpackExponent Format.binary64 bits).toNat = bits.toNat / 2 ^ 52 % 2048 := by
  rw [unpackExponent_def, BitVec.extractLsb'_toNat, Nat.shiftRight_eq_div_pow]
  rfl

theorem toNat_unpackMantissa :
    (@unpackMantissa Format.binary64 bits).toNat = bits.toNat % 2 ^ 52 := by
  rw [unpackMantissa_def, BitVec.extractLsb'_toNat, Nat.shiftRight_zero]

theorem negative_unpackSign :
    negative (Sign.ofBitVec (@unpackSign Format.binary64 bits)) =
      decide (2 ^ 63 ≤ bits.toNat) := by
  have hbit : (@unpackSign Format.binary64 bits).toNat = bits.toNat / 2 ^ 63 % 2 := by
    rw [unpackSign_def, BitVec.extractLsb'_toNat, Nat.shiftRight_eq_div_pow]
    rfl
  have hless := bits.isLt
  rw [Sign.ofBitVec]
  split_ifs with hzero
  · rw [hzero] at hbit
    have hbit : 0 = bits.toNat / 2 ^ 63 % 2 := hbit
    rw [eq_comm, negative, decide_eq_false_iff_not]
    omega
  · have hone : (@unpackSign Format.binary64 bits).toNat ≠ 0 :=
      fun htoNat ↦ hzero (BitVec.eq_of_toNat_eq htoNat)
    rw [eq_comm, negative, decide_eq_true_iff]
    omega

theorem ofUnpacked_unpack :
    ofUnpacked (unpack Format.binary64 bits) =
      if bits.toNat / 2 ^ 52 % 2048 = 2047 then
        if bits.toNat % 2 ^ 52 = 0 then .infinite (2 ^ 63 ≤ bits.toNat) else .nan
      else if bits.toNat / 2 ^ 52 % 2048 = 0 then
        .finite (2 ^ 63 ≤ bits.toNat) (bits.toNat % 2 ^ 52) (-1074)
      else
        .finite (2 ^ 63 ≤ bits.toNat) (bits.toNat % 2 ^ 52 + 2 ^ 52)
          ((bits.toNat / 2 ^ 52 % 2048 : ℕ) - 1075) := by
  have hmax : (@unpackExponent Format.binary64 bits).toNat = 2047 ↔
      @unpackExponent Format.binary64 bits = -1#11 := BitVec.toNat_inj (y := -1#11)
  have hzero : (@unpackExponent Format.binary64 bits).toNat = 0 ↔
      @unpackExponent Format.binary64 bits = 0#11 := BitVec.toNat_inj (y := 0#11)
  have hempty : (@unpackMantissa Format.binary64 bits).toNat = 0 ↔
      @unpackMantissa Format.binary64 bits = 0#52 := BitVec.toNat_inj (y := 0#52)
  simp only [← toNat_unpackExponent, ← toNat_unpackMantissa, ← negative_unpackSign, unpack, hmax,
    hzero, hempty]
  split_ifs with hspecial hinfinite hsubnormal hnothing
  · rfl
  · rfl
  · rw [hnothing]
    rfl
  · rw [hsubnormal]
    rfl
  · rw [ofUnpacked, Whole.toNat_append_one, Nat.add_comm]
    rfl

end Fields

/-- The number that is read off the bits is the one that arithmetic works on. -/
theorem ofFloat_eq (x : Float) : ofFloat x = ofUnpacked x.toModel.unpack := by
  have hbits : x.toModel.unpack = unpack Format.binary64 x.toModel.toBits.toBitVec := rfl
  rw [hbits, ofUnpacked_unpack]
  rfl

theorem half_div (q : Nat) : 2 ^ q / 2 ^ (q + 1) = 0 :=
  Nat.div_eq_of_lt (Nat.pow_lt_pow_right (by decide) q.lt_succ_self)

theorem roundNat_zero (exponent : Int) : roundNat 0 exponent = 0 := by
  cases exponent with
  | ofNat q => exact Nat.zero_mul _
  | negSucc q =>
    show (0 + 2 ^ q) / 2 ^ (q + 1) = 0
    rw [Nat.zero_add, half_div]

/-- Zeros that were put at the end of a number are rounded away. -/
theorem roundNat_mul_two_pow (n k : Nat) : roundNat (n * 2 ^ k) (-(k : ℤ)) = n := by
  cases k with
  | zero =>
    show n * 2 ^ 0 * 2 ^ 0 = n
    simp
  | succ q =>
    show (n * 2 ^ (q + 1) + 2 ^ q) / 2 ^ (q + 1) = n
    rw [Nat.mul_comm, Nat.mul_add_div (by positivity), half_div, Nat.add_zero]

theorem roundNat_mantissa {n : Nat} (hsmall : n < 2 ^ 53) :
    roundNat (Whole.mantissa n) (Whole.scale n) = n := by
  have hlog := Whole.log2_le hsmall
  have hscale : Whole.scale n = -((52 - n.log2 : ℕ) : ℤ) := by
    rw [Whole.scale]
    omega
  rw [Whole.mantissa, Nat.shiftLeft_eq, hscale, roundNat_mul_two_pow]

end Binary64

/-! ### Numbers -/

/-- A floating-point number is a whole number of at most 53 digits. -/
def IsWhole (x : Float) (n : ℤ) : Prop := Whole.Holds x.toModel.unpack n

namespace IsWhole

open Whole (Holds)

variable {x y : Float} {a b : ℤ}

theorem mk {u : UnpackedFloat} (h : Holds u a) : IsWhole ⟨Float.Model.pack u⟩ a := by
  show Holds (Float.Model.pack u).unpack a
  rwa [h.unpack_pack]

theorem neg (h : IsWhole x a) : IsWhole (-x) (-a) := mk (Holds.neg h)

theorem zero : IsWhole 0.0 0 := Holds.zero .positive

theorem add_zero (h : IsWhole x a) (hy : IsWhole y 0) : IsWhole (x + y) a :=
  mk (Holds.add_zero h hy)

theorem mul_one (h : IsWhole x a) (hsmall : a.natAbs < 2 ^ 53) : IsWhole (x * 1.0) a := by
  have hproduct := Holds.mul_two_pow h 0 (by rwa [pow_zero, Nat.mul_one])
  rw [pow_zero, Int.mul_one] at hproduct
  exact mk hproduct

theorem mul_two (h : IsWhole x a) (hsmall : a.natAbs < 2 ^ 52) : IsWhole (x * 2.0) (a * 2) :=
  mk (Holds.mul_two_pow h 1 (by omega))

theorem le_iff (hx : IsWhole x a) (hy : IsWhole y b) : x ≤ y ↔ a ≤ b := by
  have hmodel : x ≤ y ↔ x.toModel.unpack.le y.toModel.unpack = true := decide_eq_true_iff
  rw [hmodel, UnpackedFloat.le, Holds.compare_eq hx hy, Option.any_some, Std.isLE_compare]

theorem ofNat {n : Nat} (h : n < 2 ^ 53) : IsWhole (Float.ofNat n) n := by
  have hfew : n < 2 ^ 53 ∧ 0 ≤ 22 := ⟨h, Nat.zero_le _⟩
  have hproduct : Float.ofNat n = n.toUInt64.toFloat * 1.0 := by
    show Float.ofScientific n false 0 = _
    rw [Float.ofScientific, dif_pos hfew]
    rfl
  have hword : n.toUInt64.toNat = n := Nat.mod_eq_of_lt (by omega)
  rw [hproduct]
  refine mul_one (mk ?_) (by rwa [Int.natAbs_natCast])
  rw [UnpackedFloat.ofUInt64, UnpackedFloat.ofNat, UnpackedFloat.ofInt, hword]
  rcases Nat.eq_zero_or_pos n with rfl | hpos
  · exact .zero .positive
  · rw [UnpackedFloat.normalize, compare_gt_iff_gt.2 (Int.natCast_pos.2 hpos)]
    show Holds (UnpackedFloat.round _ .positive n 0) n
    rw [Whole.round_exact .positive hpos h]
    exact .positive hpos h

theorem ofInt {n : ℤ} (h : n.natAbs < 2 ^ 53) : IsWhole (Float.ofInt n) n := by
  cases n with
  | ofNat n => exact ofNat h
  | negSucc n => exact (ofNat h).neg

/-- A whole number is the integer nearest to it. -/
theorem roundInt64 (h : IsWhole x a) : (Binary64.ofFloat x).roundInt64 = Int64.ofInt a := by
  have hmin := Int64.toInt_minValue
  have hmax := Int64.toInt_maxValue
  rw [Binary64.ofFloat_eq]
  unfold IsWhole at h
  generalize x.toModel.unpack = u at h
  cases h with
  | zero sign =>
    cases sign with
    | positive =>
      show Int64.ofInt (min (Binary64.roundNat 0 (-1074)) _) = _
      rw [Binary64.roundNat_zero, min_eq_left (by omega)]
      rfl
    | negative =>
      show Int64.ofInt (max (-(Binary64.roundNat 0 (-1074) : ℤ)) _) = _
      rw [Binary64.roundNat_zero, max_eq_left (by omega)]
      rfl
  | @positive n hpos hsmall =>
    show Int64.ofInt (min (Binary64.roundNat (Whole.mantissa n) (Whole.scale n)) _) = _
    rw [Binary64.roundNat_mantissa hsmall, min_eq_left (by omega)]
  | @negative n hpos hsmall =>
    show Int64.ofInt (max (-(Binary64.roundNat (Whole.mantissa n) (Whole.scale n) : ℤ)) _) = _
    rw [Binary64.roundNat_mantissa hsmall, max_eq_left (by omega)]

end IsWhole

end MeshBridge
