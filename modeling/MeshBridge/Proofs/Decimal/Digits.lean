import Mathlib
/-!
Whole numbers in floating point. A whole number of at most 53 digits has one form with a mantissa of
full length (`Holds`). Rounding finds that form and leaves it alone, and packing loses nothing of
it; so negating, adding a zero and multiplying by a power of two give the form of the result again,
and numbers in this form are compared as the integers that they are (`Holds.compare_eq`).
-/

set_option autoImplicit false
set_option relaxedAutoImplicit false

namespace MeshBridge.Whole

open Float.Model (Format totalExponent UnpackedFloat)
open Float.Model.UnpackedFloat

variable {n k : Nat} {sign : Sign} {exponent : Int}

/-- The digits of a whole number, moved up until the first is the leading one of a mantissa. -/
def mantissa (n : Nat) : Nat := n <<< (52 - n.log2)

/-- Where these digits stand. -/
def scale (n : Nat) : Int := (n.log2 : Int) - 52

theorem mantissa_pos (h : 0 < n) : 0 < mantissa n := Nat.shiftLeft_pos_iff.2 h

theorem log2_mul_two_pow (h : 0 < n) (k : Nat) : (n * 2 ^ k).log2 = n.log2 + k := by
  have hdigits := (Nat.log2_eq_iff h.ne').1 rfl
  refine (Nat.log2_eq_iff (by positivity)).2 ⟨?_, ?_⟩
  · rw [pow_add]
    exact Nat.mul_le_mul_right _ hdigits.1
  · rw [Nat.add_right_comm, pow_add]
    exact Nat.mul_lt_mul_of_pos_right hdigits.2 (Nat.two_pow_pos k)

theorem log2_le (h : n < 2 ^ 53) : n.log2 ≤ 52 := by
  rcases Nat.eq_zero_or_pos n with rfl | hpos
  · decide
  · exact Nat.le_of_lt_succ ((Nat.log2_lt hpos.ne').2 h)

theorem log2_mantissa (h : 0 < n) (hsmall : n < 2 ^ 53) : (mantissa n).log2 = 52 := by
  have hlog := log2_le hsmall
  rw [mantissa, Nat.shiftLeft_eq, log2_mul_two_pow h]
  omega

/-- Zeros at the end of a mantissa are dropped without a loss. -/
theorem shiftRight_exact (m k : Nat) :
    ExtendedMantissa.ofMantissaAndAccuracy (m * 2 ^ k) .exact >>> k =
      ExtendedMantissa.ofMantissaAndAccuracy m .exact := by
  induction k generalizing m with
  | zero => simp [ExtendedMantissa.ofMantissaAndAccuracy]; rfl
  | succ k ih =>
    show ExtendedMantissa.shiftRightOne
      (ExtendedMantissa.ofMantissaAndAccuracy (m * 2 ^ (k + 1)) .exact >>> k) = _
    rw [pow_succ', ← mul_assoc, ih]
    simp [ExtendedMantissa.shiftRightOne, ExtendedMantissa.ofMantissaAndAccuracy]

/-- What has a mantissa of full length and zeros after it is rounded to itself. -/
theorem roundWithAccuracy_exact (sign : Sign) {m : Nat} (hpos : 0 < m) (hm : m.log2 = 52)
    (hexponent : -1074 ≤ exponent) (k : Nat) :
    roundWithAccuracy Format.binary64 sign (m * 2 ^ k) (exponent - k) .exact =
      .finite sign m exponent hpos := by
  have htarget (k : Nat) :
      Format.binary64.targetExponent (totalExponent (m * 2 ^ k) (exponent - k)) = exponent := by
    simp only [Format.targetExponent, totalExponent, log2_mul_two_pow hpos, hm, Format.mantissaBits,
      Format.minExponent]
    omega
  have hshift (k : Nat) :
      shiftToTargetExponent Format.binary64 (m * 2 ^ k) (exponent - k) .exact =
        (ExtendedMantissa.ofMantissaAndAccuracy m .exact, exponent) := by
    have hdelta : (exponent - (exponent - k)).toNat = k := by omega
    have hback : exponent - ↑k + ↑k = exponent := by omega
    simp only [shiftToTargetExponent, htarget, shiftToExponent, hdelta, shiftRight_exact, hback]
  have hrounded : (ExtendedMantissa.ofMantissaAndAccuracy m .exact).roundedMantissa = m := by
    simp [ExtendedMantissa.ofMantissaAndAccuracy, ExtendedMantissa.roundedMantissa,
      ExtendedMantissa.accuracy, Accuracy.roundToNearestEven]
  have hagain : shiftToTargetExponent Format.binary64 m exponent .exact =
      (ExtendedMantissa.ofMantissaAndAccuracy m .exact, exponent) := by
    simpa using hshift 0
  simp only [roundWithAccuracy, hshift, hrounded, hagain]
  exact dif_neg hpos.ne'

/-- Small whole numbers are rounded to themselves. -/
theorem round_exact (sign : Sign) (h : 0 < n) (hsmall : n < 2 ^ 53) :
    UnpackedFloat.round Format.binary64 sign n 0 =
      .finite sign (mantissa n) (scale n) (mantissa_pos h) := by
  have hlog := log2_le hsmall
  have htarget : Format.binary64.targetExponent (totalExponent n 0) = scale n := by
    simp only [Format.targetExponent, totalExponent, Format.mantissaBits, Format.minExponent, scale]
    omega
  have hup : (0 - scale n).toNat = 52 - n.log2 := by
    rw [scale]
    omega
  have hdown : (0 : Int) - ↑(52 - n.log2) = scale n := by
    rw [scale]
    omega
  have hlow : -1074 ≤ scale n := by
    rw [scale]
    omega
  have hround := roundWithAccuracy_exact sign (mantissa_pos h) (log2_mantissa h hsmall) hlow 0
  simp only [UnpackedFloat.round, htarget, decreaseExponent, hup, hdown]
  simpa [mantissa] using hround

/-! ### Packing -/

theorem toNat_append_one {w : Nat} (m : BitVec w) : (1#1 ++ m).toNat = 2 ^ w + m.toNat := by
  rw [BitVec.toNat_append, ← Nat.shiftLeft_add_eq_or_of_lt m.isLt]
  simp [Nat.shiftLeft_eq]

/-- A normal number is packed and unpacked without a loss. -/
theorem unpack_pack (sign : Sign) {m : Nat} (hm : m.log2 = 52) (hpos : 0 < m)
    (hlow : -1074 ≤ exponent) (hhigh : exponent ≤ 971) :
    unpack Format.binary64 (pack Format.binary64 (.finite sign m exponent hpos)) =
      .finite sign m exponent hpos := by
  have hdigits := (Nat.log2_eq_iff hpos.ne').1 hm
  have hbias : exponent + Format.binary64.exponentBias +
      Format.binary64.mantissaBitsWithoutImplicit = exponent + 1075 := by
    show exponent + 1023 + 52 = exponent + 1075
    omega
  have hfits : ¬ 2 ^ Format.binary64.exponentBits ≤ (exponent + 1075).toNat + 1 := by
    show ¬ 2048 ≤ (exponent + 1075).toNat + 1
    omega
  have hfield : (BitVec.ofNat 11 (exponent + 1075).toNat).toNat = (exponent + 1075).toNat := by
    rw [BitVec.toNat_ofNat]
    omega
  have hnotMax : BitVec.ofNat 11 (exponent + 1075).toNat ≠ -1#11 := by
    intro hsame
    have htoNat := congrArg BitVec.toNat hsame
    rw [hfield] at htoNat
    have hvalue : (exponent + 1075).toNat = 2047 := htoNat
    omega
  have hnotZero : BitVec.ofNat 11 (exponent + 1075).toNat ≠ 0#11 := by
    intro hsame
    have htoNat := congrArg BitVec.toNat hsame
    rw [hfield] at htoNat
    have hvalue : (exponent + 1075).toNat = 0 := htoNat
    omega
  have hmantissa : (1#1 ++ BitVec.ofNat 52 m).toNat = m := by
    rw [toNat_append_one, BitVec.toNat_ofNat]
    omega
  have hback : ((exponent + 1075).toNat : ℤ) -
      (Format.binary64.exponentBias + Format.binary64.mantissaBitsWithoutImplicit) = exponent := by
    show ((exponent + 1075).toNat : ℤ) - (1023 + 52) = exponent
    omega
  simp only [pack, hbias, if_neg hfits, hm]
  rw [if_pos (show 52 + 1 = Format.binary64.mantissaBits from rfl)]
  simp only [unpack, unpackMantissa_packComponents, unpackExponent_packComponents,
    unpackSign_packComponents, Sign.ofBitVec_toBitVec, if_neg hnotMax, if_neg hnotZero, hfield,
    hmantissa, hback]

/-! ### Whole numbers -/

/-- A number taken apart that is a whole one of at most 53 digits. -/
inductive Holds : UnpackedFloat → ℤ → Prop
  | zero (sign : Sign) : Holds (.zero sign) 0
  | positive {n : Nat} (h : 0 < n) (hsmall : n < 2 ^ 53) :
    Holds (.finite .positive (mantissa n) (scale n) (mantissa_pos h)) n
  | negative {n : Nat} (h : 0 < n) (hsmall : n < 2 ^ 53) :
    Holds (.finite .negative (mantissa n) (scale n) (mantissa_pos h)) (-n)

variable {x y : UnpackedFloat} {a b : ℤ}

theorem unpack_pack_finite (sign : Sign) (h : 0 < n) (hsmall : n < 2 ^ 53) :
    (Float.Model.pack (.finite sign (mantissa n) (scale n) (mantissa_pos h))).unpack =
      .finite sign (mantissa n) (scale n) (mantissa_pos h) := by
  have hlog := log2_le hsmall
  exact unpack_pack sign (log2_mantissa h hsmall) _ (by rw [scale]; omega) (by rw [scale]; omega)

/-- A whole number is packed and unpacked without a loss. -/
theorem Holds.unpack_pack (h : Holds x a) : (Float.Model.pack x).unpack = x := by
  cases h with
  | zero sign => cases sign <;> rfl
  | positive hpos hsmall => exact unpack_pack_finite .positive hpos hsmall
  | negative hpos hsmall => exact unpack_pack_finite .negative hpos hsmall

theorem Holds.neg (h : Holds x a) : Holds x.neg (-a) := by
  cases h with
  | zero sign => exact .zero (-sign)
  | positive hpos hsmall => exact .negative hpos hsmall
  | negative hpos hsmall =>
    rw [neg_neg]
    exact .positive hpos hsmall

theorem Holds.exists_zero (h : Holds x a) (ha : a = 0) : ∃ sign, x = .zero sign := by
  cases h with
  | zero sign => exact ⟨sign, rfl⟩
  | positive hpos => omega
  | negative hpos => omega

theorem Holds.add_zero (h : Holds x a) (hy : Holds y 0) :
    Holds (UnpackedFloat.add Format.binary64 x y) a := by
  obtain ⟨sign, rfl⟩ := hy.exists_zero rfl
  cases h with
  | zero first => cases first <;> cases sign <;> exact .zero _
  | positive hpos hsmall => exact .positive hpos hsmall
  | negative hpos hsmall => exact .negative hpos hsmall

theorem mantissa_mul_two_pow (h : 0 < n) (hsmall : n * 2 ^ k < 2 ^ 53) :
    mantissa (n * 2 ^ k) = mantissa n := by
  have hlog := log2_le hsmall
  rw [log2_mul_two_pow h] at hlog
  have hshift : k + (52 - (n.log2 + k)) = 52 - n.log2 := by omega
  rw [mantissa, mantissa, log2_mul_two_pow h, Nat.shiftLeft_eq, Nat.shiftLeft_eq, mul_assoc,
    ← pow_add, hshift]

theorem scale_mul_two_pow (h : 0 < n) (k : Nat) : scale (n * 2 ^ k) = scale n + k := by
  rw [scale, log2_mul_two_pow h, scale]
  omega

/-- Multiplying by a power of two moves a whole number up, as long as there is room. -/
theorem Holds.mul_two_pow (h : Holds x a) (k : Nat) (hsmall : a.natAbs * 2 ^ k < 2 ^ 53) :
    Holds (UnpackedFloat.mul Format.binary64 x
      (.finite .positive (2 ^ 52) ((k : ℤ) - 52) (Nat.two_pow_pos 52))) (a * 2 ^ k) := by
  have hproduct (sign : Sign) {n : Nat} (hpos : 0 < n) (hsmall : n * 2 ^ k < 2 ^ 53) :
      roundWithAccuracy Format.binary64 sign (mantissa n * 2 ^ 52) (scale n + (k - 52)) .exact =
        .finite sign (mantissa (n * 2 ^ k)) (scale (n * 2 ^ k))
          (mantissa_pos (by positivity)) := by
    have hless : n < 2 ^ 53 := (Nat.le_mul_of_pos_right n (Nat.two_pow_pos k)).trans_lt hsmall
    have hlow : -1074 ≤ scale n + k := by
      rw [scale]
      omega
    have hround :=
      roundWithAccuracy_exact sign (mantissa_pos hpos) (log2_mantissa hpos hless) hlow 52
    have hsum : scale n + (k - 52) = scale n + k - 52 := by omega
    simp only [mantissa_mul_two_pow hpos hsmall, scale_mul_two_pow hpos, hsum]
    exact hround
  cases h with
  | zero sign =>
    rw [zero_mul]
    exact .zero _
  | @positive n hpos hless =>
    have hsmall : n * 2 ^ k < 2 ^ 53 := hsmall
    have hvalue : (n : ℤ) * 2 ^ k = (n * 2 ^ k : ℕ) := by push_cast; rfl
    rw [hvalue]
    show Holds (roundWithAccuracy Format.binary64 .positive (mantissa n * 2 ^ 52) _ .exact) _
    rw [hproduct .positive hpos hsmall]
    exact .positive (by positivity) hsmall
  | @negative n hpos hless =>
    have hsmall : n * 2 ^ k < 2 ^ 53 := by rwa [Int.natAbs_neg, Int.natAbs_natCast] at hsmall
    have hvalue : -(n : ℤ) * 2 ^ k = -(n * 2 ^ k : ℕ) := by push_cast; ring
    rw [hvalue]
    show Holds (roundWithAccuracy Format.binary64 .negative (mantissa n * 2 ^ 52) _ .exact) _
    rw [hproduct .negative hpos hsmall]
    exact .negative (by positivity) hsmall

/-! ### Order -/

/-- Longer numbers stand higher, and numbers of one length are compared digit by digit. -/
theorem compare_digits {m : Nat} (hn : 0 < n) (hm : 0 < m) :
    (compare (scale n) (scale m)).then (compare (mantissa n) (mantissa m)) = compare n m := by
  have hless {n m : Nat} (hm : 0 < m) (hlog : n.log2 < m.log2) : n < m := by
    rcases Nat.eq_zero_or_pos n with rfl | hn
    · exact hm
    · exact ((Nat.log2_lt hn.ne').1 hlog).trans_le (Nat.log2_self_le hm.ne')
  rcases lt_trichotomy n.log2 m.log2 with hlog | hlog | hlog
  · have hscale : compare (scale n) (scale m) = .lt := by
      rw [compare_lt_iff_lt, scale, scale]
      omega
    rw [hscale, compare_lt_iff_lt.2 (hless hm hlog)]
    rfl
  · have hscale : compare (scale n) (scale m) = .eq := by
      rw [compare_eq_iff_eq, scale, scale, hlog]
    rw [hscale, Ordering.eq_then, mantissa, mantissa, hlog, Nat.shiftLeft_eq, Nat.shiftLeft_eq]
    have hpow := Nat.two_pow_pos (52 - m.log2)
    rcases lt_trichotomy n m with hlt | rfl | hgt
    · rw [compare_lt_iff_lt.2 hlt, compare_lt_iff_lt]
      exact Nat.mul_lt_mul_of_pos_right hlt hpow
    · rw [compare_eq_iff_eq.2 rfl, compare_eq_iff_eq.2 rfl]
    · rw [compare_gt_iff_gt.2 hgt, compare_gt_iff_gt]
      exact Nat.mul_lt_mul_of_pos_right hgt hpow
  · have hscale : compare (scale n) (scale m) = .gt := by
      rw [compare_gt_iff_gt, scale, scale]
      omega
    rw [hscale, compare_gt_iff_gt.2 (hless hn hlog)]
    rfl

/-- Whole numbers are compared as the integers that they are. -/
theorem Holds.compare_eq (hx : Holds x a) (hy : Holds y b) :
    UnpackedFloat.compare x y = some (compare a b) := by
  cases hx with
  | zero sign =>
    cases hy with
    | zero => rfl
    | positive hpos => exact congrArg some (compare_lt_iff_lt.2 (by omega)).symm
    | negative hpos => exact congrArg some (compare_gt_iff_gt.2 (by omega)).symm
  | @positive n hpos =>
    cases hy with
    | zero => exact congrArg some (compare_gt_iff_gt.2 (by omega)).symm
    | @positive m hpos' =>
      refine congrArg some ((compare_digits hpos hpos').trans ?_)
      rcases lt_trichotomy n m with hlt | rfl | hgt
      · rw [compare_lt_iff_lt.2 hlt, compare_lt_iff_lt.2 (by omega)]
      · rw [compare_eq_iff_eq.2 rfl, compare_eq_iff_eq.2 rfl]
      · rw [compare_gt_iff_gt.2 hgt, compare_gt_iff_gt.2 (by omega)]
    | negative hpos' => exact congrArg some (compare_gt_iff_gt.2 (by omega)).symm
  | @negative n hpos =>
    cases hy with
    | zero => exact congrArg some (compare_lt_iff_lt.2 (by omega)).symm
    | positive hpos' => exact congrArg some (compare_lt_iff_lt.2 (by omega)).symm
    | @negative m hpos' =>
      refine congrArg some ((congrArg Ordering.swap (compare_digits hpos hpos')).trans ?_)
      rcases lt_trichotomy n m with hlt | rfl | hgt
      · rw [compare_lt_iff_lt.2 hlt, compare_gt_iff_gt.2 (by omega)]
        rfl
      · rw [compare_eq_iff_eq.2 rfl, compare_eq_iff_eq.2 rfl]
        rfl
      · rw [compare_gt_iff_gt.2 hgt, compare_lt_iff_lt.2 (by omega)]
        rfl

end MeshBridge.Whole
