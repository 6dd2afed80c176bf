import Mathlib
import SparkGateway.Decimal.Binary64

/-!
# Binary fractions and their logical model

In the logical model of floating-point numbers the bits are unpacked into a sign, a mantissa and an
exponent.  What a number stands for, read off its bits by division, is what it is in the model
(`ofFloat_eq`), so comparisons that are defined there can be told from the reading.

The number nearest to a quotient is always a number, possibly an infinite one (`isNaN_nearest`): the
quotient is rounded in a unit in which it has at most 53 bits, so the exponent never runs into the bits
that mark what is no number.
-/

namespace SparkGateway.Decimal

open Float.Model (UnpackedFloat Format)

/-! ## The three fields of the bits -/

/-- The field of the exponent. -/
abbrev exponentField (b : BitVec 64) : BitVec 11 :=
  @UnpackedFloat.unpackExponent Format.binary64 b

/-- The field of the mantissa. -/
abbrev mantissaField (b : BitVec 64) : BitVec 52 :=
  @UnpackedFloat.unpackMantissa Format.binary64 b

/-- The field of the sign. -/
abbrev signField (b : BitVec 64) : BitVec 1 :=
  @UnpackedFloat.unpackSign Format.binary64 b

theorem toNat_exponentField (b : BitVec 64) :
    (exponentField b).toNat = b.toNat / twoTo 52 % twoTo 11 := by
  simp [UnpackedFloat.unpackExponent, BitVec.extractLsb_toNat, Nat.shiftRight_eq_div_pow, twoTo]

theorem toNat_mantissaField (b : BitVec 64) : (mantissaField b).toNat = b.toNat % twoTo 52 := by
  simp [UnpackedFloat.unpackMantissa, BitVec.extractLsb_toNat, twoTo]

theorem toNat_signField (b : BitVec 64) : (signField b).toNat = b.toNat / twoTo 63 := by
  have hlt := b.isLt
  simp only [UnpackedFloat.unpackSign, BitVec.toNat_cast, BitVec.extractLsb_toNat,
    Nat.shiftRight_eq_div_pow, twoTo, Nat.pow_eq]
  omega

theorem exponentField_eq_ones_iff (b : BitVec 64) :
    exponentField b = -1#11 ↔ b.toNat / twoTo 52 % twoTo 11 = 2047 := by
  rw [← toNat_exponentField, ← BitVec.toNat_inj]
  rfl

theorem exponentField_eq_zero_iff (b : BitVec 64) :
    exponentField b = 0#11 ↔ b.toNat / twoTo 52 % twoTo 11 = 0 := by
  rw [← toNat_exponentField, ← BitVec.toNat_inj]
  rfl

theorem mantissaField_eq_zero_iff (b : BitVec 64) :
    mantissaField b = 0#52 ↔ b.toNat % twoTo 52 = 0 := by
  rw [← toNat_mantissaField, ← BitVec.toNat_inj]
  rfl

theorem toNat_one_append (m : BitVec 52) : (1#1 ++ m).toNat = m.toNat + twoTo 52 := by
  rw [BitVec.toNat_append, ← Nat.shiftLeft_add_eq_or_of_lt m.isLt, Nat.shiftLeft_eq, Nat.add_comm]
  rfl

/-! ## What a number stands for -/

/-- Whether a sign is a minus. -/
def isMinus : UnpackedFloat.Sign → Bool
  | .negative => true
  | .positive => false

theorem isMinus_ofBitVec (c : BitVec 1) : isMinus (.ofBitVec c) = (c.toNat == 1) := by
  revert c
  decide

/-- What an unpacked number stands for. -/
def Value.ofUnpacked : UnpackedFloat → Value
  | .notANumber => .nan
  | .infinity s => .infinite (isMinus s)
  | .zero s => .finite (isMinus s) 0 (-1074)
  | .finite s m e _ => .finite (isMinus s) m e

/-- A number stands for what it is in the logical model. -/
theorem ofFloat_eq (x : Float) : Value.ofFloat x = Value.ofUnpacked x.toModel.unpack := by
  have hs : isMinus (.ofBitVec (signField x.toBits.toBitVec)) = (x.toBits.toNat / twoTo 63 == 1) := by
    rw [isMinus_ofBitVec, toNat_signField]
    rfl
  have hinf := exponentField_eq_ones_iff x.toBits.toBitVec
  have hzero := exponentField_eq_zero_iff x.toBits.toBitVec
  have hfrac := mantissaField_eq_zero_iff x.toBits.toBitVec
  have he := toNat_exponentField x.toBits.toBitVec
  have hm := toNat_mantissaField x.toBits.toBitVec
  rw [UInt64.toNat_toBitVec] at hinf hzero hfrac he hm
  show _ = Value.ofUnpacked (UnpackedFloat.unpack Format.binary64 x.toBits.toBitVec)
  simp only [Value.ofFloat, UnpackedFloat.unpack, ← hs]
  by_cases h1 : x.toBits.toNat / twoTo 52 % twoTo 11 = 2047
  · rw [if_pos h1, if_pos (hinf.2 h1)]
    by_cases h2 : x.toBits.toNat % twoTo 52 = 0
    · rw [if_pos h2, if_pos (hfrac.2 h2)]
      rfl
    · rw [if_neg h2, if_neg (mt hfrac.1 h2)]
      rfl
  · rw [if_neg h1, if_neg (mt hinf.1 h1)]
    by_cases h2 : x.toBits.toNat / twoTo 52 % twoTo 11 = 0
    · rw [if_pos h2, if_pos (hzero.2 h2)]
      by_cases h3 : x.toBits.toNat % twoTo 52 = 0
      · rw [dif_pos (hfrac.2 h3), h3]
        rfl
      · rw [dif_neg (mt hfrac.1 h3), Value.ofUnpacked, ← hm, he, h2]
        rfl
    · rw [if_neg h2, if_neg (mt hzero.1 h2), Value.ofUnpacked, toNat_one_append, ← hm, ← he]
      rfl

theorem ofFloat_eq_nan_iff (x : Float) : Value.ofFloat x = .nan ↔ x.isNaN = true := by
  rw [ofFloat_eq]
  show _ ↔ x.toModel.unpack.isNaN = true
  cases x.toModel.unpack <;> simp [Value.ofUnpacked, UnpackedFloat.isNaN]

/-! ## Bits that are no number -/

theorem isNaN_unpack_iff (b : BitVec 64) :
    (UnpackedFloat.unpack Format.binary64 b).isNaN = true ↔
      exponentField b = -1#11 ∧ mantissaField b ≠ 0#52 := by
  simp only [UnpackedFloat.unpack]
  split_ifs <;> simp_all [UnpackedFloat.isNaN]

/-- Bits are no number if the exponent has all ones and the mantissa is not zero. -/
theorem isNaN_ofBits_iff (u : UInt64) :
    (Float.ofBits u).isNaN = true ↔
      u.toNat / twoTo 52 % twoTo 11 = 2047 ∧ u.toNat % twoTo 52 ≠ 0 := by
  have hbits : (UnpackedFloat.unpack Format.binary64 u.toBitVec).isNaN = true ↔
      u.toNat / twoTo 52 % twoTo 11 = 2047 ∧ u.toNat % twoTo 52 ≠ 0 := by
    rw [isNaN_unpack_iff, exponentField_eq_ones_iff, Ne, mantissaField_eq_zero_iff]
    rfl
  show (UnpackedFloat.unpack Format.binary64
    (UnpackedFloat.pack Format.binary64 (UnpackedFloat.unpack Format.binary64 u.toBitVec))).isNaN = true ↔ _
  rw [← hbits, UnpackedFloat.pack_unpack]
  split_ifs with h
  · rw [UnpackedFloat.unpack_packedNaN, isNaN_unpack_iff]
    exact iff_of_true rfl (of_decide_eq_true h)
  · rfl

/-- The bits of a sign. -/
def signBits (negative : Bool) : Nat := if negative then twoTo 63 else 0

/-- The bits up to those of infinity, with a sign in front of them, are a number. -/
theorem isNaN_ofBits_of_le (negative : Bool) {bits : Nat} (hbits : bits ≤ 2047 * twoTo 52) :
    (Float.ofBits (UInt64.ofNat (signBits negative + bits))).isNaN = false := by
  rw [Bool.eq_false_iff, Ne, isNaN_ofBits_iff, UInt64.toNat_ofNat']
  cases negative <;> simp only [signBits, twoTo, Nat.pow_eq, if_true, Bool.false_eq_true, if_false] at * <;>
    omega

/-! ## Rounding

The number nearest to a quotient, taken apart: the unit in which the quotient is rounded, the number of
units, and the bits of so many units. -/

/-- A quotient in units of a power of two, as a numerator and a denominator. -/
def inUnits (num den : Nat) (e : Int) : Nat × Nat :=
  if 0 ≤ e then (num, den * twoTo e.toNat) else (num * twoTo (-e).toNat, den)

/-- A first guess of the unit in which a quotient is rounded. -/
def guessedUnit (num den : Nat) : Int := (num.log2 : Int) - (den.log2 : Int) - 52

/-- The unit in which a quotient is rounded. -/
def roundingUnit (num den : Nat) : Int :=
  let guess := guessedUnit num den
  let whole := inUnits num den guess
  max (if whole.1 / whole.2 < twoTo 52 then guess - 1 else guess) (-1074)

/-- The number of units. -/
def roundedQuotient (num den : Nat) : Nat :=
  let whole := inUnits num den (roundingUnit num den)
  roundDiv whole.1 whole.2

/-- The bits of a number of units, without a sign. -/
def magnitudeBits (q : Nat) (e : Int) : Nat :=
  if 971 < e then 2047 * twoTo 52
  else if q < twoTo 52 then q
  else (e + 1075).toNat * twoTo 52 + (q - twoTo 52)

/-- The bits of the number nearest to a quotient, without a sign. -/
def nearestBits (num den : Nat) : Nat :=
  let q := roundedQuotient num den
  let e := roundingUnit num den
  if num = 0 then 0
  else if q = twoTo 53 then magnitudeBits (twoTo 52) (e + 1)
  else magnitudeBits q e

/-- A number of units with a sign, branch by branch. -/
def withSign (negative : Bool) : Nat × Int → Float
  | (q, e) =>
    let sign : Nat := if negative then twoTo 63 else 0
    if 971 < e then Float.ofBits (UInt64.ofNat (sign + 2047 * twoTo 52))
    else if q < twoTo 52 then Float.ofBits (UInt64.ofNat (sign + q))
    else Float.ofBits (UInt64.ofNat (sign + (e + 1075).toNat * twoTo 52 + (q - twoTo 52)))

theorem withSign_eq (negative : Bool) (q : Nat) (e : Int) :
    withSign negative (q, e) = Float.ofBits (UInt64.ofNat (signBits negative + magnitudeBits q e)) := by
  simp only [withSign, magnitudeBits, signBits]
  split_ifs <;> simp only [Nat.add_assoc]

theorem nearest_eq (negative : Bool) (num den : Nat) :
    nearest negative num den =
      Float.ofBits (UInt64.ofNat (signBits negative + nearestBits num den)) := by
  by_cases hzero : num = 0
  · rw [nearest, nearestBits, if_pos hzero, if_pos hzero]
    rfl
  · rw [nearest, nearestBits, if_neg hzero, if_neg hzero]
    show withSign negative
      (if roundedQuotient num den = twoTo 53 then (twoTo 52, roundingUnit num den + 1)
        else (roundedQuotient num den, roundingUnit num den)) = _
    split_ifs with hq
    · exact withSign_eq negative _ _
    · exact withSign_eq negative _ _

theorem roundDiv_le {n d bound : Nat} (h : n < bound * d) : roundDiv n d ≤ bound := by
  have hq : n / d < bound := Nat.div_lt_of_lt_mul (by rwa [Nat.mul_comm])
  unfold roundDiv
  simp only
  split_ifs <;> omega

theorem magnitudeBits_le {q : Nat} {e : Int} (hq : q < twoTo 53) :
    magnitudeBits q e ≤ 2047 * twoTo 52 := by
  unfold magnitudeBits
  split_ifs <;> simp only [twoTo, Nat.pow_eq] at * <;> omega

theorem cast_twoTo (k : Nat) : (twoTo k : ℚ) = 2 ^ k := by
  simp [twoTo]

theorem inUnits_pos (num : Nat) {den : Nat} (e : Int) (hden : 0 < den) : 0 < (inUnits num den e).2 := by
  unfold inUnits
  split_ifs
  · exact Nat.mul_pos hden (Nat.two_pow_pos _)
  · exact hden

theorem inUnits_div (num den : Nat) (e : Int) :
    ((inUnits num den e).1 : ℚ) / (inUnits num den e).2 = (num : ℚ) / den / 2 ^ e := by
  unfold inUnits
  split_ifs with h
  · rw [Nat.cast_mul, cast_twoTo, ← zpow_natCast, Int.toNat_of_nonneg h, div_mul_eq_div_div]
  · rw [Nat.cast_mul, cast_twoTo, ← zpow_natCast, Int.toNat_of_nonneg (by omega), zpow_neg,
      ← div_eq_mul_inv, div_right_comm]

theorem inUnits_lt_iff {num den : Nat} {e : Int} (hden : 0 < den) (bound : Nat) :
    (inUnits num den e).1 < bound * (inUnits num den e).2 ↔ (num : ℚ) / den < bound * 2 ^ e := by
  have hd : (0 : ℚ) < (inUnits num den e).2 := Nat.cast_pos.2 (inUnits_pos num e hden)
  rw [← Nat.cast_lt (α := ℚ), Nat.cast_mul, ← div_lt_iff₀ hd, inUnits_div,
    div_lt_iff₀ (zpow_pos two_pos e)]

/-- In units as guessed the quotient has at most 53 bits, -/
theorem div_lt_guessedUnit (num : Nat) {den : Nat} (hden : 0 < den) :
    (num : ℚ) / den < 2 ^ 53 * 2 ^ guessedUnit num den := by
  have hnum : (num : ℚ) < 2 ^ ((num.log2 : Int) + 1) := by
    exact_mod_cast Nat.lt_log2_self
  have hlog : (2 : ℚ) ^ (den.log2 : Int) ≤ den := by
    exact_mod_cast Nat.log2_self_le hden.ne'
  have hunit : (2 : ℚ) ^ 53 * 2 ^ guessedUnit num den =
      2 ^ ((num.log2 : Int) + 1) / 2 ^ (den.log2 : Int) := by
    rw [← zpow_sub₀ two_ne_zero, ← zpow_natCast, ← zpow_add₀ two_ne_zero]
    congr 1
    unfold guessedUnit
    omega
  rw [hunit]
  exact div_lt_div₀ hnum hlog (by positivity) (by positivity)

/-- and so it has in the unit in which it is rounded. -/
theorem div_lt_roundingUnit (num : Nat) {den : Nat} (hden : 0 < den) :
    (num : ℚ) / den < 2 ^ 53 * 2 ^ roundingUnit num den := by
  have hmono {e : Int} (he : e ≤ roundingUnit num den) (h : (num : ℚ) / den < 2 ^ 53 * 2 ^ e) :
      (num : ℚ) / den < 2 ^ 53 * 2 ^ roundingUnit num den :=
    h.trans_le (by gcongr; norm_num)
  by_cases h : (inUnits num den (guessedUnit num den)).1 / (inUnits num den (guessedUnit num den)).2 <
      twoTo 52
  · refine hmono (e := guessedUnit num den - 1) (by simp only [roundingUnit, if_pos h]; omega) ?_
    have hlt := (inUnits_lt_iff hden _).1 ((Nat.div_lt_iff_lt_mul (inUnits_pos num _ hden)).1 h)
    rw [zpow_sub_one₀ two_ne_zero]
    calc (num : ℚ) / den < (twoTo 52 : ℕ) * 2 ^ guessedUnit num den := hlt
      _ = 2 ^ 53 * (2 ^ guessedUnit num den * 2⁻¹) := by
        rw [cast_twoTo]
        ring
  · exact hmono (by simp only [roundingUnit, if_neg h]; omega) (div_lt_guessedUnit num hden)

theorem roundedQuotient_le (num : Nat) {den : Nat} (hden : 0 < den) :
    roundedQuotient num den ≤ twoTo 53 := by
  refine roundDiv_le ((inUnits_lt_iff hden _).2 ?_)
  rw [cast_twoTo]
  exact div_lt_roundingUnit num hden

theorem nearestBits_le (num : Nat) {den : Nat} (hden : 0 < den) :
    nearestBits num den ≤ 2047 * twoTo 52 := by
  unfold nearestBits
  simp only
  split_ifs with hzero hq
  · exact Nat.zero_le _
  · exact magnitudeBits_le (by decide)
  · exact magnitudeBits_le (lt_of_le_of_ne (roundedQuotient_le num hden) hq)

/-- The number nearest to a quotient is a number. -/
theorem isNaN_nearest (negative : Bool) (num : Nat) {den : Nat} (hden : 0 < den) :
    (nearest negative num den).isNaN = false := by
  rw [nearest_eq]
  exact isNaN_ofBits_of_le negative (nearestBits_le num hden)

theorem isNaN_nearestDecimal (negative : Bool) (digits : Nat) (power : Int) :
    (nearestDecimal negative digits power).isNaN = false := by
  unfold nearestDecimal
  simp only
  split_ifs
  · exact isNaN_nearest _ _ Nat.one_pos
  · exact isNaN_nearest _ _ Nat.one_pos
  · exact isNaN_nearest _ _ Nat.one_pos
  · exact isNaN_nearest _ _ (Nat.pow_pos (by decide))

end SparkGateway.Decimal
