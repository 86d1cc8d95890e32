import Candlestick.Proofs.Double.Order

/-!
# The double nearest to a decimal

Two spellings of one number have the same double next to them (`Decimal.toDouble_eq_of_same`). For a
decimal within the usual range this is so because rounding a quotient does not depend on how the
quotient is written. The powers of ten that `Decimal.toDouble` does not compute are those for which
rounding would lead to infinity or to zero, whatever the digits are.
-/

namespace Candlestick

/- Powers are those of natural numbers, whichever other powers are known. -/
attribute [local instance (2000)] instPowNat

theorem roundHalfEven_mul_left {k : Nat} (hk : 0 < k) (num den : Nat) :
    roundHalfEven (k * num) (k * den) = roundHalfEven num den := by
  have hquotient : k * num / (k * den) = num / den := Nat.mul_div_mul_left num den hk
  have hremainder : k * num % (k * den) = k * (num % den) := Nat.mul_mod_mul_left k num den
  have hbelow : 2 * (k * (num % den)) < k * den ↔ 2 * (num % den) < den := by
    rw [Nat.mul_left_comm, Nat.mul_lt_mul_left hk]
  have habove : k * den < 2 * (k * (num % den)) ↔ den < 2 * (num % den) := by
    rw [Nat.mul_left_comm, Nat.mul_lt_mul_left hk]
  simp only [roundHalfEven, hquotient, hremainder, hbelow, habove]

namespace Double

theorem nearest_mul_left {k : Nat} (hk : 0 < k) (num den : Nat) :
    nearest (k * num) (k * den) = nearest num den := by
  unfold nearest
  dsimp only
  rw [Nat.mul_div_mul_left num den hk, Nat.mul_assoc, roundHalfEven_mul_left hk]

theorem ofQuotient_eq_of_nearest_eq {num den num' den' : Nat}
    (h : nearest num den = nearest num' den') (negative : Bool) :
    ofQuotient negative num den = ofQuotient negative num' den' := by
  unfold ofQuotient
  simp only [h]

/-- Rounding a quotient does not depend on how the quotient is written. -/
theorem ofQuotient_eq_of_mul_eq {num den num' den' : Nat} (hden : 0 < den) (hden' : 0 < den')
    (h : num * den' = num' * den) (negative : Bool) :
    ofQuotient negative num den = ofQuotient negative num' den' := by
  refine ofQuotient_eq_of_nearest_eq ?_ negative
  calc
    nearest num den = nearest (den' * num) (den' * den) := (nearest_mul_left hden' num den).symm
    _ = nearest (den * num') (den * den') := by
      rw [Nat.mul_comm den' num, h, Nat.mul_comm num' den, Nat.mul_comm den' den]
    _ = nearest num' den' := nearest_mul_left hden num' den'

/-- Less than half a unit is rounded to zero. -/
theorem nearest_eq_zero {num den : Nat} (h : 2 * num < den) : nearest num den = 0 := by
  have hdiv : num / den = 0 := Nat.div_eq_of_lt (by omega)
  have hmod : num % den = num := Nat.mod_eq_of_lt (by omega)
  simp [nearest, hdiv, spacing, roundHalfEven, hmod, h]

theorem ofQuotient_eq_infinite {num den : Nat} (hden : 0 < den) (h : ceiling * den ≤ num)
    (negative : Bool) : ofQuotient negative num den = .infinite negative := by
  have hquotient : ceiling ≤ num / den := (Nat.le_div_iff_mul_le hden).mpr h
  have hne : num / den ≠ 0 := by
    have hpos := ceiling_pos
    omega
  have hlog : 1024 + unitExponent ≤ (num / den).log2 := (Nat.le_log2 hne).mpr hquotient
  refine dif_neg (Nat.not_lt.mpr ?_)
  calc
    ceiling ≤ 2 ^ (num / den).log2 := Nat.pow_le_pow_right (by decide) hlog
    _ ≤ nearest num den := two_pow_log2_le_nearest hne

end Double

namespace Decimal

/-- The numerator of a decimal, written as a quotient of whole numbers. -/
def num (d : Decimal) : Nat :=
  d.digits * 10 ^ d.exponent.toNat

/-- The denominator of a decimal, written as a quotient of whole numbers. -/
def den (d : Decimal) : Nat :=
  10 ^ (-d.exponent).toNat

theorem ten_pow_pos (n : Nat) : 0 < 10 ^ n :=
  Nat.pow_pos (Nat.succ_pos 9)

theorem ten_pow_le {m n : Nat} (h : m ≤ n) : 10 ^ m ≤ 10 ^ n :=
  Nat.pow_le_pow_right (Nat.succ_pos 9) h

theorem den_pos (d : Decimal) : 0 < d.den :=
  ten_pow_pos _

/-- A decimal of a digit or more that is as large as this is above all doubles. -/
theorem ceiling_le_of_exponent {d : Decimal} (hdigits : d.digits ≠ 0) (h : 310 < d.exponent) :
    Double.ceiling * d.den ≤ d.num * Double.one := by
  have hden : d.den = 1 := by
    rw [den, Int.toNat_of_nonpos (by omega), Nat.pow_zero]
  have hceiling : Double.ceiling ≤ 10 ^ (311 : Nat) * Double.one := by decide +kernel
  have hexponent := ten_pow_le (show 311 ≤ d.exponent.toNat by omega)
  have hdigit : 10 ^ d.exponent.toNat ≤ d.digits * 10 ^ d.exponent.toNat :=
    Nat.le_mul_of_pos_left _ (Nat.pos_of_ne_zero hdigits)
  rw [hden, Nat.mul_one, num]
  have hunits := Nat.mul_le_mul_right Double.one (Nat.le_trans hexponent hdigit)
  exact Nat.le_trans hceiling hunits

/-- A decimal as small as this is less than half a unit. -/
theorem lt_den_of_exponent {d : Decimal}
    (h : d.exponent + d.digits.log2 / 3 < -400) : 2 * (d.num * Double.one) < d.den := by
  generalize hlead : d.digits.log2 / 3 = lead at h
  have hnum : d.num = d.digits := by
    rw [num, Int.toNat_of_nonpos (by omega), Nat.pow_zero, Nat.mul_one]
  -- The digits have at most three bits for each power of ten that is counted.
  have hsize : d.digits < 10 ^ (lead + 1) :=
    calc
      d.digits < 2 ^ (d.digits.log2 + 1) := Nat.lt_log2_self
      _ ≤ 2 ^ (3 * (lead + 1)) := Nat.pow_le_pow_right (by decide) (by omega)
      _ = 8 ^ (lead + 1) := by rw [Nat.pow_mul]
      _ ≤ 10 ^ (lead + 1) := Nat.pow_le_pow_left (by decide) _
  have hunits : 2 * Double.one ≤ 10 ^ (400 : Nat) := by decide +kernel
  rw [hnum, den]
  calc
    2 * (d.digits * Double.one) = d.digits * (2 * Double.one) := Nat.mul_left_comm _ _ _
    _ ≤ d.digits * 10 ^ (400 : Nat) := Nat.mul_le_mul_left d.digits hunits
    _ < 10 ^ (lead + 1) * 10 ^ (400 : Nat) :=
      Nat.mul_lt_mul_of_pos_right hsize (ten_pow_pos 400)
    _ = 10 ^ (lead + 1 + 400) := by rw [Nat.pow_add 10 (lead + 1) 400]
    _ ≤ 10 ^ (-d.exponent).toNat := ten_pow_le (by omega)

/-- The double of a decimal is what its quotient is rounded to. -/
theorem toDouble_eq (d : Decimal) :
    d.toDouble = Double.ofQuotient d.negative (d.num * Double.one) d.den := by
  have hzero : ∀ num den : Nat, 2 * num < den →
      Double.ofQuotient d.negative 0 1 = Double.ofQuotient d.negative num den := by
    intro num den h
    refine Double.ofQuotient_eq_of_nearest_eq ?_ d.negative
    rw [Double.nearest_eq_zero h, Double.nearest_eq_zero (by decide)]
  unfold toDouble
  split
  · next hdigits =>
      refine hzero _ _ ?_
      rw [num, hdigits, Nat.zero_mul, Nat.zero_mul, Nat.mul_zero]
      exact d.den_pos
  split
  · next hdigits hlarge =>
      exact (Double.ofQuotient_eq_infinite d.den_pos (ceiling_le_of_exponent hdigits hlarge) _).symm
  split
  · next hsmall => exact hzero _ _ (lt_den_of_exponent hsmall)
  split
  · next hwhole =>
      rw [num, den, Int.toNat_of_nonpos (by omega : -d.exponent ≤ 0), Nat.pow_zero]
  · next hfraction =>
      rw [num, den, Int.toNat_of_nonpos (by omega : d.exponent ≤ 0), Nat.pow_zero, Nat.mul_one]

/-- Two decimals that are the same number. -/
structure Same (d e : Decimal) : Prop where
  negative_eq : d.negative = e.negative
  quotient_eq : d.num * e.den = e.num * d.den

/-- Spellings of one number have the same double next to them. -/
theorem toDouble_eq_of_same {d e : Decimal} (h : Same d e) : d.toDouble = e.toDouble := by
  have hquotient : d.num * Double.one * e.den = e.num * Double.one * d.den := by
    rw [Nat.mul_right_comm, h.quotient_eq, Nat.mul_right_comm]
  rw [toDouble_eq, toDouble_eq, h.negative_eq]
  exact Double.ofQuotient_eq_of_mul_eq d.den_pos e.den_pos hquotient e.negative

/-- Zeros at the end of the digits can be traded for powers of ten. -/
theorem same_mul_pow (negative : Bool) (digits zeros : Nat) (exponent : Int) :
    Same ⟨negative, digits * 10 ^ zeros, exponent⟩ ⟨negative, digits, exponent + zeros⟩ := by
  refine ⟨rfl, ?_⟩
  simp only [num, den]
  have hpowers : zeros + exponent.toNat + (-(exponent + zeros)).toNat =
      (exponent + zeros).toNat + (-exponent).toNat := by omega
  calc
    digits * 10 ^ zeros * 10 ^ exponent.toNat * 10 ^ (-(exponent + zeros)).toNat =
        digits * 10 ^ (zeros + exponent.toNat + (-(exponent + zeros)).toNat) := by
      rw [Nat.pow_add, Nat.pow_add, Nat.mul_assoc, Nat.mul_assoc, Nat.mul_assoc]
    _ = digits * 10 ^ (exponent + zeros).toNat * 10 ^ (-exponent).toNat := by
      rw [hpowers, Nat.pow_add, Nat.mul_assoc]

end Decimal

end Candlestick
