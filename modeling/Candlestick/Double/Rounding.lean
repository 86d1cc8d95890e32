import Candlestick.Double.Basic

/-!
# Rounding to the nearest double

Every arithmetic operation is exact on units and is followed by one rounding of a quotient
`num / den` to the nearest number that a double can hold, a tie going to the even neighbour
(`nearest`). Numbers of `2 ^ 1024` and more become infinite. `representable_nearest` says that
what comes out can indeed be held, `nearest_of_dvd` that a number which can be held stays.
-/

namespace Candlestick

/- Powers are those of natural numbers, whichever other powers are known. -/
attribute [local instance (2000)] instPowNat

/-- The whole number nearest to `num / den`; of two equally near the even one. -/
def roundHalfEven (num den : Nat) : Nat :=
  let quotient := num / den
  let remainder := num % den
  if 2 * remainder < den then quotient
  else if den < 2 * remainder then quotient + 1
  else if quotient % 2 = 0 then quotient
  else quotient + 1

theorem roundHalfEven_le (num den : Nat) : roundHalfEven num den ≤ num / den + 1 := by
  unfold roundHalfEven
  dsimp only
  split
  · omega
  split
  · omega
  split <;> omega

theorem le_roundHalfEven (num den : Nat) : num / den ≤ roundHalfEven num den := by
  unfold roundHalfEven
  dsimp only
  split
  · omega
  split
  · omega
  split <;> omega

theorem roundHalfEven_of_dvd {num den : Nat} (hden : 0 < den) (h : den ∣ num) :
    roundHalfEven num den = num / den := by
  have hrem : num % den = 0 := Nat.mod_eq_zero_of_dvd h
  simp [roundHalfEven, hrem, hden]

namespace Double

/-- The number of units nearest to `num / den` that has at most 53 significant bits. -/
def nearest (num den : Nat) : Nat :=
  let step := spacing (num / den)
  roundHalfEven num (den * step) * step

private theorem spacing_dvd_of_le {m k : Nat} (h : m ≤ 2 ^ (53 : Nat)) :
    spacing (m * 2 ^ k) ∣ m * 2 ^ k := by
  by_cases hm : m = 0
  · simp [hm]
  have hpos : m * 2 ^ k ≠ 0 := by
    have := Nat.two_pow_pos k
    exact Nat.mul_ne_zero hm (by omega)
  by_cases htop : m = 2 ^ (53 : Nat)
  · subst htop
    rw [spacing, ← Nat.pow_add, Nat.log2_two_pow]
    exact Nat.pow_dvd_pow 2 (by omega)
  · have hlt : m * 2 ^ k < 2 ^ (53 + k) := by
      rw [Nat.pow_add]
      exact Nat.mul_lt_mul_of_pos_right (by omega) (Nat.two_pow_pos k)
    have hlog := (Nat.log2_lt hpos).2 hlt
    exact Nat.dvd_trans (Nat.pow_dvd_pow 2 (by omega)) (Nat.dvd_mul_left _ _)

theorem spacing_dvd_nearest (num den : Nat) : spacing (nearest num den) ∣ nearest num den := by
  unfold nearest
  apply spacing_dvd_of_le
  refine Nat.le_trans (roundHalfEven_le _ _) ?_
  have hquot : num / (den * spacing (num / den)) < 2 ^ (53 : Nat) := by
    rw [← Nat.div_div_eq_div_mul, Nat.div_lt_iff_lt_mul (spacing_pos _), spacing, ← Nat.pow_add]
    exact Nat.lt_of_lt_of_le Nat.lt_log2_self (Nat.pow_le_pow_right (by decide) (by omega))
  exact hquot

/-- A number that a double can hold is its own nearest one. -/
theorem nearest_of_dvd {n den : Nat} (hden : 0 < den) (h : spacing n ∣ n) :
    nearest (n * den) den = n := by
  have hdiv : n * den / den = n := Nat.mul_div_cancel n hden
  unfold nearest
  rw [hdiv]
  obtain ⟨k, hk⟩ := h
  have hpos := spacing_pos n
  have hprod : n * den = den * spacing n * k := by
    conv => lhs; rw [hk]
    rw [Nat.mul_comm, Nat.mul_assoc]
  have hdvd : den * spacing n ∣ n * den := ⟨k, hprod⟩
  dsimp only
  rw [roundHalfEven_of_dvd (Nat.mul_pos hden hpos) hdvd, hprod,
    Nat.mul_div_cancel_left k (Nat.mul_pos hden hpos), Nat.mul_comm]
  exact hk.symm

/-- The double nearest to `num / den` units, with the given sign. -/
def ofQuotient (negative : Bool) (num den : Nat) : Double :=
  if h : nearest num den < ceiling then
    .finite negative ⟨nearest num den, h, spacing_dvd_nearest num den⟩
  else
    .infinite negative

/-- A finite double is what its own units round to. -/
theorem ofQuotient_units (negative : Bool) (m : Magnitude) {den : Nat} (hden : 0 < den) :
    ofQuotient negative (m.units * den) den = .finite negative m := by
  have hnear := nearest_of_dvd hden m.representable.2
  unfold ofQuotient
  simp only [hnear, m.representable.1, dif_pos]

/-- The double nearest to a signed number of units; zero is positive. -/
def ofUnits (n : Int) : Double :=
  ofQuotient (decide (n < 0)) n.natAbs 1

def ofInt (n : Int) : Double :=
  ofQuotient (decide (n < 0)) (n.natAbs * one) 1

/-- The double nearest to the quotient of a whole number by a positive one. -/
def ofRatio (n : Int) (den : Nat) : Double :=
  ofQuotient (decide (n < 0)) (n.natAbs * one) den

end Double

/-- A decimal number `± digits * 10 ^ exponent`. -/
structure Decimal where
  negative : Bool
  digits : Nat
  exponent : Int
deriving DecidableEq, Repr

/-- The double nearest to a decimal. Powers of ten so large or so small that the answer does
not depend on the digits are not computed. -/
def Decimal.toDouble (d : Decimal) : Double :=
  if d.digits = 0 then
    Double.ofQuotient d.negative 0 1
  else if 310 < d.exponent then
    .infinite d.negative
  else if d.exponent + d.digits.log2 / 3 < -400 then
    Double.ofQuotient d.negative 0 1
  else if 0 ≤ d.exponent then
    Double.ofQuotient d.negative (d.digits * 10 ^ d.exponent.toNat * Double.one) 1
  else
    Double.ofQuotient d.negative (d.digits * Double.one) (10 ^ (-d.exponent).toNat)

end Candlestick
