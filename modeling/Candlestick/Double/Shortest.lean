import Candlestick.Double.Rounding

/-!
# Shortest decimals

Every double is written with as few significant digits as tell it apart from its neighbours,
and of the decimals of that length with one nearest to it. `Magnitude.shortest` looks at 1, 2,
… 17 digits in turn; on each grid only the decimals on either side of the number can be the
nearest ones. Whatever is returned reads back as the number it was made from
(`toDouble_shortest`): each candidate is read back before it is accepted, and the last resort
is the whole decimal expansion, which is finite.
-/

namespace Candlestick.Double.Magnitude

/- Powers are those of natural numbers, whichever other powers are known. -/
attribute [local instance (2000)] instPowNat

/-- The whole decimal expansion of a magnitude, with the given sign. -/
def expansion (negative : Bool) (m : Magnitude) : Decimal :=
  ⟨negative, m.units * 5 ^ unitExponent, -unitExponent⟩

/-- The decimal grid point numbered `k`, on the grid whose distance is `10 ^ step`. -/
private def gridPoint (negative : Bool) (step : Int) (k : Nat) : Decimal :=
  ⟨negative, k, step⟩

/-- The multiples of `10 ^ step` next to a magnitude, the nearer first; of two equally near the
even one. -/
def neighbours (negative : Bool) (m : Magnitude) (step : Int) : List Decimal :=
  let num := if 0 ≤ step then m.units else m.units * 10 ^ (-step).toNat
  let den := if 0 ≤ step then one * 10 ^ step.toNat else one
  let below := num / den
  let near := roundHalfEven num den
  let far := if near = below then below + 1 else below
  [gridPoint negative step near, gridPoint negative step far]

private def reaches (m : Magnitude) (power : Int) : Bool :=
  if 0 ≤ power then decide (one * 10 ^ power.toNat ≤ m.units)
  else decide (one ≤ m.units * 10 ^ (-power).toNat)

/-- The power of ten of the leading digit. The logarithm gives it or one less. -/
def leadingPower (m : Magnitude) : Int :=
  let estimate := ((m.units.log2 : Int) - unitExponent) * 30103 / 100000
  if reaches m (estimate + 1) then estimate + 1 else estimate

/-- The decimal with the fewest digits that reads back as the signed magnitude. -/
def shortest (negative : Bool) (m : Magnitude) : Decimal :=
  let power := m.leadingPower
  let found := (List.range 17).findSome? fun (digits : Nat) ↦
    (neighbours negative m (power - digits)).find? fun d ↦
      decide (d.toDouble = .finite negative m)
  found.getD (expansion negative m)

theorem toDouble_expansion (negative : Bool) (m : Magnitude) :
    (expansion negative m).toDouble = .finite negative m := by
  by_cases hzero : m.units = 0
  · have hm : m = ⟨0, representable_zero⟩ := by
      cases m; simp_all
    subst hm
    have := @ofQuotient_units negative ⟨0, representable_zero⟩ 1 (by decide)
    simpa [expansion, Decimal.toDouble] using this
  · have hfive : 0 < 5 ^ unitExponent := Nat.pow_pos (by decide)
    have hdigits : m.units * 5 ^ unitExponent ≠ 0 := Nat.mul_ne_zero hzero (by omega)
    have hlog : 2148 ≤ (m.units * 5 ^ unitExponent).log2 := by
      rw [Nat.le_log2 hdigits]
      calc 2 ^ 2148 = 2 ^ (2 * unitExponent) := rfl
        _ = 4 ^ unitExponent := by rw [Nat.pow_mul]
        _ ≤ 5 ^ unitExponent := Nat.pow_le_pow_left (by decide) _
        _ ≤ m.units * 5 ^ unitExponent := Nat.le_mul_of_pos_left _ (by omega)
    have hexp : ((-(-(unitExponent : Int))).toNat) = unitExponent := by simp
    have hunits : m.units * 5 ^ unitExponent * one = m.units * 10 ^ unitExponent := by
      rw [one, Nat.mul_assoc, ← Nat.mul_pow]
    unfold Decimal.toDouble expansion
    simp only [hdigits, if_false, hexp, hunits]
    rw [if_neg (by simp [unitExponent]), if_neg (by simp only [unitExponent] at *; omega),
      if_neg (by simp [unitExponent])]
    exact ofQuotient_units negative m (Nat.pow_pos (by decide))

/-- The shortest decimal of a number reads back as that number. -/
theorem toDouble_shortest (negative : Bool) (m : Magnitude) :
    (shortest negative m).toDouble = .finite negative m := by
  unfold shortest
  dsimp only
  cases hfound : (List.range 17).findSome? fun (digits : Nat) ↦
      (neighbours negative m (m.leadingPower - digits)).find? fun d ↦
        decide (d.toDouble = .finite negative m) with
  | none => exact toDouble_expansion negative m
  | some d =>
    obtain ⟨_, _, hfind⟩ := List.exists_of_findSome?_eq_some hfound
    simpa using List.find?_some hfind

end Candlestick.Double.Magnitude
