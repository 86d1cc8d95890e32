import Candlestick.Tick.Basic

/-!
# The order of prices

Comparison goes by rank, so on everything that is a number it is a total order, up to the two
zeros. Above zero the rank even determines the number. The second half shows that midpoints stay
there: a sum of two positive numbers has at least two units, rounding keeps it at two or more,
and half of that is not rounded down to zero.
-/

namespace Candlestick

/- Powers are those of natural numbers, whichever other powers are known. -/
attribute [local instance (2000)] instPowNat

namespace Double

/- No proof here looks at how many units the finite doubles reach. -/
attribute [local irreducible] ceiling

theorem pos_iff {x : Double} : zero < x ↔ ∃ r, x.rank? = some r ∧ 0 < r := by
  rw [lt_iff]
  constructor
  · rintro ⟨z, r, hz, hr, hlt⟩
    obtain rfl : 0 = z := Option.some.inj hz
    exact ⟨r, hr, hlt⟩
  · rintro ⟨r, hr, hlt⟩
    exact ⟨0, r, rfl, hr, hlt⟩

theorem finite_pos {m : Magnitude} (h : 0 < m.units) : zero < finite false m :=
  pos_iff.mpr ⟨m.units, rfl, Int.natCast_pos.mpr h⟩

theorem infinite_pos : zero < infinite false :=
  pos_iff.mpr ⟨ceiling, rfl, Int.natCast_pos.mpr ceiling_pos⟩

theorem ne_nan_of_pos {x : Double} (h : zero < x) : x ≠ .nan := by
  rintro rfl
  obtain ⟨r, hr, _⟩ := pos_iff.mp h
  cases hr

/-- Only `nan` does not compare with itself. -/
theorem le_self_of_pos {x : Double} (h : zero < x) : x ≤ x := by
  obtain ⟨r, hr, _⟩ := pos_iff.mp h
  exact le_iff.mpr ⟨r, r, hr, hr, Int.le_refl r⟩

theorem le_of_lt {a b : Double} (h : a < b) : a ≤ b := by
  obtain ⟨x, y, hx, hy, hlt⟩ := lt_iff.mp h
  exact le_iff.mpr ⟨x, y, hx, hy, Int.le_of_lt hlt⟩

theorem le_of_not_lt {a b : Double} (ha : a ≤ a) (hb : b ≤ b) (h : ¬ a < b) : b ≤ a := by
  obtain ⟨x, _, hx, _, _⟩ := le_iff.mp ha
  obtain ⟨y, _, hy, _, _⟩ := le_iff.mp hb
  refine le_iff.mpr ⟨y, x, hy, hx, Int.not_lt.mp ?_⟩
  intro hxy
  exact h (lt_iff.mpr ⟨x, y, hx, hy, hxy⟩)

theorem not_lt_of_le {a b : Double} (h : a ≤ b) : ¬ b < a := by
  obtain ⟨x, y, hx, hy, hle⟩ := le_iff.mp h
  intro hlt
  obtain ⟨y', x', hy', hx', hlt'⟩ := lt_iff.mp hlt
  rw [hx] at hx'
  rw [hy] at hy'
  cases hx'
  cases hy'
  omega

protected theorem le_trans {a b c : Double} (hab : a ≤ b) (hbc : b ≤ c) : a ≤ c := by
  obtain ⟨x, y, hx, hy, hxy⟩ := le_iff.mp hab
  obtain ⟨y', z, hy', hz, hyz⟩ := le_iff.mp hbc
  rw [hy] at hy'
  cases hy'
  exact le_iff.mpr ⟨x, z, hx, hz, Int.le_trans hxy hyz⟩

protected theorem lt_of_lt_of_le {a b c : Double} (hab : a < b) (hbc : b ≤ c) : a < c := by
  obtain ⟨x, y, hx, hy, hxy⟩ := lt_iff.mp hab
  obtain ⟨y', z, hy', hz, hyz⟩ := le_iff.mp hbc
  rw [hy] at hy'
  cases hy'
  exact lt_iff.mpr ⟨x, z, hx, hz, Int.lt_of_lt_of_le hxy hyz⟩

/-- What a positive number looks like. -/
theorem pos_cases {x : Double} (h : zero < x) :
    (∃ m : Magnitude, x = .finite false m ∧ 0 < m.units) ∨ x = .infinite false := by
  obtain ⟨r, hr, hpos⟩ := pos_iff.mp h
  cases x with
  | finite negative m =>
      cases negative with
      | false =>
          have hunits : (m.units : Int) = r := Option.some.inj hr
          exact Or.inl ⟨m, rfl, by omega⟩
      | true =>
          have hunits : -(m.units : Int) = r := Option.some.inj hr
          omega
  | infinite negative =>
      cases negative with
      | false => exact Or.inr rfl
      | true =>
          have hceiling : -(ceiling : Int) = r := Option.some.inj hr
          omega
  | nan => simp [rank?] at hr

/-- Two positive numbers of equal rank are equal: infinity lies above every finite one. -/
theorem eq_of_rank?_eq {a b : Double} (ha : zero < a) (hb : zero < b)
    (h : a.rank? = b.rank?) : a = b := by
  rcases pos_cases ha with ⟨m, rfl, _⟩ | rfl <;> rcases pos_cases hb with ⟨n, rfl, _⟩ | rfl
  · have hunits : (m.units : Int) = n.units := Option.some.inj h
    have hmag : m = n := by
      cases m
      cases n
      congr
      exact Int.ofNat.inj hunits
    rw [hmag]
  · have hunits : (m.units : Int) = ceiling := Option.some.inj h
    have hlt := m.representable.1
    omega
  · have hunits : (ceiling : Int) = n.units := Option.some.inj h
    have hlt := n.representable.1
    omega
  · rfl

protected theorem le_antisymm {a b : Double} (ha : zero < a) (hb : zero < b) (hab : a ≤ b)
    (hba : b ≤ a) : a = b := by
  obtain ⟨x, y, hx, hy, hxy⟩ := le_iff.mp hab
  obtain ⟨y', x', hy', hx', hyx⟩ := le_iff.mp hba
  rw [hx] at hx'
  rw [hy] at hy'
  cases hx'
  cases hy'
  obtain rfl : x = y := by omega
  exact eq_of_rank?_eq ha hb (hx.trans hy.symm)

/-! ## Midpoints of positive numbers -/

/-- Rounding never leads below the leading power of two of the whole part. -/
theorem two_pow_log2_le_nearest {num den : Nat} (h : num / den ≠ 0) :
    2 ^ (num / den).log2 ≤ nearest num den := by
  have hlead : 2 ^ (num / den).log2 ≤ num / den := Nat.log2_self_le h
  have hsplit : 2 ^ (num / den).log2 =
      2 ^ ((num / den).log2 - ((num / den).log2 - 52)) * spacing (num / den) := by
    rw [spacing, ← Nat.pow_add]
    congr 1
    omega
  have hquot : 2 ^ ((num / den).log2 - ((num / den).log2 - 52)) ≤
      num / (den * spacing (num / den)) := by
    rw [← Nat.div_div_eq_div_mul, Nat.le_div_iff_mul_le (spacing_pos _), ← hsplit]
    exact hlead
  calc
    2 ^ (num / den).log2 =
        2 ^ ((num / den).log2 - ((num / den).log2 - 52)) * spacing (num / den) := hsplit
    _ ≤ num / (den * spacing (num / den)) * spacing (num / den) := Nat.mul_le_mul_right _ hquot
    _ ≤ nearest num den := Nat.mul_le_mul_right _ (le_roundHalfEven _ _)

theorem ofQuotient_cases (negative : Bool) (num den : Nat) :
    (∃ m : Magnitude, ofQuotient negative num den = finite negative m ∧
      m.units = nearest num den) ∨ ofQuotient negative num den = infinite negative := by
  by_cases h : nearest num den < ceiling
  · exact Or.inl ⟨_, dif_pos h, rfl⟩
  · exact Or.inr (dif_neg h)

/-- Rounding a quotient of at least one does not give zero. -/
theorem ofQuotient_pos {num den : Nat} (h : num / den ≠ 0) : zero < ofQuotient false num den := by
  have hnear := two_pow_log2_le_nearest h
  have hpow := Nat.two_pow_pos (num / den).log2
  rcases ofQuotient_cases false num den with ⟨m, hm, hunits⟩ | hinf
  · rw [hm]
    exact finite_pos (by omega)
  · rw [hinf]
    exact infinite_pos

/-- Half of a sum of two or more units is above zero, however the sum was rounded. -/
theorem half_ofUnits_pos {n : Int} (h : 2 ≤ n) : zero < half (ofUnits n) := by
  have hdiv : n.natAbs / 1 ≠ 0 := by omega
  have htwo : 2 ≤ nearest n.natAbs 1 := by
    have hlog : 1 ≤ (n.natAbs / 1).log2 := (Nat.le_log2 hdiv).mpr (by omega)
    calc
      2 = 2 ^ 1 := rfl
      _ ≤ 2 ^ (n.natAbs / 1).log2 := Nat.pow_le_pow_right (by decide) hlog
      _ ≤ nearest n.natAbs 1 := two_pow_log2_le_nearest hdiv
  have hsign : decide (n < 0) = false := decide_eq_false (by omega)
  unfold ofUnits
  rw [hsign]
  rcases ofQuotient_cases false n.natAbs 1 with ⟨m, hm, hunits⟩ | hinf
  · rw [hm]
    exact ofQuotient_pos (by omega)
  · rw [hinf]
    exact infinite_pos

theorem midpoint_pos {a b : Double} (ha : zero < a) (hb : zero < b) : zero < midpoint a b := by
  rcases pos_cases ha with ⟨m, rfl, hm⟩ | rfl <;> rcases pos_cases hb with ⟨n, rfl, hn⟩ | rfl
  · have htotal : 2 ≤ signedUnits false m + signedUnits false n := by
      simp only [signedUnits, Bool.false_eq_true, if_false]
      omega
    have hsum : finite false m + finite false n =
        ofUnits (signedUnits false m + signedUnits false n) := if_neg (by omega)
    unfold midpoint
    rw [hsum]
    exact half_ofUnits_pos htotal
  · rw [show midpoint (finite false m) (infinite false) = infinite false from rfl]
    exact infinite_pos
  · rw [show midpoint (infinite false) (finite false n) = infinite false from rfl]
    exact infinite_pos
  · rw [show midpoint (infinite false) (infinite false) = infinite false from rfl]
    exact infinite_pos

end Double

theorem Tick.mid_pos (t : Tick) : Double.zero < t.mid :=
  Double.midpoint_pos t.bid_pos t.ask_pos

end Candlestick
