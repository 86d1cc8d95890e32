import Candlestick.Proofs.Double.Nearest
import Candlestick.Proofs.Double.Overflow

/-!
# Prices in cents

A price is rounded twice, to a whole number of cents and then to a double, and the second rounding
may lead away from the cents again. Even so a rounded price stays as it is when it is rounded once
more (`roundToCents_roundToCents`): unless the rounding has changed nothing at all, the double lies
within half a cent of the cents that it stands for. Both roundings keep the order of prices.
-/

namespace Candlestick

/- Powers are those of natural numbers, whichever other powers are known. -/
attribute [local instance (2000)] instPowNat

/-- What is within half of a whole number is rounded to it. -/
theorem roundHalfEven_eq_of_dist_lt {num den k : Nat} (hden : 0 < den)
    (h : 2 * Nat.dist (k * den) num < den) : roundHalfEven num den = k := by
  have hhalf := two_mul_dist_roundHalfEven_le hden num
  simp only [Nat.dist] at h hhalf
  rcases Nat.lt_trichotomy (roundHalfEven num den) k with hlt | heq | hgt
  · have hnext := Nat.mul_le_mul_right den (Nat.succ_le_of_lt hlt)
    rw [Nat.succ_mul] at hnext
    omega
  · exact heq
  · have hnext := Nat.mul_le_mul_right den (Nat.succ_le_of_lt hgt)
    rw [Nat.succ_mul] at hnext
    omega

namespace Double

/- No proof here looks at how many units the finite doubles reach. -/
attribute [local irreducible] ceiling

/-- The whole number of cents nearest to a number of units. -/
def centsOf (n : Nat) : Nat :=
  roundHalfEven (n * 100) one

/-- A number of units rounded to cents, in units again. -/
def inCents (n : Nat) : Nat :=
  nearest (centsOf n * one) 100

/-- What it means that a number of units is rounded by way of so many cents: these are nearest to
it, an even number in case of doubt, and no double is nearer to them than the rounded number. -/
structure RoundedBy (cents units rounded : Nat) : Prop where
  cents_nearest : IsNearest (fun _ ↦ True) (units * 100) one cents
  cents_even : 2 * Nat.dist (cents * one) (units * 100) = one → cents % 2 = 0
  rounded_nearest : IsNearest IsShort (cents * one) 100 rounded

theorem roundedBy_inCents (n : Nat) : RoundedBy (centsOf n) n (inCents n) where
  cents_nearest := isNearest_roundHalfEven one_pos (n * 100)
  cents_even := roundHalfEven_mod_two one_pos
  rounded_nearest := isNearest_nearest (by decide) (centsOf n * one)

theorem inCents_mono {m n : Nat} (h : m ≤ n) : inCents m ≤ inCents n := by
  have hcents : centsOf m ≤ centsOf n := roundHalfEven_mono one_pos (Nat.mul_le_mul_right 100 h)
  have hunits := Nat.mul_le_mul_right one hcents
  exact nearest_mono (by decide) (by decide) (Nat.mul_le_mul_right 100 hunits)

theorem inCents_zero : inCents 0 = 0 := by
  have hcents : centsOf 0 = 0 := by
    rw [centsOf, Nat.zero_mul, roundHalfEven_of_dvd one_pos (Nat.dvd_zero one), Nat.zero_div]
  rw [inCents, hcents, Nat.zero_mul]
  exact nearest_eq_zero (by decide)

/-- Whatever a double can hold is left alone, or it is rounded to less than half a cent from its
cents. Otherwise it and the rounded number would lie half a cent to either side of the cents, and
two doubles cannot differ by one cent exactly. -/
theorem inCents_eq_self_or {n : Nat} (hn : IsShort n) :
    inCents n = n ∨ 2 * Nat.dist (centsOf n * one) (inCents n * 100) < one := by
  have hrounded := roundedBy_inCents n
  have hhalf : 2 * Nat.dist (centsOf n * one) (n * 100) ≤ one :=
    two_mul_dist_roundHalfEven_le one_pos (n * 100)
  have hnear := hrounded.rounded_nearest.dist_le n hn
  have hcent : ∀ d, one ≠ 100 * d := by
    intro d hd
    have hmod : one % 100 ≠ 0 := by decide +kernel
    exact hmod (hd ▸ Nat.mul_mod_right 100 d)
  have hbelow := hcent (inCents n - n)
  have habove := hcent (n - inCents n)
  simp only [Nat.dist] at hhalf hnear ⊢
  omega

theorem inCents_inCents {n : Nat} (hn : IsShort n) : inCents (inCents n) = inCents n := by
  rcases inCents_eq_self_or hn with hself | hclose
  · exact congrArg inCents hself
  · have hcents : centsOf (inCents n) = centsOf n := roundHalfEven_eq_of_dist_lt one_pos hclose
    rw [inCents, hcents, ← inCents]

/-! ## Signed prices -/

theorem exists_roundToCents (negative : Bool) (m : Magnitude) :
    ∃ n : Magnitude, roundToCents (.finite negative m) = .finite negative n ∧
      n.units = inCents m.units := by
  have hfinite := isFinite_roundToCents (.finite negative m)
  rcases ofQuotient_cases negative (centsOf m.units * one) 100 with ⟨n, hn, hunits⟩ | hinfinite
  · exact ⟨n, hn, hunits⟩
  · have hround : roundToCents (.finite negative m) = .infinite negative := hinfinite
    rw [hround] at hfinite
    cases hfinite

theorem Magnitude.ext_units {m n : Magnitude} (h : m.units = n.units) : m = n := by
  cases m
  cases n
  congr

/-- A finite number and what it is rounded to, with the same sign, by way of some cents. -/
def RoundsTo (x y : Double) : Prop :=
  ∃ negative m n cents, x = .finite negative m ∧ y = .finite negative n ∧
    RoundedBy cents m.units n.units

theorem roundsTo_roundToCents {x : Double} (h : x.isFinite = true) :
    x.RoundsTo x.roundToCents := by
  cases x with
  | finite negative m =>
      obtain ⟨n, hn, hunits⟩ := exists_roundToCents negative m
      exact ⟨negative, m, n, centsOf m.units, rfl, hn, hunits ▸ roundedBy_inCents m.units⟩
  | infinite negative => cases h
  | nan => cases h

/-- A rounded price is its own rounding. -/
theorem roundToCents_roundToCents (x : Double) : x.roundToCents.roundToCents = x.roundToCents := by
  cases x with
  | finite negative m =>
      obtain ⟨n, hn, hunits⟩ := exists_roundToCents negative m
      obtain ⟨again, hagain, hsame⟩ := exists_roundToCents negative n
      rw [hunits, inCents_inCents m.isShort, ← hunits] at hsame
      rw [hn, hagain, Magnitude.ext_units hsame]
  | infinite negative => rfl
  | nan => rfl

theorem rank?_finite (negative : Bool) (m : Magnitude) :
    (finite negative m).rank? = some (signedUnits negative m) := by
  cases negative <;> rfl

theorem le_iff_of_rank? {a b : Double} {x y : Int} (ha : a.rank? = some x)
    (hb : b.rank? = some y) : a ≤ b ↔ x ≤ y := by
  simp only [le_iff, ha, hb, Option.some.injEq]
  exact ⟨fun ⟨_, _, hx, hy, h⟩ ↦ hx ▸ hy ▸ h, fun h ↦ ⟨_, _, rfl, rfl, h⟩⟩

theorem finite_le_finite_iff {s t : Bool} {m n : Magnitude} :
    finite s m ≤ finite t n ↔ signedUnits s m ≤ signedUnits t n :=
  le_iff_of_rank? (rank?_finite s m) (rank?_finite t n)

theorem units_le_units_iff {m n : Magnitude} :
    finite false m ≤ finite false n ↔ m.units ≤ n.units := by
  rw [finite_le_finite_iff]
  exact Int.ofNat_le

theorem signedUnits_bounds (negative : Bool) (m : Magnitude) :
    -(ceiling : Int) < signedUnits negative m ∧ signedUnits negative m < ceiling := by
  have hlt := m.representable.1
  cases negative <;> simp only [signedUnits, if_true, Bool.false_eq_true, if_false] <;> omega

theorem infinite_le_finite_iff {s t : Bool} {m : Magnitude} :
    infinite s ≤ finite t m ↔ s = true := by
  obtain ⟨hlow, hhigh⟩ := signedUnits_bounds t m
  cases s
  · rw [le_iff_of_rank? rfl (rank?_finite t m)]
    exact iff_of_false (Int.not_le.mpr hhigh) Bool.false_ne_true
  · rw [le_iff_of_rank? rfl (rank?_finite t m)]
    exact iff_of_true (Int.le_of_lt hlow) rfl

theorem finite_le_infinite_iff {s t : Bool} {m : Magnitude} :
    finite t m ≤ infinite s ↔ s = false := by
  obtain ⟨hlow, hhigh⟩ := signedUnits_bounds t m
  cases s
  · rw [le_iff_of_rank? (rank?_finite t m) rfl]
    exact iff_of_true (Int.le_of_lt hhigh) rfl
  · rw [le_iff_of_rank? (rank?_finite t m) rfl]
    exact iff_of_false (Int.not_le.mpr hlow) fun h ↦ nomatch h

theorem signedUnits_inCents_mono {s t : Bool} {m n m' n' : Magnitude}
    (hm : m'.units = inCents m.units) (hn : n'.units = inCents n.units)
    (h : signedUnits s m ≤ signedUnits t n) : signedUnits s m' ≤ signedUnits t n' := by
  have hzero := inCents_zero
  cases s <;> cases t <;>
    simp only [signedUnits, if_true, Bool.false_eq_true, if_false] at h ⊢
  · have hle : inCents m.units ≤ inCents n.units := inCents_mono (by omega)
    omega
  · have hm₀ : m.units = 0 := by omega
    have hn₀ : n.units = 0 := by omega
    rw [hm₀] at hm
    rw [hn₀] at hn
    omega
  · omega
  · have hle : inCents n.units ≤ inCents m.units := inCents_mono (by omega)
    omega

/-- Rounding to cents keeps the order of prices. -/
theorem roundToCents_mono {a b : Double} (h : a ≤ b) : a.roundToCents ≤ b.roundToCents := by
  cases a with
  | nan =>
      obtain ⟨_, _, hnone, _⟩ := le_iff.mp h
      cases hnone
  | infinite s =>
      cases b with
      | nan => exact h
      | infinite t => exact h
      | finite t n =>
          obtain ⟨n', hn, _⟩ := exists_roundToCents t n
          rw [hn]
          exact infinite_le_finite_iff.mpr (infinite_le_finite_iff.mp h)
  | finite s m =>
      obtain ⟨m', hm, hunits⟩ := exists_roundToCents s m
      rw [hm]
      cases b with
      | nan =>
          obtain ⟨_, _, _, hnone, _⟩ := le_iff.mp h
          cases hnone
      | infinite t => exact finite_le_infinite_iff.mpr (finite_le_infinite_iff.mp h)
      | finite t n =>
          obtain ⟨n', hn, hunits'⟩ := exists_roundToCents t n
          rw [hn]
          exact finite_le_finite_iff.mpr
            (signedUnits_inCents_mono hunits hunits' (finite_le_finite_iff.mp h))

end Double

end Candlestick
