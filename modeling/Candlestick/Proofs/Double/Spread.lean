import Candlestick.Proofs.Double.Cents

/-!
# Doubles around a double

From two numbers on either side of a double, at the same distance from it, the midpoint is taken.
Both numbers, their sum and its half are rounded. As long as the double is not tiny the result is
the double itself or lies beside it (`dist_midpoint_le`).
-/

namespace Candlestick

/- Powers are those of natural numbers, whichever other powers are known. -/
attribute [local instance (2000)] instPowNat

namespace Double

/- No proof here looks at how many units the finite doubles reach. -/
attribute [local irreducible] ceiling

theorem two_pow_mul_spacing {m : Nat} (h : 52 ≤ m.log2) :
    2 ^ (52 : Nat) * spacing m = 2 ^ m.log2 := by
  rw [spacing, ← Nat.pow_add, Nat.add_sub_cancel' h]

/-- How many times the distance of the doubles there goes into a number. -/
theorem spacing_window {m : Nat} (h : 52 ≤ m.log2) :
    2 ^ (52 : Nat) * spacing m ≤ m ∧ m < 2 ^ (53 : Nat) * spacing m := by
  have hne : m ≠ 0 := by
    rintro rfl
    exact absurd h (by decide)
  have hdouble : 2 ^ (53 : Nat) * spacing m = 2 * (2 ^ (52 : Nat) * spacing m) := by
    rw [← Nat.mul_assoc, ← Nat.pow_succ']
  rw [hdouble, two_pow_mul_spacing h, ← Nat.pow_succ']
  exact ⟨Nat.log2_self_le hne, Nat.lt_log2_self⟩

theorem spacing_le_of_lt {n k : Nat} (h : n < 2 ^ (53 : Nat) * 2 ^ k) : spacing n ≤ 2 ^ k := by
  by_cases hne : n = 0
  · rw [hne, spacing, Nat.log2_zero]
    exact Nat.two_pow_pos k
  · rw [← Nat.pow_add] at h
    have hlog := (Nat.log2_lt hne).mpr h
    exact Nat.pow_le_pow_right Nat.two_pos (by omega)

/-- The half of what a double can hold, if it is not tiny, can be held as well. -/
theorem IsShort.two_mul_nearest_half {n : Nat} (h : IsShort n) (hlog : 53 ≤ n.log2) :
    2 * nearest n 2 = n := by
  have hspacing : spacing n = 2 * 2 ^ (n.log2 - 53) := by
    rw [spacing, ← Nat.pow_succ']
    congr 1
    omega
  obtain ⟨w, rfl⟩ : 2 ∣ n := Nat.dvd_trans ⟨_, hspacing⟩ h
  have hw : w ≠ 0 := by
    rintro rfl
    exact absurd hlog (by decide)
  have hshort : IsShort w := by
    have hhalf : spacing w = 2 ^ ((2 * w).log2 - 53) := by
      rw [spacing, Nat.log2_two_mul hw, Nat.add_sub_add_right]
    rw [IsShort, hspacing] at h
    rw [IsShort, hhalf]
    exact Nat.dvd_of_mul_dvd_mul_left Nat.two_pos h
  rw [Nat.mul_comm 2 w, nearest_of_dvd Nat.two_pos hshort, Nat.mul_comm]

theorem two_mul_dist_nearest_one_le (n : Nat) : 2 * Nat.dist (nearest n 1) n ≤ spacing n := by
  have h := two_mul_dist_nearest_le Nat.one_pos n
  rwa [Nat.mul_one, Nat.div_one, Nat.one_mul] at h

theorem IsShort.add_spacing_le {m : Nat} (h : IsShort m) (hlog : 52 ≤ m.log2) :
    m + spacing m ≤ 2 ^ (53 : Nat) * spacing m := by
  obtain ⟨k, hk⟩ := h
  have hlt : spacing m * k < spacing m * 2 ^ (53 : Nat) := by
    rw [← hk, Nat.mul_comm]
    exact (spacing_window hlog).2
  calc
    m + spacing m = spacing m * (k + 1) := by rw [Nat.mul_succ, ← hk]
    _ ≤ spacing m * 2 ^ (53 : Nat) := Nat.mul_le_mul_left _ (Nat.lt_of_mul_lt_mul_left hlt)
    _ = 2 ^ (53 : Nat) * spacing m := Nat.mul_comm _ _

/-- On a grid a distance of two and a half steps is one of two steps. -/
theorem dist_le_of_dvd {step a b : Nat} (ha : step ∣ a) (hb : step ∣ b)
    (h : 2 * Nat.dist a b ≤ 5 * step) : Nat.dist a b ≤ 2 * step := by
  obtain ⟨k, hk⟩ : step ∣ Nat.dist a b := Nat.dvd_add (Nat.dvd_sub ha hb) (Nat.dvd_sub hb ha)
  rw [hk] at h ⊢
  rcases Nat.lt_or_ge k 3 with hlt | hge
  · rw [Nat.mul_comm]
    exact Nat.mul_le_mul_right step (Nat.le_of_lt_succ hlt)
  · have hthree := Nat.mul_le_mul_left step hge
    omega

/-- Bid and ask of a spread around a price are rounded, and so is their sum. Their midpoint may
therefore be off the price, but by no more than the distance of the doubles there. -/
theorem dist_midpoint_le {m reach : Nat} (hm : IsShort m) (hlog : 53 ≤ m.log2)
    (hreach : reach < m) :
    Nat.dist (nearest (nearest (nearest (m - reach) 1 + nearest (m + reach) 1) 1) 2) m ≤
      spacing m := by
  have hgrid := hm.add_spacing_le (Nat.le_of_succ_le hlog)
  obtain ⟨hlead, _⟩ := spacing_window (Nat.le_of_succ_le hlog)
  have hdouble : 2 ^ (m.log2 - 52 + 1) = 2 * spacing m := Nat.pow_succ'
  have hwide : ∀ n, n < 2 ^ (53 : Nat) * (2 * spacing m) → spacing n ≤ 2 * spacing m := by
    intro n hn
    rw [← hdouble] at hn ⊢
    exact spacing_le_of_lt hn
  -- Each of the three roundings is off by half of the distance at its place, at most.
  have hbid := two_mul_dist_nearest_one_le (m - reach)
  have hbid' : spacing (m - reach) ≤ spacing m := spacing_le_spacing (Nat.sub_le m reach)
  have hask := two_mul_dist_nearest_one_le (m + reach)
  have hask' := hwide (m + reach) (by omega)
  generalize nearest (m - reach) 1 = bid at hbid ⊢
  generalize nearest (m + reach) 1 = ask at hask ⊢
  have htotal := two_mul_dist_nearest_one_le (bid + ask)
  simp only [Nat.dist] at hbid hask htotal
  have htotal' := hwide (bid + ask) (by omega)
  have hshort : IsShort (nearest (bid + ask) 1) := spacing_dvd_nearest _ _
  generalize nearest (bid + ask) 1 = total at htotal hshort ⊢
  have hoff : 2 * Nat.dist total (2 * m) ≤ 5 * spacing m := by
    simp only [Nat.dist]
    omega
  have htotalLog : m.log2 ≤ total.log2 := by
    rw [Nat.le_log2 (by omega), ← two_pow_mul_spacing (Nat.le_of_succ_le hlog)]
    omega
  have hclose := dist_le_of_dvd (hshort.spacing_dvd htotalLog) (Nat.dvd_mul_left_of_dvd hm 2) hoff
  have hmid : 2 * nearest total 2 = total :=
    hshort.two_mul_nearest_half (Nat.le_trans hlog htotalLog)
  simp only [Nat.dist] at hclose ⊢
  omega

/-! ## Sums and quotients of positive numbers -/

theorem exists_ofQuotient (negative : Bool) {num den : Nat} {m : Magnitude}
    (h : nearest num den ≤ m.units) :
    ∃ n : Magnitude, ofQuotient negative num den = .finite negative n ∧
      n.units = nearest num den :=
  ⟨_, dif_pos (Nat.lt_of_le_of_lt h m.representable.1), rfl⟩

theorem add_finite {m n : Magnitude} (hm : 0 < m.units) :
    finite false m + finite false n = ofQuotient false (m.units + n.units) 1 := by
  have htotal : signedUnits false m + signedUnits false n = (m.units + n.units : Nat) := rfl
  have hne : signedUnits false m + signedUnits false n ≠ 0 := by omega
  have hsign : decide (((m.units + n.units : Nat) : Int) < 0) = false := decide_eq_false (by omega)
  have hsum : finite false m + finite false n =
      ofUnits (signedUnits false m + signedUnits false n) := if_neg hne
  rw [hsum, htotal, ofUnits, hsign, Int.natAbs_natCast]

theorem sub_finite {m n : Magnitude} (h : n.units < m.units) :
    finite false m - finite false n = ofQuotient false (m.units - n.units) 1 := by
  have htotal : signedUnits false m + signedUnits true n = (m.units - n.units : Nat) := by
    change (m.units : Int) + -(n.units : Int) = _
    omega
  have hne : signedUnits false m + signedUnits true n ≠ 0 := by omega
  have hsign : decide (((m.units - n.units : Nat) : Int) < 0) = false := decide_eq_false (by omega)
  have hsum : finite false m - finite false n =
      ofUnits (signedUnits false m + signedUnits true n) := if_neg hne
  rw [hsum, htotal, ofUnits, hsign, Int.natAbs_natCast]

theorem isFinite_add (s t : Bool) (m n : Magnitude) :
    (finite s m + finite t n).isFinite =
      decide (nearest (signedUnits s m + signedUnits t n).natAbs 1 < ceiling) := by
  by_cases htotal : signedUnits s m + signedUnits t n = 0
  · have hsum : finite s m + finite t n = ofQuotient (s && t) 0 1 := if_pos htotal
    rw [hsum, isFinite_ofQuotient, htotal, Int.natAbs_zero]
  · have hsum : finite s m + finite t n = ofUnits (signedUnits s m + signedUnits t n) :=
      if_neg htotal
    rw [hsum, ofUnits, isFinite_ofQuotient]

theorem natAbs_signedUnits (negative : Bool) (m : Magnitude) :
    (signedUnits negative m).natAbs = m.units := by
  cases negative
  · exact Int.natAbs_natCast m.units
  · exact (Int.natAbs_neg _).trans (Int.natAbs_natCast m.units)

/-- One. -/
def unity : Magnitude :=
  ⟨one, by decide +kernel⟩

theorem signedUnits_unity (negative : Bool) :
    signedUnits negative unity = if negative then -(one : Int) else one :=
  rfl

/-- If twice a number is finite, then so is the number and its product with a number between minus
one and one. -/
theorem isFinite_add_mul {x y : Double} (hx : (x + x).isFinite = true)
    (hlow : finite true unity ≤ y) (hhigh : y ≤ finite false unity) :
    (x + x * y).isFinite = true := by
  cases x with
  | nan => cases hx
  | infinite s => cases s <;> cases hx
  | finite s m =>
      cases y with
      | nan =>
          obtain ⟨_, _, _, hnone, _⟩ := le_iff.mp hlow
          cases hnone
      | infinite t =>
          rw [finite_le_infinite_iff] at hlow
          rw [infinite_le_finite_iff, hlow] at hhigh
          cases hhigh
      | finite t n =>
          have hn : n.units ≤ one := by
            rw [finite_le_finite_iff, signedUnits_unity] at hlow hhigh
            have habs := natAbs_signedUnits t n
            simp only [if_true, Bool.false_eq_true, if_false] at hlow hhigh
            omega
          have hproduct : nearest (m.units * n.units) one ≤ m.units :=
            nearest_le_of_isShort Double.one_pos m.isShort (Nat.mul_le_mul_left m.units hn)
          obtain ⟨c, hc, hunits⟩ := exists_ofQuotient (s != t) hproduct
          have hmul : finite s m * finite t n = finite (s != t) c := hc
          rw [isFinite_add, decide_eq_true_iff] at hx
          rw [hmul, isFinite_add, decide_eq_true_iff]
          refine Nat.lt_of_le_of_lt (nearest_mono Nat.one_pos Nat.one_pos ?_) hx
          have habs := natAbs_signedUnits s m
          have habs' := natAbs_signedUnits (s != t) c
          omega

/-- Two positive numbers that lie no further apart than neighbouring doubles at the second one. -/
def Beside (x y : Double) : Prop :=
  ∃ m n : Magnitude, x = .finite false m ∧ y = .finite false n ∧
    Nat.dist m.units n.units ≤ spacing n.units

end Double

end Candlestick
