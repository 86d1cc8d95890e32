import Candlestick.Period
import Candlestick.Proofs.Double.Order

/-!
# Where rounding leads to infinity

A quotient is rounded to a finite double up to the middle between the largest one and `2 ^ 1024`; at
the middle the tie goes to the latter, which is even (`nearest_lt_two_pow_iff`). Halving a price and
rounding it to cents stay below, so a midpoint is infinite only if the sum is (`isFinite_midpoint`).
Of a period the bound says from how many milliseconds on it has no length in seconds
(`Period.seconds?_eq_none`).
-/

namespace Candlestick

/- Powers are those of natural numbers, whichever other powers are known. -/
attribute [local instance (2000)] instPowNat

/-- Rounding stays below an even number up to the middle between this number and the one before. -/
theorem roundHalfEven_lt_iff {num den bound : Nat} (hden : 0 < den) (heven : bound % 2 = 0) :
    roundHalfEven num den < bound ↔ 2 * num + den < 2 * (bound * den) := by
  have hnum : num / den * den + num % den = num := Nat.div_add_mod' num den
  have hrem : num % den < den := Nat.mod_lt num hden
  have hlow := le_roundHalfEven num den
  have hhigh := roundHalfEven_le num den
  rcases Nat.lt_trichotomy (num / den + 1) bound with hlt | heq | hgt
  · have hroom : (num / den + 2) * den ≤ bound * den := Nat.mul_le_mul_right den hlt
    rw [Nat.add_mul] at hroom
    exact iff_of_true (by omega) (by omega)
  · have hproduct : bound * den = num / den * den + den := by
      rw [← heq, Nat.add_mul, Nat.one_mul]
    -- The whole part is odd here, so only a remainder below one half is rounded down.
    have hround : roundHalfEven num den = num / den ↔ 2 * (num % den) < den := by
      unfold roundHalfEven
      dsimp only
      split
      · omega
      split
      · omega
      split <;> omega
    omega
  · have hover : bound * den ≤ num / den * den := Nat.mul_le_mul_right den (by omega)
    exact iff_of_false (by omega) (by omega)

namespace Double

theorem nearest_le (num den : Nat) : nearest num den ≤ num / den + spacing (num / den) := by
  have hquotient : num / (den * spacing (num / den)) * spacing (num / den) ≤ num / den := by
    rw [← Nat.div_div_eq_div_mul]
    exact Nat.div_mul_le_self _ _
  calc
    nearest num den ≤ (num / (den * spacing (num / den)) + 1) * spacing (num / den) :=
      Nat.mul_le_mul_right _ (roundHalfEven_le _ _)
    _ ≤ num / den + spacing (num / den) := by
      rw [Nat.add_mul, Nat.one_mul]
      exact Nat.add_le_add_right hquotient _

/-- Rounding stays below a power of two up to half the distance of the doubles before it. -/
theorem nearest_lt_two_pow_iff {num den : Nat} (hden : 0 < den) (e : Nat) :
    nearest num den < 2 ^ (e + 53) ↔ 2 * num + 2 ^ e * den < 2 ^ (e + 54) * den := by
  have hnum : num / den * den + num % den = num := Nat.div_add_mod' num den
  have hrem : num % den < den := Nat.mod_lt num hden
  have htop : 2 ^ (e + 53) = 2 ^ (53 : Nat) * 2 ^ e := by rw [Nat.add_comm, Nat.pow_add]
  have hdouble : 2 ^ (e + 54) = 2 * 2 ^ (e + 53) := Nat.pow_succ'
  have htop' : 2 ^ (e + 54) * den = 2 * (2 ^ (53 : Nat) * (2 ^ e * den)) := by
    rw [hdouble, htop, Nat.mul_assoc, Nat.mul_assoc]
  -- Only in the last binade below the power can rounding reach it; elsewhere both sides are plain.
  rcases Nat.lt_trichotomy (num / den).log2 (e + 52) with hlt | heq | hgt
  · have hquotient : num / den < 2 ^ (52 : Nat) * 2 ^ e := by
      rw [← Nat.pow_add]
      exact Nat.lt_of_lt_of_le Nat.lt_log2_self (Nat.pow_le_pow_right (by decide) (by omega))
    have hspacing : spacing (num / den) ≤ 2 ^ e :=
      Nat.pow_le_pow_right (by decide) (by omega)
    have hproduct : (num / den + 1) * den ≤ 2 ^ (52 : Nat) * 2 ^ e * den :=
      Nat.mul_le_mul_right den hquotient
    have hnearest := nearest_le num den
    have hpos := Nat.two_pow_pos e
    rw [Nat.add_mul, Nat.mul_assoc] at hproduct
    exact iff_of_true (by omega) (by omega)
  · have hspacing : spacing (num / den) = 2 ^ e := by
      rw [spacing, heq, Nat.add_sub_cancel]
    have hpos : 0 < den * 2 ^ e := Nat.mul_pos hden (Nat.two_pow_pos e)
    have hround : roundHalfEven num (den * 2 ^ e) < 2 ^ (53 : Nat) ↔ _ :=
      roundHalfEven_lt_iff hpos (by decide)
    rw [nearest, hspacing, htop, Nat.mul_lt_mul_right (Nat.two_pow_pos e), hround, htop',
      Nat.mul_comm den]
  · have hlead : 2 ^ (e + 53) ≤ 2 ^ (num / den).log2 :=
      Nat.pow_le_pow_right (by decide) hgt
    have hne : num / den ≠ 0 := by
      rintro hzero
      rw [hzero, Nat.log2_zero] at hgt
      omega
    have hnearest := two_pow_log2_le_nearest hne
    have hproduct : 2 ^ (53 : Nat) * 2 ^ e * den ≤ num / den * den := by
      rw [← htop]
      exact Nat.mul_le_mul_right den (Nat.le_trans hlead (Nat.log2_self_le hne))
    rw [Nat.mul_assoc] at hproduct
    exact iff_of_false (by omega) (by omega)

theorem isFinite_ofQuotient (negative : Bool) (num den : Nat) :
    (ofQuotient negative num den).isFinite = decide (nearest num den < ceiling) := by
  unfold ofQuotient
  split
  · next h => exact (decide_eq_true h).symm
  · next h => exact (decide_eq_false h).symm

/-- The largest finite doubles are two to this power units apart. -/
def topExponent : Nat :=
  971 + unitExponent

theorem ceiling_eq : ceiling = 2 ^ (topExponent + 53) := by
  have hexponent : 1024 + unitExponent = topExponent + 53 := rfl
  rw [ceiling, hexponent]

theorem nearest_lt_ceiling_iff {num den : Nat} (hden : 0 < den) :
    nearest num den < ceiling ↔ 2 * num + 2 ^ topExponent * den < 2 * ceiling * den := by
  have hdouble : 2 * ceiling = 2 ^ (topExponent + 54) := by rw [ceiling_eq, ← Nat.pow_succ']
  rw [hdouble, ceiling_eq]
  exact nearest_lt_two_pow_iff hden topExponent

/-- So far apart are they from the ceiling, too. -/
theorem Magnitude.units_add_le (m : Magnitude) : m.units + 2 ^ topExponent ≤ ceiling := by
  obtain ⟨hlt, hdvd⟩ := m.representable
  have hceiling : ceiling = 2 ^ topExponent * 2 ^ (53 : Nat) :=
    ceiling_eq.trans (Nat.pow_add 2 topExponent 53)
  rcases Nat.lt_or_ge m.units.log2 (topExponent + 52) with hlow | hhigh
  · have hunits : m.units < 2 ^ (topExponent + 52) :=
      Nat.lt_of_lt_of_le Nat.lt_log2_self (Nat.pow_le_pow_right (by decide) hlow)
    rw [Nat.pow_add] at hunits
    omega
  · obtain ⟨k, hk⟩ : 2 ^ topExponent ∣ m.units :=
      Nat.dvd_trans (Nat.pow_dvd_pow 2 (by omega)) hdvd
    rw [hceiling, hk] at hlt
    have hnext : 2 ^ topExponent * (k + 1) ≤ 2 ^ topExponent * 2 ^ (53 : Nat) :=
      Nat.mul_le_mul_left _ (Nat.lt_of_mul_lt_mul_left hlt)
    rwa [Nat.mul_add_one, ← hk, ← hceiling] at hnext

/-- Halving leads neither out of the finite doubles nor into them. -/
theorem isFinite_half (x : Double) : (half x).isFinite = x.isFinite := by
  cases x with
  | finite negative m =>
      have hunits := m.units_add_le
      have hpos := ceiling_pos
      rw [half, isFinite_ofQuotient]
      apply decide_eq_true
      apply (nearest_lt_ceiling_iff (by decide)).mpr
      omega
  | infinite negative => rfl
  | nan => rfl

theorem isFinite_midpoint (a b : Double) : (midpoint a b).isFinite = (a + b).isFinite :=
  isFinite_half (a + b)

/-- Nor does the rounding of a price to cents. -/
theorem isFinite_roundToCents (x : Double) : (roundToCents x).isFinite = x.isFinite := by
  cases x with
  | finite negative m =>
      have hunits := m.units_add_le
      have hcents : roundHalfEven (m.units * 100) one * one ≤ m.units * 100 + one := by
        have hround := Nat.mul_le_mul_right one (roundHalfEven_le (m.units * 100) one)
        rw [Nat.add_mul, Nat.one_mul] at hround
        exact Nat.le_trans hround (Nat.add_le_add_right (Nat.div_mul_le_self _ _) _)
      have hone : one < 2 ^ topExponent := Nat.pow_lt_pow_right Nat.one_lt_two (by decide)
      rw [roundToCents, isFinite_ofQuotient]
      apply decide_eq_true
      apply (nearest_lt_ceiling_iff (by decide)).mpr
      omega
  | infinite negative => rfl
  | nan => rfl

end Double

namespace Period

/-- So many milliseconds have no length in seconds, nor has any larger number of them. -/
def bound : Nat :=
  1000 * (2 ^ (1024 : Nat) - 2 ^ (970 : Nat))

theorem scaled_lt_iff {n low high scale : Nat} (hscale : 0 < scale) :
    n * scale + low * scale * 1000 < high * scale * 1000 ↔ n < 1000 * (high - low) := by
  have hsum : n * scale + low * scale * 1000 = (n + 1000 * low) * scale := by
    rw [Nat.add_mul, Nat.mul_comm _ 1000, Nat.mul_assoc]
  have hproduct : high * scale * 1000 = 1000 * high * scale := by
    rw [Nat.mul_comm _ 1000, Nat.mul_assoc]
  rw [hsum, hproduct, Nat.mul_lt_mul_right hscale, Nat.mul_sub, Nat.lt_sub_iff_add_lt]

/-- The bound is the middle between the largest finite double and `2 ^ 1024`, in milliseconds. -/
theorem nearest_lt_ceiling_iff (n : Nat) :
    Double.nearest (n * Double.one) 1000 < Double.ceiling ↔ n < bound := by
  have hunit : 2 * Double.one = 2 ^ (1075 : Nat) := by
    have hexponent : Double.unitExponent.succ = 1075 := rfl
    rw [Double.one, ← Nat.pow_succ', hexponent]
  have hnum : 2 * (n * Double.one) = n * 2 ^ (1075 : Nat) := by rw [Nat.mul_left_comm, hunit]
  have hspacing : 2 ^ Double.topExponent = 2 ^ (970 : Nat) * 2 ^ (1075 : Nat) := by
    have hexponent : Double.topExponent = 970 + 1075 := rfl
    rewrite [hexponent]
    exact Nat.pow_add 2 970 1075
  have htop : 2 * Double.ceiling = 2 ^ (1024 : Nat) * 2 ^ (1075 : Nat) := by
    rewrite [← hunit, Double.ceiling, Nat.pow_add]
    generalize 2 ^ (1024 : Nat) = high
    exact Nat.mul_left_comm 2 high Double.one
  rewrite [Double.nearest_lt_ceiling_iff (by decide), hnum, hspacing, htop, bound]
  have hscale := Nat.two_pow_pos 1075
  generalize 2 ^ (970 : Nat) = low, 2 ^ (1024 : Nat) = high, 2 ^ (1075 : Nat) = scale at hscale ⊢
  exact scaled_lt_iff hscale

/- From here on it does not matter how many milliseconds or units there are. -/
attribute [irreducible] bound
attribute [local irreducible] Double.ceiling

theorem seconds?_eq_none {milliseconds : Int} (h : bound ≤ milliseconds) :
    seconds? milliseconds = none := by
  have hnot : ¬ milliseconds.natAbs < bound := by omega
  rw [← nearest_lt_ceiling_iff] at hnot
  simp [seconds?, Double.ofRatio, Double.isFinite_ofQuotient, hnot]

theorem exists_seconds? {milliseconds : Int} (hpos : 0 < milliseconds) (h : milliseconds < bound) :
    ∃ length, seconds? milliseconds = some length ∧ Double.zero < length := by
  have hlt : milliseconds.natAbs < bound := by omega
  rw [← nearest_lt_ceiling_iff] at hlt
  have hsign : decide (milliseconds < 0) = false := decide_eq_false (by omega)
  have hsome : milliseconds.natAbs * Double.one / 1000 ≠ 0 := by
    have hone : 1000 ≤ Double.one := by decide +kernel
    have hle : Double.one ≤ milliseconds.natAbs * Double.one :=
      Nat.le_mul_of_pos_left _ (by omega)
    have hquotient := (Nat.le_div_iff_mul_le (by decide : 0 < 1000)).mpr
      (Nat.le_trans (by omega : 1 * 1000 ≤ Double.one) hle)
    omega
  refine ⟨Double.ofRatio milliseconds 1000, ?_, ?_⟩
  · simp [seconds?, Double.ofRatio, Double.isFinite_ofQuotient, hlt]
  · rw [Double.ofRatio, hsign]
    exact Double.ofQuotient_pos hsome

theorem isSome_seconds?_iff {milliseconds : Int} (hpos : 0 < milliseconds) :
    (seconds? milliseconds).isSome = true ↔ milliseconds < bound := by
  constructor
  · intro h
    refine Int.not_le.mp fun hbound ↦ ?_
    rw [seconds?_eq_none hbound] at h
    cases h
  · intro hbound
    obtain ⟨length, hlength, _⟩ := exists_seconds? hpos hbound
    rw [hlength]
    rfl

end Period

end Candlestick
