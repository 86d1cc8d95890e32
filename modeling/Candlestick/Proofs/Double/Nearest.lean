import Candlestick.Proofs.Double.Decimal
import Mathlib.Data.Nat.Dist

/-!
# Nearest points

Both roundings lead to a nearest point: `roundHalfEven` among all whole numbers, `nearest` among the
numbers of units that a double can hold. For the latter this has to be seen across the powers of
two, where the distance between neighbouring doubles changes. Nothing else about rounding is needed
to compare rounded numbers, since nearest points are in the order of what they are nearest to.
-/

namespace Candlestick

/- Powers are those of natural numbers, whichever other powers are known. -/
attribute [local instance (2000)] instPowNat

/-- A point of a class such that no other point of the class is nearer to `num / den`. -/
structure IsNearest (points : Nat → Prop) (num den point : Nat) : Prop where
  mem : points point
  dist_le : ∀ other, points other → Nat.dist (point * den) num ≤ Nat.dist (other * den) num

theorem IsNearest.le_of_lt {points : Nat → Prop} {num num' den p q : Nat} (hden : 0 < den)
    (hp : IsNearest points num den p) (hq : IsNearest points num' den q) (h : num < num') :
    p ≤ q := by
  by_contra hlt
  have hscaled : q * den < p * den := Nat.mul_lt_mul_of_pos_right (Nat.not_le.mp hlt) hden
  have hnear := hp.dist_le q hq.mem
  have hnear' := hq.dist_le p hp.mem
  simp only [Nat.dist] at hnear hnear'
  omega

/-! ## Whole numbers -/

variable {num num' den den' : Nat}

theorem roundHalfEven_cases (num den : Nat) :
    (2 * (num % den) < den ∧ roundHalfEven num den = num / den) ∨
    (den < 2 * (num % den) ∧ roundHalfEven num den = num / den + 1) ∨
    (2 * (num % den) = den ∧ roundHalfEven num den % 2 = 0 ∧
      (roundHalfEven num den = num / den ∨ roundHalfEven num den = num / den + 1)) := by
  unfold roundHalfEven
  dsimp only
  split
  · omega
  split
  · omega
  split <;> omega

theorem two_mul_dist_roundHalfEven_le (hden : 0 < den) (num : Nat) :
    2 * Nat.dist (roundHalfEven num den * den) num ≤ den := by
  have hnum : num / den * den + num % den = num := Nat.div_add_mod' num den
  have hrem : num % den < den := Nat.mod_lt num hden
  have hnext : (num / den + 1) * den = num / den * den + den := Nat.succ_mul _ _
  simp only [Nat.dist]
  rcases roundHalfEven_cases num den with ⟨_, h⟩ | ⟨_, h⟩ | ⟨_, _, h | h⟩ <;> rw [h] <;> omega

/-- Of two whole numbers that are equally near the even one is taken. -/
theorem roundHalfEven_mod_two (hden : 0 < den)
    (h : 2 * Nat.dist (roundHalfEven num den * den) num = den) : roundHalfEven num den % 2 = 0 := by
  have hnum : num / den * den + num % den = num := Nat.div_add_mod' num den
  have hrem : num % den < den := Nat.mod_lt num hden
  have hnext : (num / den + 1) * den = num / den * den + den := Nat.succ_mul _ _
  simp only [Nat.dist] at h
  rcases roundHalfEven_cases num den with ⟨_, heq⟩ | ⟨_, heq⟩ | ⟨_, heven, _⟩
  · rw [heq] at h
    omega
  · rw [heq] at h
    omega
  · exact heven

theorem isNearest_roundHalfEven (hden : 0 < den) (num : Nat) :
    IsNearest (fun _ ↦ True) num den (roundHalfEven num den) := by
  refine ⟨trivial, ?_⟩
  intro other _
  have hhalf := two_mul_dist_roundHalfEven_le hden num
  simp only [Nat.dist] at hhalf ⊢
  rcases Nat.lt_trichotomy other (roundHalfEven num den) with hlt | rfl | hgt
  · have hbelow := Nat.mul_le_mul_right den (Nat.succ_le_of_lt hlt)
    rw [Nat.succ_mul] at hbelow
    omega
  · exact Nat.le_refl _
  · have habove := Nat.mul_le_mul_right den (Nat.succ_le_of_lt hgt)
    rw [Nat.succ_mul] at habove
    omega

theorem roundHalfEven_mono (hden : 0 < den) (h : num ≤ num') :
    roundHalfEven num den ≤ roundHalfEven num' den := by
  rcases Nat.lt_or_eq_of_le h with hlt | rfl
  · exact (isNearest_roundHalfEven hden num).le_of_lt hden (isNearest_roundHalfEven hden num') hlt
  · exact Nat.le_refl _

/-! ## Numbers of units -/

namespace Double

/-- A number of units with at most 53 significant bits. -/
def IsShort (n : Nat) : Prop :=
  spacing n ∣ n

theorem Magnitude.isShort (m : Magnitude) : IsShort m.units :=
  m.representable.2

theorem isShort_zero : IsShort 0 :=
  Nat.dvd_zero _

theorem isShort_one : IsShort 1 :=
  Nat.dvd_refl 1

theorem log2_le_log2 {m n : Nat} (h : m ≤ n) : m.log2 ≤ n.log2 := by
  by_cases hm : m = 0
  · rw [hm, Nat.log2_zero]
    exact Nat.zero_le _
  · exact (Nat.le_log2 (by omega)).mpr (Nat.le_trans (Nat.log2_self_le hm) h)

theorem spacing_le_spacing {m n : Nat} (h : m ≤ n) : spacing m ≤ spacing n :=
  Nat.pow_le_pow_right Nat.two_pos (Nat.sub_le_sub_right (log2_le_log2 h) 52)

/-- From a number upwards, what a double can hold is on the grid of the doubles there. -/
theorem IsShort.spacing_dvd {w n : Nat} (hw : IsShort w) (h : n.log2 ≤ w.log2) : spacing n ∣ w :=
  Nat.dvd_trans (Nat.pow_dvd_pow 2 (Nat.sub_le_sub_right h 52)) hw

theorem nearest_mul (num den : Nat) :
    nearest num den * den =
      roundHalfEven num (den * spacing (num / den)) * (den * spacing (num / den)) := by
  rw [nearest, Nat.mul_assoc, Nat.mul_comm den]

theorem two_mul_dist_nearest_le (hden : 0 < den) (num : Nat) :
    2 * Nat.dist (nearest num den * den) num ≤ den * spacing (num / den) := by
  rw [nearest_mul]
  exact two_mul_dist_roundHalfEven_le (Nat.mul_pos hden (spacing_pos _)) num

theorem isNearest_nearest (hden : 0 < den) (num : Nat) :
    IsNearest IsShort num den (nearest num den) := by
  have hstep : 0 < den * spacing (num / den) := Nat.mul_pos hden (spacing_pos _)
  have hgrid : ∀ w, spacing (num / den) ∣ w →
      Nat.dist (nearest num den * den) num ≤ Nat.dist (w * den) num := by
    rintro w ⟨k, rfl⟩
    have hk := (isNearest_roundHalfEven hstep num).dist_le k trivial
    have hscaled : spacing (num / den) * k * den = k * (den * spacing (num / den)) := by
      rw [Nat.mul_comm _ k, Nat.mul_assoc, Nat.mul_comm den]
    rw [nearest_mul, hscaled]
    exact hk
  refine ⟨spacing_dvd_nearest num den, ?_⟩
  intro w hw
  rcases Nat.lt_or_ge w.log2 (num / den).log2 with hlow | hhigh
  · -- Such a number lies below the leading power of two, which is nearer and on the grid.
    have hne : num / den ≠ 0 := by
      intro hzero
      rw [hzero, Nat.log2_zero] at hlow
      exact Nat.not_lt_zero _ hlow
    have hlead := hgrid _ (Nat.pow_dvd_pow 2 (Nat.sub_le (num / den).log2 52))
    have hw' : w < 2 ^ (num / den).log2 :=
      Nat.lt_of_lt_of_le Nat.lt_log2_self (Nat.pow_le_pow_right Nat.two_pos hlow)
    have hscaled := Nat.mul_le_mul_right den (Nat.le_of_lt hw')
    have hnum : 2 ^ (num / den).log2 * den ≤ num :=
      (Nat.le_div_iff_mul_le hden).mp (Nat.log2_self_le hne)
    simp only [Nat.dist] at hlead ⊢
    omega
  · exact hgrid w (hw.spacing_dvd hhigh)

/-- Rounding keeps the order of quotients. -/
theorem nearest_mono (hden : 0 < den) (hden' : 0 < den') (h : num * den' ≤ num' * den) :
    nearest num den ≤ nearest num' den' := by
  have hcommon : 0 < den' * den := Nat.mul_pos hden' hden
  rw [← nearest_mul_left hden' num den, ← nearest_mul_left hden num' den', Nat.mul_comm den den',
    Nat.mul_comm den' num, Nat.mul_comm den num']
  rcases Nat.lt_or_eq_of_le h with hlt | heq
  · exact (isNearest_nearest hcommon _).le_of_lt hcommon (isNearest_nearest hcommon _) hlt
  · rw [heq]

theorem nearest_le_of_isShort {w : Nat} (hden : 0 < den) (hw : IsShort w) (h : num ≤ w * den) :
    nearest num den ≤ w := by
  rw [← nearest_of_dvd hden hw]
  exact nearest_mono hden hden (Nat.mul_le_mul_right den h)

theorem le_nearest_of_isShort {w : Nat} (hden : 0 < den) (hw : IsShort w) (h : w * den ≤ num) :
    w ≤ nearest num den := by
  rw [← nearest_of_dvd hden hw]
  exact nearest_mono hden hden (Nat.mul_le_mul_right den h)

/-- Zero is never nearer, so rounding at most doubles a number. -/
theorem nearest_mul_le (hden : 0 < den) (num : Nat) : nearest num den * den ≤ 2 * num := by
  have hzero := (isNearest_nearest hden num).dist_le 0 isShort_zero
  simp only [Nat.dist] at hzero
  omega

end Double

end Candlestick
