import Candlestick.Proofs.Double.Spread
import Candlestick.Proofs.Walk

/-!
# Ticks around a price

A walk puts a tick around every price it moves to. There is such a tick for each finite price from
the lowest one on and none for a price that is infinite or undefined (`exists_tickAround`,
`isFinite_of_tickAround`). Its midpoint lies beside the price (`mid_beside`). A step leads to a
finite price unless the old one was half of the largest double already (`isFinite_stepFrom`).
-/

namespace Candlestick

/- Powers are those of natural numbers, whichever other powers are known. -/
attribute [local instance (2000)] instPowNat

namespace Walk

open Double

variable {symbol : String} {price : Double} {now : Int} {t : Tick}

/-- One quarter. -/
def quarter : Magnitude :=
  ⟨one / 4, by decide +kernel⟩

/-- A number from which on doubles can be halved exactly. -/
def halvable : Magnitude :=
  ⟨2 ^ (53 : Nat), by decide +kernel⟩

theorem units_quarter : quarter.units = one / 4 :=
  rfl

theorem units_halvable : halvable.units = 2 ^ (53 : Nat) :=
  rfl

theorem spreadRatio_pos : zero < spreadRatio := by
  decide +kernel

theorem spreadRatio_le_quarter : spreadRatio ≤ finite false quarter := by
  decide +kernel

theorem isFinite_lowestPrice : lowestPrice.isFinite = true := by
  decide +kernel

theorem halvable_le_lowestPrice : finite false halvable ≤ lowestPrice := by
  decide +kernel

/- From here on it does not matter what these numbers are. -/
attribute [local irreducible] one ceiling quarter halvable spreadRatio lowestPrice

theorem exists_spreadRatio :
    ∃ r : Magnitude, spreadRatio = finite false r ∧ 0 < r.units ∧ 4 * r.units ≤ one := by
  have hle := spreadRatio_le_quarter
  rcases pos_cases spreadRatio_pos with ⟨r, hr, hunits⟩ | hinfinite
  · rw [hr, units_le_units_iff, units_quarter] at hle
    exact ⟨r, hr, hunits, by omega⟩
  · rw [hinfinite, infinite_le_finite_iff] at hle
    cases hle

/-- A price that a walk can reach is far above the smallest doubles. -/
theorem exists_of_lowestPrice_le (hlow : lowestPrice ≤ price) (hfinite : price.isFinite = true) :
    ∃ m : Magnitude, price = finite false m ∧ 53 ≤ m.units.log2 := by
  have hhalvable := Double.le_trans halvable_le_lowestPrice hlow
  have hunits : 0 < halvable.units := units_halvable ▸ Nat.two_pow_pos 53
  rcases pos_cases (Double.lt_of_lt_of_le (finite_pos hunits) hhalvable) with ⟨m, rfl, hunits⟩ | rfl
  · rw [units_le_units_iff, units_halvable] at hhalvable
    exact ⟨m, rfl, (Nat.le_log2 (by omega)).mpr hhalvable⟩
  · cases hfinite

/-- The distance from a price to bid and ask is at most one half of the price. -/
theorem exists_reach (m : Magnitude) :
    ∃ reach : Magnitude, (finite false m * spreadRatio).half = finite false reach ∧
      2 * reach.units ≤ m.units := by
  obtain ⟨r, hr, _, hquarter⟩ := exists_spreadRatio
  have hproduct : 2 * nearest (m.units * r.units) one ≤ m.units := by
    have hdouble := nearest_mul_le Double.one_pos (m.units * r.units)
    have hsmall : m.units * (4 * r.units) ≤ m.units * one := Nat.mul_le_mul_left _ hquarter
    have hscaled : 2 * nearest (m.units * r.units) one * one ≤ m.units * one := by
      rw [Nat.mul_left_comm] at hsmall
      rw [Nat.mul_assoc]
      omega
    exact Nat.le_of_mul_le_mul_right hscaled Double.one_pos
  have hspreadLe : nearest (m.units * r.units) one ≤ m.units := by omega
  obtain ⟨spread, hspread, hspreadUnits⟩ := exists_ofQuotient false hspreadLe
  have hhalf := nearest_mul_le Nat.two_pos spread.units
  have hreachLe : nearest spread.units 2 ≤ m.units := by omega
  obtain ⟨reach, hreach, hunits⟩ := exists_ofQuotient false hreachLe
  have hmul : finite false m * spreadRatio = finite false spread := by
    rw [hr]
    exact hspread
  refine ⟨reach, ?_, by omega⟩
  rw [hmul]
  exact hreach

/-- What bid and ask of a spread are. -/
theorem exists_spread (hlow : lowestPrice ≤ price) (hfinite : price.isFinite = true) :
    ∃ (m bid : Magnitude) (reach : Nat), price = finite false m ∧ 53 ≤ m.units.log2 ∧
      reach < m.units ∧
      price - (price * spreadRatio).half = finite false bid ∧
      bid.units = nearest (m.units - reach) 1 ∧ 0 < bid.units ∧
      price + (price * spreadRatio).half = ofQuotient false (m.units + reach) 1 := by
  obtain ⟨m, rfl, hlog⟩ := exists_of_lowestPrice_le hlow hfinite
  obtain ⟨reach, hreach, hsmall⟩ := exists_reach m
  have hpos : 0 < m.units := by
    by_contra hzero
    rw [Nat.eq_zero_of_not_pos hzero, Nat.log2_zero] at hlog
    omega
  have hle : nearest (m.units - reach.units) 1 ≤ m.units :=
    nearest_le_of_isShort Nat.one_pos m.isShort (by omega)
  obtain ⟨bid, hbid, hunits⟩ := exists_ofQuotient false hle
  have hbidPos : 1 ≤ nearest (m.units - reach.units) 1 :=
    le_nearest_of_isShort Nat.one_pos isShort_one (by omega)
  refine ⟨m, bid, reach.units, rfl, hlog, by omega, ?_, hunits, by omega, ?_⟩
  · rw [hreach, sub_finite (by omega), hbid]
  · rw [hreach, add_finite hpos]

theorem tickAround_eq (symbol : String) (price : Double) (now : Int) :
    tickAround symbol price now = Tick.make symbol (price - (price * spreadRatio).half)
      (price + (price * spreadRatio).half) now :=
  rfl

theorem exists_tickAround (hsymbol : Symbol.isBlank symbol = false) (hnow : 0 < now)
    (hlow : lowestPrice ≤ price) (hfinite : price.isFinite = true) :
    ∃ t, tickAround symbol price now = .ok t := by
  obtain ⟨m, bid, reach, _, _, _, hbid, hunits, hpos, hask⟩ := exists_spread hlow hfinite
  have habove : finite false bid ≤ ofQuotient false (m.units + reach) 1 := by
    rcases ofQuotient_cases false (m.units + reach) 1 with ⟨ask, hfinite, haskUnits⟩ | hinfinite
    · rw [hfinite, units_le_units_iff, hunits, haskUnits]
      exact nearest_mono Nat.one_pos Nat.one_pos (by omega)
    · rw [hinfinite]
      exact finite_le_infinite_iff.mpr rfl
  rw [tickAround_eq, hbid, hask]
  generalize ofQuotient false (m.units + reach) 1 = ask at habove ⊢
  have hbidPos := finite_pos hpos
  have haskPos := Double.lt_of_lt_of_le hbidPos habove
  exact ⟨_, Tick.make_self ⟨symbol, _, _, now, hsymbol, hbidPos, haskPos,
    not_lt_of_le habove, hnow⟩⟩

theorem infinite_sub_spread (negative : Bool) :
    infinite negative - (infinite negative * spreadRatio).half = nan := by
  obtain ⟨r, hr, hpos, _⟩ := exists_spreadRatio
  have hproduct : infinite negative * finite false r = infinite (negative != false) :=
    if_neg (by omega)
  rw [hr, hproduct]
  cases negative <;> rfl

/-- There is no tick around a price that is infinite or undefined. -/
theorem isFinite_of_tickAround (h : tickAround symbol price now = .ok t) :
    price.isFinite = true := by
  obtain ⟨_, hbid, _, _⟩ := Tick.make_eq_ok_iff.mp h
  have hnan := ne_nan_of_pos t.bid_pos
  cases price with
  | finite negative m => rfl
  | infinite negative => exact absurd (hbid.trans (infinite_sub_spread negative)) hnan
  | nan => exact absurd hbid hnan

/-- The midpoint of a tick around a price is the price itself, or else it is off by no more than the
distance of the doubles there. -/
theorem mid_beside (h : tickAround symbol price now = .ok t) (hlow : lowestPrice ≤ price)
    (hmid : t.mid.isFinite = true) : t.mid.Beside price := by
  obtain ⟨_, hbid, hask, _⟩ := Tick.make_eq_ok_iff.mp h
  obtain ⟨m, bid, reach, rfl, hlog, hreach, hbid', hbidUnits, hpos, hask'⟩ :=
    exists_spread hlow (isFinite_of_tickAround h)
  have hpair :
      t.mid = Double.midpoint (finite false bid) (ofQuotient false (m.units + reach) 1) := by
    rw [Tick.mid, hbid, hask, hbid', hask']
  have hsum : (finite false bid + ofQuotient false (m.units + reach) 1).isFinite = true := by
    rw [← isFinite_midpoint, ← hpair]
    exact hmid
  rw [hpair, Double.midpoint]
  -- Neither the ask nor the sum has become infinite, or the midpoint would be infinite as well.
  rcases ofQuotient_cases false (m.units + reach) 1 with ⟨ask, hask, haskUnits⟩ | hinfinite
  · rw [hask, add_finite hpos] at hsum ⊢
    rcases ofQuotient_cases false (bid.units + ask.units) 1 with ⟨total, htotal, hunits⟩ | hinfinite
    · rw [htotal] at hsum ⊢
      rw [← isFinite_half] at hsum
      rcases ofQuotient_cases false total.units 2 with ⟨mid, hmid, hmidUnits⟩ | hinfinite
      · refine ⟨mid, m, hmid, rfl, ?_⟩
        rw [hmidUnits, hunits, haskUnits, hbidUnits]
        exact dist_midpoint_le m.isShort hlog hreach
      · rw [half, hinfinite] at hsum
        cases hsum
    · rw [hinfinite] at hsum
      cases hsum
  · rw [hinfinite] at hsum
    cases hsum

/-! ## Steps -/

theorem stepFrom_cases (price size : Double) :
    stepFrom price size = lowestPrice ∨
      stepFrom price size = price + price * size ∧ ¬ price + price * size < lowestPrice := by
  unfold stepFrom Double.max
  split
  · exact Or.inl rfl
  · next h => exact Or.inr ⟨rfl, h⟩

theorem lowestPrice_le_self : lowestPrice ≤ lowestPrice := by
  obtain ⟨_, y, _, hy, _⟩ := le_iff.mp halvable_le_lowestPrice
  exact le_iff.mpr ⟨y, y, hy, hy, Int.le_refl y⟩

theorem lowestPrice_le_stepFrom {size : Double} (h : (stepFrom price size).isFinite = true) :
    lowestPrice ≤ stepFrom price size := by
  rcases stepFrom_cases price size with hlowest | ⟨hstep, hnot⟩
  · rw [hlowest]
    exact lowestPrice_le_self
  · rw [hstep] at h ⊢
    refine le_of_not_lt ?_ lowestPrice_le_self hnot
    cases hsum : price + price * size with
    | finite s m => exact finite_le_finite_iff.mpr (Int.le_refl _)
    | infinite s => exact nomatch hsum ▸ h
    | nan => exact nomatch hsum ▸ h

/-- A step of at most the price itself does not lead to infinity as long as twice the price is
finite. -/
theorem isFinite_stepFrom {size : Double} (hprice : (price + price).isFinite = true)
    (hlow : finite true unity ≤ size) (hhigh : size ≤ finite false unity) :
    (stepFrom price size).isFinite = true := by
  rcases stepFrom_cases price size with hlowest | ⟨hstep, _⟩
  · rw [hlowest]
    exact isFinite_lowestPrice
  · rw [hstep]
    exact isFinite_add_mul hprice hlow hhigh

end Walk

end Candlestick
