import Candlestick.Interval

/-!
# Buckets on the time line

Bucket starts are the multiples of the length of an interval. A later moment never has an
earlier bucket, and a bucket has ended at a moment exactly when that moment lies in a later one
(`bucketStart_le_iff_lt`), which is how the end of a bucket is noticed. Of two intervals of the
catalog the length of the shorter divides that of the longer, so each short bucket lies in one long
bucket (`bucketStart_bucketStart`).
-/

namespace Candlestick.Interval

variable (i : Interval)

theorem seconds_pos_int : (0 : Int) < i.seconds :=
  Int.natCast_pos.mpr i.seconds_pos

theorem bucketStart_mono {x y : Int} (h : x ≤ y) : i.bucketStart x ≤ i.bucketStart y :=
  Int.mul_le_mul_of_nonneg_right (Int.ediv_le_ediv i.seconds_pos_int h)
    (Int.le_of_lt i.seconds_pos_int)

theorem bucketStart_nonneg {x : Int} (h : 0 ≤ x) : 0 ≤ i.bucketStart x :=
  Int.mul_nonneg (Int.ediv_nonneg h (Int.le_of_lt i.seconds_pos_int))
    (Int.le_of_lt i.seconds_pos_int)

/-- A moment lies before the end of a bucket exactly when its own bucket is no later one. -/
theorem bucketStart_le_iff_lt (now x : Int) :
    i.bucketStart now ≤ i.bucketStart x ↔ now < i.bucketStart x + i.seconds := by
  have hpos := i.seconds_pos_int
  have hend : i.bucketStart x + i.seconds = (x / i.seconds + 1) * i.seconds := by
    rw [Int.add_mul, Int.one_mul]
    rfl
  rw [hend, ← Int.ediv_lt_iff_lt_mul hpos, Int.lt_add_one_iff]
  exact Int.mul_le_mul_iff_of_pos_right hpos

/-- Multiples of the length are left ends. -/
theorem bucketStart_of_dvd {x : Int} (h : (i.seconds : Int) ∣ x) : i.bucketStart x = x :=
  Int.ediv_mul_cancel h

theorem dvd_bucketStart (x : Int) : (i.seconds : Int) ∣ i.bucketStart x :=
  Int.dvd_mul_left _ _

/-- Two moments share a bucket exactly when one lies within the bucket of the other. -/
theorem bucketStart_eq_iff (x y : Int) :
    i.bucketStart x = i.bucketStart y ↔
      i.bucketStart y ≤ x ∧ x < i.bucketStart y + i.seconds := by
  constructor
  · intro h
    rw [← h]
    exact ⟨i.bucketStart_le x, i.lt_bucketStart_add x⟩
  · rintro ⟨hfirst, hlast⟩
    have hmono := i.bucketStart_mono hfirst
    rw [i.bucketStart_of_dvd (i.dvd_bucketStart y)] at hmono
    exact Int.le_antisymm ((i.bucketStart_le_iff_lt x y).mpr hlast) hmono

/-! ## Two intervals -/

variable {f g : Interval}

theorem seconds_dvd_of_lt (h : f.seconds < g.seconds) : f.seconds ∣ g.seconds := by
  revert h
  cases f <;> cases g <;> decide

/-- A long bucket begins where a short one does, hence not within one. -/
theorem bucketStart_le_bucketStart (h : f.seconds < g.seconds) (x : Int) :
    g.bucketStart x ≤ f.bucketStart x := by
  have hdvd : (f.seconds : Int) ∣ g.bucketStart x :=
    Int.dvd_trans (Int.natCast_dvd_natCast.mpr (seconds_dvd_of_lt h)) (g.dvd_bucketStart x)
  have hmono := f.bucketStart_mono (g.bucketStart_le x)
  rw [f.bucketStart_of_dvd hdvd] at hmono
  exact hmono

/-- The long bucket of a moment is that of the left end of its short bucket. -/
theorem bucketStart_bucketStart (h : f.seconds < g.seconds) (x : Int) :
    g.bucketStart (f.bucketStart x) = g.bucketStart x :=
  (g.bucketStart_eq_iff _ x).mpr ⟨bucketStart_le_bucketStart h x,
    Int.lt_of_le_of_lt (f.bucketStart_le x) (g.lt_bucketStart_add x)⟩

end Candlestick.Interval
