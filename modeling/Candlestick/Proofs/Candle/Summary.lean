import Candlestick.Candle.Open
import Candlestick.Proofs.Double.Order

/-!
# What a candle says about its ticks

A list of prices is summed up by its first, greatest, least and last member (`SumUp`). A candle
sums up a list of ticks if it does so for their midpoints and counts them. There is at most one
such candle (`Candle.SumsUp.unique`), so naming the ticks names the candle. Taking in one price
after another keeps an open candle a summary of the ticks so far, and a summary of valid ticks
breaks none of the rules of candles when it is closed.
-/

namespace Candlestick

/-- The four numbers are the first, greatest, least and last of the prices. -/
structure SumUp (prices : List Double) (opening high low closing : Double) : Prop where
  opening_eq : prices.head? = some opening
  closing_eq : prices.getLast? = some closing
  high_mem : high ∈ prices
  le_high : ∀ price ∈ prices, price ≤ high
  low_mem : low ∈ prices
  low_le : ∀ price ∈ prices, low ≤ price

namespace SumUp

variable {prices : List Double} {opening high low closing : Double}

theorem opening_mem (h : SumUp prices opening high low closing) : opening ∈ prices :=
  List.mem_of_head? h.opening_eq

theorem closing_mem (h : SumUp prices opening high low closing) : closing ∈ prices :=
  List.mem_of_getLast? h.closing_eq

theorem singleton {price : Double} (h : Double.zero < price) :
    SumUp [price] price price price price := by
  have hself := Double.le_self_of_pos h
  refine ⟨rfl, rfl, List.mem_singleton_self _, ?_, List.mem_singleton_self _, ?_⟩
  · intro other hother
    rw [List.mem_singleton.mp hother]
    exact hself
  · intro other hother
    rw [List.mem_singleton.mp hother]
    exact hself

/-- One more price moves the greatest and the least only when it lies beyond them. -/
theorem concat (h : SumUp prices opening high low closing) {price : Double}
    (hprice : Double.zero < price) :
    SumUp (prices ++ [price]) opening (if high < price then price else high)
      (if price < low then price else low) price := by
  have hself := Double.le_self_of_pos hprice
  have hhigh := h.le_high high h.high_mem
  have hlow := h.low_le low h.low_mem
  refine ⟨?_, ?_, ?_, ?_, ?_, ?_⟩
  · simp [h.opening_eq]
  · simp
  · split
    · simp
    · exact List.mem_append_left _ h.high_mem
  · intro other hother
    rcases List.mem_append.mp hother with hold | hnew
    · split
      · next hlt => exact Double.le_trans (h.le_high other hold) (Double.le_of_lt hlt)
      · exact h.le_high other hold
    · rw [List.mem_singleton.mp hnew]
      split
      · exact hself
      · next hnot => exact Double.le_of_not_lt hhigh hself hnot
  · split
    · simp
    · exact List.mem_append_left _ h.low_mem
  · intro other hother
    rcases List.mem_append.mp hother with hold | hnew
    · split
      · next hlt => exact Double.le_trans (Double.le_of_lt hlt) (h.low_le other hold)
      · exact h.low_le other hold
    · rw [List.mem_singleton.mp hnew]
      split
      · exact hself
      · next hnot => exact Double.le_of_not_lt hself hlow hnot

end SumUp

/-- An open candle sums up the ticks of a bucket. -/
structure OpenCandle.SumsUp (c : OpenCandle) (bucket : Int) (ticks : List Tick) : Prop where
  bucketStart_eq : c.bucketStart = bucket
  prices : SumUp (ticks.map Tick.mid) c.opening c.high c.low c.closing
  ticks_eq : c.ticks = ticks.length

/-- A candle sums up the ticks of a bucket. -/
structure Candle.SumsUp (c : Candle) (bucket : Int) (ticks : List Tick) : Prop where
  bucketStart_eq : c.bucketStart = bucket
  prices : SumUp (ticks.map Tick.mid) c.opening c.high c.low c.closing
  volume_eq : c.volume = ticks.length

/-- The tick with whole prices, if it breaks no rule. -/
def Tick.whole (symbol : String) (bid ask : Nat) (timestamp : Int)
    (h : (Tick.make symbol (.ofUnits (bid * Double.one)) (.ofUnits (ask * Double.one))
      timestamp).toOption.isSome = true) : Tick :=
  (Tick.make symbol (.ofUnits (bid * Double.one)) (.ofUnits (ask * Double.one))
    timestamp).toOption.get h

/-- The prices of ticks are above zero. -/
theorem Tick.pos_of_mem_map_mid {ticks : List Tick} {price : Double}
    (h : price ∈ ticks.map Tick.mid) : Double.zero < price := by
  obtain ⟨t, _, rfl⟩ := List.mem_map.mp h
  exact t.mid_pos

namespace Candle.SumsUp

variable {c d : Candle} {bucket : Int} {ticks : List Tick}

theorem ne_nil (h : c.SumsUp bucket ticks) : ticks ≠ [] := by
  rintro rfl
  have hnone := h.prices.opening_eq
  simp at hnone

theorem volume_pos (h : c.SumsUp bucket ticks) : 0 < c.volume := by
  have hlen := List.length_pos_iff.mpr h.ne_nil
  rw [h.volume_eq]
  omega

/-- No two candles sum up the same ticks. -/
theorem unique (hc : c.SumsUp bucket ticks) (hd : d.SumsUp bucket ticks) : c = d := by
  have hopening : c.opening = d.opening :=
    Option.some.inj (hc.prices.opening_eq.symm.trans hd.prices.opening_eq)
  have hclosing : c.closing = d.closing :=
    Option.some.inj (hc.prices.closing_eq.symm.trans hd.prices.closing_eq)
  have hhigh : c.high = d.high :=
    Double.le_antisymm (Tick.pos_of_mem_map_mid hc.prices.high_mem)
      (Tick.pos_of_mem_map_mid hd.prices.high_mem)
      (hd.prices.le_high _ hc.prices.high_mem) (hc.prices.le_high _ hd.prices.high_mem)
  have hlow : c.low = d.low :=
    Double.le_antisymm (Tick.pos_of_mem_map_mid hc.prices.low_mem)
      (Tick.pos_of_mem_map_mid hd.prices.low_mem)
      (hc.prices.low_le _ hd.prices.low_mem) (hd.prices.low_le _ hc.prices.low_mem)
  have hstart : c.bucketStart = d.bucketStart := hc.bucketStart_eq.trans hd.bucketStart_eq.symm
  have hvolume : c.volume = d.volume := hc.volume_eq.trans hd.volume_eq.symm
  cases c
  cases d
  simp_all

end Candle.SumsUp

namespace OpenCandle

theorem sumsUp_start (bucket : Int) (t : Tick) : (start bucket t.mid).SumsUp bucket [t] :=
  ⟨rfl, SumUp.singleton t.mid_pos, rfl⟩

namespace SumsUp

variable {c : OpenCandle} {bucket : Int} {ticks : List Tick}

theorem add (h : c.SumsUp bucket ticks) (t : Tick) :
    (c.add t.mid).SumsUp bucket (ticks ++ [t]) := by
  refine ⟨h.bucketStart_eq, ?_, ?_⟩
  · rw [List.map_append]
    exact h.prices.concat t.mid_pos
  · rw [ticks_add, h.ticks_eq, List.length_append]
    rfl

/-- A summary can be closed: none of the checks of a candle can fail, and what comes out is the
summary of the same ticks. -/
theorem close (h : c.SumsUp bucket ticks) (hbucket : 0 ≤ bucket) :
    ∃ candle, c.close = .ok candle ∧ candle.SumsUp bucket ticks := by
  have hstart : 0 ≤ c.bucketStart := by
    rw [h.bucketStart_eq]
    exact hbucket
  have hrange : ¬ c.high < c.low :=
    Double.not_lt_of_le (h.prices.low_le _ h.prices.high_mem)
  have hopening : c.low ≤ c.opening ∧ c.opening ≤ c.high :=
    ⟨h.prices.low_le _ h.prices.opening_mem, h.prices.le_high _ h.prices.opening_mem⟩
  have hclosing : c.low ≤ c.closing ∧ c.closing ≤ c.high :=
    ⟨h.prices.low_le _ h.prices.closing_mem, h.prices.le_high _ h.prices.closing_mem⟩
  have hvolume : (0 : Int) ≤ c.ticks := Int.natCast_nonneg _
  refine ⟨⟨c.bucketStart, c.opening, c.high, c.low, c.closing, c.ticks, hstart, hrange, hopening,
    hclosing, hvolume⟩, ?_, h.bucketStart_eq, h.prices, ?_⟩
  · simp [OpenCandle.close, Candle.make, hstart, hrange, hopening, hclosing]
  · exact congrArg Int.ofNat h.ticks_eq

end SumsUp

theorem SumsUp.exists_append {c : OpenCandle} {bucket : Int} {ticks : List Tick}
    (h : c.SumsUp bucket ticks) (more : List Tick) :
    ∃ d : OpenCandle, d.SumsUp bucket (ticks ++ more) := by
  induction more generalizing c ticks with
  | nil =>
      rw [List.append_nil]
      exact ⟨c, h⟩
  | cons t rest ih =>
      obtain ⟨d, hd⟩ := ih (h.add t)
      rw [List.append_assoc] at hd
      exact ⟨d, hd⟩

end OpenCandle

/-- A candle has the bucket, the prices and the number of ticks of an open one. -/
def OpenCandle.ClosesTo (c : OpenCandle) (candle : Candle) : Prop :=
  candle.bucketStart = c.bucketStart ∧ candle.opening = c.opening ∧ candle.high = c.high ∧
    candle.low = c.low ∧ candle.closing = c.closing ∧ candle.volume = c.ticks

theorem OpenCandle.closesTo_of_close {c : OpenCandle} {candle : Candle}
    (h : c.close = .ok candle) : c.ClosesTo candle := by
  unfold close Candle.make at h
  split at h
  · split at h
    · cases h
    · split at h
      · split at h
        · split at h
          · cases h
            exact ⟨rfl, rfl, rfl, rfl, rfl, rfl⟩
          · cases h
        · cases h
      · cases h
  · cases h

/-- Some ticks of a bucket always have a candle. -/
theorem Candle.exists_sumsUp {bucket : Int} (hbucket : 0 ≤ bucket) {ticks : List Tick}
    (h : ticks ≠ []) : ∃ c : Candle, c.SumsUp bucket ticks := by
  obtain ⟨first, rest, rfl⟩ := List.exists_cons_of_ne_nil h
  obtain ⟨c, hc⟩ := (OpenCandle.sumsUp_start bucket first).exists_append rest
  obtain ⟨candle, _, hcandle⟩ := hc.close hbucket
  exact ⟨candle, hcandle⟩

end Candlestick
