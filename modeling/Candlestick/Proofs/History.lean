import Candlestick.Proofs.Double.Cents
import Candlestick.Proofs.Http.Range

/-!
# Histories of valid candles

The prices of a candle lie between its lowest and its highest one, and they still do where they are
shown: in the columns of a history every price is rounded on its own, and rounding keeps the order.
Nothing changes if the prices of a history are rounded once more.
-/

namespace Candlestick

/-- The prices that stand for those of a candle: each rounded, the first and the last one between
the lowest and the highest. -/
structure Candle.ShownAs (c : Candle) (opening high low closing : Double) : Prop where
  opening_rounded : c.opening.RoundsTo opening
  high_rounded : c.high.RoundsTo high
  low_rounded : c.low.RoundsTo low
  closing_rounded : c.closing.RoundsTo closing
  opening_within : low ≤ opening ∧ opening ≤ high
  closing_within : low ≤ closing ∧ closing ≤ high

theorem Candle.shownAs_roundToCents {c : Candle} (h : c.IsFinite) :
    c.ShownAs c.opening.roundToCents c.high.roundToCents c.low.roundToCents
      c.closing.roundToCents where
  opening_rounded := Double.roundsTo_roundToCents h.opening
  high_rounded := Double.roundsTo_roundToCents h.high
  low_rounded := Double.roundsTo_roundToCents h.low
  closing_rounded := Double.roundsTo_roundToCents h.closing
  opening_within := c.opening_within.imp Double.roundToCents_mono Double.roundToCents_mono
  closing_within := c.closing_within.imp Double.roundToCents_mono Double.roundToCents_mono

namespace History

/-- At every position of a history the prices of its candle are shown, rounded and still in order,
and a price that has been rounded is not changed by rounding it again. -/
theorem ofCandles_shows {candles : List Candle} (hfinite : ∀ c ∈ candles, c.IsFinite) :
    let h := ofCandles candles
    (∀ column ∈ [h.opens, h.highs, h.lows, h.closes], column.length = candles.length) ∧
    (∀ (k : Nat) (c : Candle), candles[k]? = some c → ∃ opening high low closing,
      h.opens[k]? = some opening ∧ h.highs[k]? = some high ∧ h.lows[k]? = some low ∧
        h.closes[k]? = some closing ∧ c.ShownAs opening high low closing) ∧
    ∀ price : Double, price.roundToCents.roundToCents = price.roundToCents := by
  intro h
  refine ⟨?_, ?_, Double.roundToCents_roundToCents⟩
  · simp [h, ofCandles]
  · intro k c hc
    have hcolumn : ∀ price : Candle → Double,
        (candles.map fun c ↦ (price c).roundToCents)[k]? = some (price c).roundToCents := by
      intro price
      rw [List.getElem?_map, hc]
      rfl
    exact ⟨_, _, _, _, hcolumn Candle.opening, hcolumn Candle.high, hcolumn Candle.low,
      hcolumn Candle.closing, c.shownAs_roundToCents (hfinite c (List.mem_of_getElem? hc))⟩

/-- Two prices are half a cent from two others, one is far above the last digit that a double can
hold, and one is negative and rounded to zero. -/
def roughCandle : Candle where
  bucketStart := 60
  opening := Decimal.toDouble ⟨false, 125, -3⟩
  high := Decimal.toDouble ⟨false, 1, 300⟩
  low := Decimal.toDouble ⟨true, 4, -3⟩
  closing := Decimal.toDouble ⟨false, 375, -3⟩
  volume := 4
  bucketStart_nonneg := by decide
  high_not_lt_low := by decide +kernel
  opening_within := by decide +kernel
  closing_within := by decide +kernel
  volume_nonneg := by decide

theorem ofCandles_shows_roughCandle :
    roughCandle.IsFinite ∧
      (ofCandles [roughCandle]).opens = [Decimal.toDouble ⟨false, 12, -2⟩] ∧
      (ofCandles [roughCandle]).highs = [roughCandle.high] ∧
      (ofCandles [roughCandle]).lows = [Decimal.toDouble ⟨true, 0, 0⟩] ∧
      (ofCandles [roughCandle]).closes = [Decimal.toDouble ⟨false, 38, -2⟩] ∧
      ∃ opening high low closing, (ofCandles [roughCandle]).opens[0]? = some opening ∧
        (ofCandles [roughCandle]).lows[0]? = some low ∧
        roughCandle.ShownAs opening high low closing := by
  have hfinite : roughCandle.IsFinite :=
    ⟨by decide +kernel, by decide +kernel, by decide +kernel, by decide +kernel⟩
  obtain ⟨_, hshown, _⟩ := ofCandles_shows (List.forall_mem_singleton.mpr hfinite)
  obtain ⟨opening, high, low, closing, hopening, _, hlow, _, hc⟩ := hshown 0 roughCandle rfl
  exact ⟨hfinite, by decide +kernel, by decide +kernel, by decide +kernel, by decide +kernel,
    opening, high, low, closing, hopening, hlow, hc⟩

end History

end Candlestick
