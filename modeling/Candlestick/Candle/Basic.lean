import Candlestick.Double.Arithmetic

/-!
# Candles

A candle sums up the ticks of one bucket: the first, highest, lowest and last price and the
number of ticks. `Candle.make` checks the rules of a candle in a fixed order and names the first
that is broken; none of the prices of a candle is ever something that is not a number.
-/

namespace Candlestick

/-- The prices and the number of ticks of one bucket. -/
structure Candle where
  bucketStart : Int
  opening : Double
  high : Double
  low : Double
  closing : Double
  volume : Int
  bucketStart_nonneg : 0 ≤ bucketStart
  high_not_lt_low : ¬ high < low
  opening_within : low ≤ opening ∧ opening ≤ high
  closing_within : low ≤ closing ∧ closing ≤ high
  volume_nonneg : 0 ≤ volume
deriving DecidableEq

namespace Candle

/-- The rule that a candle breaks. -/
inductive Fault where
  | negativeBucketStart
  | highBelowLow
  | openingOutside
  | closingOutside
  | negativeVolume
deriving DecidableEq, Repr

def Fault.message : Fault → String
  | .negativeBucketStart => "Bucket start must be non-negative"
  | .highBelowLow => "High must be >= low"
  | .openingOutside => "Open must lie within [low, high]"
  | .closingOutside => "Close must lie within [low, high]"
  | .negativeVolume => "Volume must be non-negative"

/-- The candle with the given parts, or the first rule that they break. -/
def make (bucketStart : Int) (opening high low closing : Double) (volume : Int) :
    Except Fault Candle :=
  if hstart : 0 ≤ bucketStart then
    if hrange : high < low then .error .highBelowLow
    else if hopening : low ≤ opening ∧ opening ≤ high then
      if hclosing : low ≤ closing ∧ closing ≤ high then
        if hvolume : 0 ≤ volume then
          .ok ⟨bucketStart, opening, high, low, closing, volume, hstart, hrange, hopening,
            hclosing, hvolume⟩
        else .error .negativeVolume
      else .error .closingOutside
    else .error .openingOutside
  else .error .negativeBucketStart

theorem make_self (c : Candle) :
    make c.bucketStart c.opening c.high c.low c.closing c.volume = .ok c := by
  simp [make, c.bucketStart_nonneg, c.high_not_lt_low, c.opening_within, c.closing_within,
    c.volume_nonneg]

end Candle

end Candlestick
