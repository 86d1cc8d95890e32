import Candlestick.Candle.Basic

/-!
# Open candles

The candle of a bucket that has not ended yet. It starts from one price and takes in further
prices one by one; closing it gives the candle, provided the rules of candles hold.
-/

namespace Candlestick

/-- A candle that still takes prices. -/
structure OpenCandle where
  bucketStart : Int
  opening : Double
  high : Double
  low : Double
  closing : Double
  ticks : Nat
deriving DecidableEq

namespace OpenCandle

/-- The open candle of a bucket with its first price. -/
def start (bucketStart : Int) (price : Double) : OpenCandle :=
  ⟨bucketStart, price, price, price, price, 1⟩

def add (c : OpenCandle) (price : Double) : OpenCandle :=
  { c with
    high := if c.high < price then price else c.high
    low := if price < c.low then price else c.low
    closing := price
    ticks := c.ticks + 1 }

def close (c : OpenCandle) : Except Candle.Fault Candle :=
  Candle.make c.bucketStart c.opening c.high c.low c.closing c.ticks

/-- The open candle of a bucket after a first price and the ones that follow it. -/
def ofPrices (bucketStart : Int) (first : Double) (rest : List Double) : OpenCandle :=
  rest.foldl add (start bucketStart first)

@[simp] theorem ofPrices_nil (bucketStart : Int) (first : Double) :
    ofPrices bucketStart first [] = start bucketStart first :=
  rfl

@[simp] theorem ofPrices_concat (bucketStart : Int) (first : Double) (rest : List Double)
    (price : Double) :
    ofPrices bucketStart first (rest ++ [price]) = (ofPrices bucketStart first rest).add price := by
  simp [ofPrices]

@[simp] theorem bucketStart_add (c : OpenCandle) (price : Double) :
    (c.add price).bucketStart = c.bucketStart :=
  rfl

@[simp] theorem ticks_add (c : OpenCandle) (price : Double) : (c.add price).ticks = c.ticks + 1 :=
  rfl

end OpenCandle

end Candlestick
