import Candlestick.Candle.Basic
import Candlestick.Json.Basic

/-!
# Candle histories

The answer to a query for candles: parallel columns of times, prices and volumes. Prices are
rounded to cents. An answer without candles says that there is no data, and an answer to a
query that could not be served says why.
-/

namespace Candlestick

/-- Parallel columns of candle parts, with a status. -/
structure History where
  status : String
  times : List Int
  opens : List Double
  highs : List Double
  lows : List Double
  closes : List Double
  volumes : List Int
deriving DecidableEq

namespace History

def bare (status : String) : History :=
  ⟨status, [], [], [], [], [], []⟩

def noData : History :=
  bare "no_data"

def error (message : String) : History :=
  bare ("error: " ++ message)

def ofCandles (candles : List Candle) : History where
  status := "ok"
  times := candles.map Candle.bucketStart
  opens := candles.map fun c ↦ c.opening.roundToCents
  highs := candles.map fun c ↦ c.high.roundToCents
  lows := candles.map fun c ↦ c.low.roundToCents
  closes := candles.map fun c ↦ c.closing.roundToCents
  volumes := candles.map Candle.volume

def answer (candles : List Candle) : History :=
  if candles.isEmpty then noData else ofCandles candles

/-- The columns as JSON lists under one-letter names, with prices written in the given way. -/
def toJsonWith (price : Double → Json) (h : History) : Json :=
  .object [("s", .text h.status), ("t", .list (h.times.map .int)),
    ("o", .list (h.opens.map price)), ("h", .list (h.highs.map price)),
    ("l", .list (h.lows.map price)), ("c", .list (h.closes.map price)),
    ("v", .list (h.volumes.map .int))]

/-- The columns as JSON lists under one-letter names. -/
def toJson (h : History) : Json :=
  h.toJsonWith .real

end History

end Candlestick
