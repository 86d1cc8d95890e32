import Candlestick.Candle.Open
import Candlestick.Interval
import Candlestick.Tick.Basic

/-!
# Aggregators

An aggregator turns the ticks of one symbol into the candles of one interval. It holds at most
one open candle. A tick of the open bucket is taken in, a tick of a later bucket completes the
open candle and starts the next, and a tick of an earlier bucket is late: it is dropped and
counted. The open candle is also completed when its bucket has ended, and on demand.

What a call does is described by a `Move`: the candle that has to be handed over, if there is
one, and the state reached once it has been. Whoever carries the move out leaves the aggregator
as it was if the candle is not taken.
-/

namespace Candlestick

/-- The state of one symbol and interval. -/
structure Aggregator where
  interval : Interval
  current : Option OpenCandle
  dropped : Nat
deriving DecidableEq

namespace Aggregator

def fresh (interval : Interval) : Aggregator :=
  ⟨interval, none, 0⟩

def bucket? (a : Aggregator) : Option Int :=
  a.current.map OpenCandle.bucketStart

/-- A candle to hand over, and the state reached once it has been taken. -/
structure Move where
  completed : Option Candle
  next : Aggregator
deriving DecidableEq

def quietly (next : Aggregator) : Except Candle.Fault Move :=
  .ok ⟨none, next⟩

/-- The move that hands the open candle over and goes on with another one, or with none. -/
def complete (a : Aggregator) (c : OpenCandle) (following : Option OpenCandle) :
    Except Candle.Fault Move := do
  return ⟨some (← c.close), { a with current := following }⟩

def process (a : Aggregator) (t : Tick) : Except Candle.Fault Move :=
  let bucket := a.interval.bucketStart t.second
  match a.current with
  | none => quietly { a with current := some (.start bucket t.mid) }
  | some c =>
    if bucket = c.bucketStart then quietly { a with current := some (c.add t.mid) }
    else if c.bucketStart < bucket then a.complete c (some (.start bucket t.mid))
    else quietly { a with dropped := a.dropped + 1 }

/-- Completes the open candle if its bucket has ended at the given second. -/
def flushStale (now : Int) (a : Aggregator) : Except Candle.Fault Move :=
  match a.current with
  | none => quietly a
  | some c =>
    if a.interval.bucketStart now ≤ c.bucketStart then quietly a
    else a.complete c none

def flush (a : Aggregator) : Except Candle.Fault Move :=
  match a.current with
  | none => quietly a
  | some c => a.complete c none

end Aggregator

end Candlestick
