import Candlestick.Candle.Basic
import Candlestick.Interval
import Candlestick.Keyed
import Candlestick.Text.Ordered

/-!
# The candle store

Completed candles under symbol, interval label and bucket start. A candle saved under a key that
is taken corrects the one before. A query asks for one symbol and label and for bucket starts
between two bounds, both included.
-/

namespace Candlestick

/-- What identifies a stored candle. The label may be any text. -/
structure CandleKey where
  symbol : String
  label : String
  bucketStart : Int
deriving DecidableEq, Repr

/-- The stored candles, in the order in which their keys were first used. -/
structure Store where
  candles : Keyed CandleKey Candle

namespace Store

def empty : Store :=
  ⟨.empty⟩

instance : Inhabited Store := ⟨empty⟩

def keyOf (symbol label : String) (candle : Candle) : CandleKey :=
  ⟨symbol, label, candle.bucketStart⟩

/-- Saves a candle; the last one saved under a key stays. -/
def save (s : Store) (symbol label : String) (candle : Candle) : Store :=
  ⟨s.candles.put (keyOf symbol label candle) candle⟩

/-- Drops all candles. -/
def clear (_ : Store) : Store :=
  empty

def get? (s : Store) (key : CandleKey) : Option Candle :=
  s.candles.get? key

/-- Puts a candle before the first one that starts later. -/
def insertByStart (candle : Candle) : List Candle → List Candle
  | [] => [candle]
  | other :: rest =>
    if candle.bucketStart ≤ other.bucketStart then candle :: other :: rest
    else other :: insertByStart candle rest

/-- Candles in ascending order of their bucket starts. -/
def sortByStart (candles : List Candle) : List Candle :=
  candles.foldr insertByStart []

/-- Whether a key is of the given symbol and label and starts within the bounds. -/
def covers (symbol label : String) (first last : Int) (key : CandleKey) : Bool :=
  key.symbol == symbol && key.label == label &&
    first ≤ key.bucketStart && key.bucketStart ≤ last

/-- The candles of a symbol and label that start within the bounds, earliest first. -/
def query (s : Store) (symbol label : String) (first last : Int) : List Candle :=
  sortByStart ((s.candles.entries.filter fun entry ↦
    covers symbol label first last entry.1).map Prod.snd)

def size (s : Store) : Nat :=
  s.candles.size

/-- The symbols that have candles, in ascending order. -/
def symbols (s : Store) : List String :=
  Text.distinctAscending (s.candles.keys.map CandleKey.symbol)

/-- All candles of a symbol and label, earliest first. -/
def history (s : Store) (symbol label : String) : List Candle :=
  sortByStart ((s.candles.entries.filter fun entry ↦
    entry.1.symbol == symbol && entry.1.label == label).map Prod.snd)

@[simp] theorem get?_empty (key : CandleKey) : empty.get? key = none :=
  rfl

@[simp] theorem get?_save (s : Store) (symbol label : String) (candle : Candle) (key : CandleKey) :
    (s.save symbol label candle).get? key =
      if keyOf symbol label candle = key then some candle else s.get? key :=
  Keyed.get?_put _ _ _ _

end Store

end Candlestick
