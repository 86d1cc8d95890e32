/-!
# Intervals

The fixed catalog of candle timeframes, from one second to one hour. An interval cuts the
time line into buckets of equal length; `bucketStart` is the left end of the bucket that holds
a moment. Moments are whole seconds since the epoch and may be negative; the left end is then
still the one below (`bucketStart_le`, `lt_bucketStart_add`).
-/

namespace Candlestick

/-- The timeframes for which candles are built. -/
inductive Interval where
  | oneSecond
  | fiveSeconds
  | fifteenSeconds
  | oneMinute
  | fiveMinutes
  | fifteenMinutes
  | oneHour
deriving DecidableEq, Repr

namespace Interval

def catalog : List Interval :=
  [oneSecond, fiveSeconds, fifteenSeconds, oneMinute, fiveMinutes, fifteenMinutes, oneHour]

/-- The short name under which an interval is asked for and stored. -/
def label : Interval → String
  | oneSecond => "1s"
  | fiveSeconds => "5s"
  | fifteenSeconds => "15s"
  | oneMinute => "1m"
  | fiveMinutes => "5m"
  | fifteenMinutes => "15m"
  | oneHour => "1h"

def seconds : Interval → Nat
  | oneSecond => 1
  | fiveSeconds => 5
  | fifteenSeconds => 15
  | oneMinute => 60
  | fiveMinutes => 300
  | fifteenMinutes => 900
  | oneHour => 3600

def labels : List String :=
  catalog.map label

/-- The interval of a label, spelled exactly as in the catalog. -/
def ofLabel? (text : String) : Option Interval :=
  catalog.find? fun interval ↦ interval.label == text

/-- The left end of the bucket that holds the given second. -/
def bucketStart (interval : Interval) (second : Int) : Int :=
  second / interval.seconds * interval.seconds

@[simp] theorem ofLabel?_label (interval : Interval) : ofLabel? interval.label = some interval := by
  cases interval <;> decide

theorem label_injective {f g : Interval} (h : f.label = g.label) : f = g := by
  have hf := ofLabel?_label f
  rw [h, ofLabel?_label] at hf
  exact (Option.some.inj hf).symm

theorem seconds_pos (interval : Interval) : 0 < interval.seconds := by
  cases interval <;> decide

theorem bucketStart_le (interval : Interval) (second : Int) :
    interval.bucketStart second ≤ second := by
  have hpos : (0 : Int) < interval.seconds := by exact_mod_cast interval.seconds_pos
  exact Int.ediv_mul_le second (by omega)

theorem lt_bucketStart_add (interval : Interval) (second : Int) :
    second < interval.bucketStart second + interval.seconds := by
  have hpos : (0 : Int) < interval.seconds := by exact_mod_cast interval.seconds_pos
  have h := Int.lt_ediv_add_one_mul_self second hpos
  rw [Int.add_mul, Int.one_mul] at h
  exact h

end Interval

end Candlestick
