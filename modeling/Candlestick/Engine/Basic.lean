import Candlestick.Aggregator
import Candlestick.Store

/-!
# The engine

One aggregator for each symbol and interval, and the store that completed candles go to. A tick
is offered to the aggregator of each listed interval in turn; aggregators come into being with
the first tick for them. A sweep completes the candles whose bucket has ended, a shutdown all of
them, both in the order in which the aggregators came into being.

A save may be refused. Which attempts are refused is a parameter, counted over the life of the
engine. A refused save leaves the aggregator and the store as they were and ends the call, so
every operation gives the state it reached together with its result.
-/

namespace Candlestick

/-- Which save attempts are refused, counted from one. -/
abbrev Refusals := Nat → Bool

def Refusals.none : Refusals :=
  fun _ ↦ false

/-- What ends a call of the engine early. -/
inductive Engine.Fault where
  | saveRefused
  | invalidCandle (fault : Candle.Fault)
deriving DecidableEq, Repr

/-- The aggregators in the order of their creation, the store, and the number of saves tried. -/
structure Engine where
  intervals : List Interval
  pool : Keyed (String × Interval) Aggregator
  store : Store
  attempts : Nat

namespace Engine

def Fault.message : Fault → String
  | .saveRefused => "save failed"
  | .invalidCandle fault => fault.message

/-- An engine for the listed intervals, without aggregators, over an empty store. -/
def fresh (intervals : List Interval) : Engine :=
  ⟨intervals, .empty, .empty, 0⟩

instance : Inhabited Engine := ⟨fresh Interval.catalog⟩

def aggregator? (e : Engine) (symbol : String) (interval : Interval) : Option Aggregator :=
  e.pool.get? (symbol, interval)

def countAttempt (e : Engine) : Engine :=
  { e with attempts := e.attempts + 1 }

def save (refuses : Refusals) (e : Engine) (symbol label : String) (candle : Candle) :
    Engine × Except Fault Unit :=
  if refuses (e.attempts + 1) then (e.countAttempt, .error .saveRefused)
  else ({ e.countAttempt with store := e.store.save symbol label candle }, .ok ())

/-- Carries out the move of an aggregator: its candle is saved before its state changes. -/
def carryOut (refuses : Refusals) (e : Engine) (key : String × Interval)
    (move : Except Candle.Fault Aggregator.Move) : Engine × Except Fault (Option Candle) :=
  match move with
  | .error fault => (e, .error (.invalidCandle fault))
  | .ok ⟨none, next⟩ => ({ e with pool := e.pool.put key next }, .ok none)
  | .ok ⟨some candle, next⟩ =>
    match e.save refuses key.1 key.2.label candle with
    | (saved, .ok ()) => ({ saved with pool := saved.pool.put key next }, .ok (some candle))
    | (unsaved, .error fault) => (unsaved, .error fault)

/-- Makes a move with the aggregator of a key, if there is one. -/
def visit (refuses : Refusals) (move : Aggregator → Except Candle.Fault Aggregator.Move)
    (e : Engine) (key : String × Interval) : Engine × Except Fault (Option Candle) :=
  match e.pool.get? key with
  | none => (e, .ok none)
  | some a => e.carryOut refuses key (move a)

/-- Makes the same move with the aggregators of several keys up to the first fault, and counts
the candles that were completed. -/
def visitEach (refuses : Refusals) (move : Aggregator → Except Candle.Fault Aggregator.Move) :
    List (String × Interval) → Engine → Engine × Except Fault Nat
  | [], e => (e, .ok 0)
  | key :: rest, e =>
    match e.visit refuses move key with
    | (reached, .error fault) => (reached, .error fault)
    | (reached, .ok candle) =>
      match visitEach refuses move rest reached with
      | (final, .ok count) => (final, .ok (count + if candle.isSome then 1 else 0))
      | (final, .error fault) => (final, .error fault)

def ensure (e : Engine) (key : String × Interval) : Engine :=
  match e.pool.get? key with
  | some _ => e
  | none => { e with pool := e.pool.put key (.fresh key.2) }

/-- Offers a tick to the aggregators of several intervals up to the first fault. -/
def offer (refuses : Refusals) (t : Tick) : List Interval → Engine → Engine × Except Fault Unit
  | [], e => (e, .ok ())
  | interval :: rest, e =>
    match (e.ensure (t.symbol, interval)).visit refuses (·.process t) (t.symbol, interval) with
    | (reached, .error fault) => (reached, .error fault)
    | (reached, .ok _) => offer refuses t rest reached

def ingest (refuses : Refusals) (e : Engine) (t : Tick) : Engine × Except Fault Unit :=
  offer refuses t e.intervals e

/-- Completes every open candle whose bucket has ended at the given second. -/
def sweep (refuses : Refusals) (e : Engine) (now : Int) : Engine × Except Fault Nat :=
  visitEach refuses (Aggregator.flushStale now) e.pool.keys e

def shutdown (refuses : Refusals) (e : Engine) : Engine × Except Fault Nat :=
  visitEach refuses Aggregator.flush e.pool.keys e

/-- The symbols that have aggregators, in ascending order. -/
def activeSymbols (e : Engine) : List String :=
  Text.distinctAscending (e.pool.keys.map Prod.fst)

def aggregatorCount (e : Engine) : Nat :=
  e.pool.size

/-- The number of late ticks dropped by all aggregators. -/
def droppedTicks (e : Engine) : Nat :=
  e.pool.values.foldl (fun total aggregator ↦ total + aggregator.dropped) 0

end Engine

end Candlestick
