import Candlestick.Engine.Basic
import Candlestick.Period
import Candlestick.Random.Normal

/-!
# Random walks of prices

A walk holds a price for each of its symbols. In a round every price makes one small random step
and a tick around the new price is offered to an engine, symbol after symbol. A price moves only
once its tick has been taken in, so a round that is cut short leaves the remaining prices as they
were. The source of random numbers is a parameter: any state with a way to draw from it.

A walk that runs makes a round right away and the next one a period later. A round that is cut
short ends the run.
-/

namespace Candlestick

/-- What ends a round early. -/
inductive Walk.Fault where
  | invalidTick (fault : Tick.Fault)
  | engine (fault : Engine.Fault)
deriving DecidableEq, Repr

def Walk.Fault.message : Walk.Fault → String
  | .invalidTick fault => fault.message
  | .engine fault => fault.message

/-- The price of each symbol, the state of the random source, and the ticks taken in so far. The
period is in milliseconds. -/
structure Walk (σ : Type) where
  period : Int
  prices : Keyed String Double
  noise : σ
  events : Nat
  running : Bool

namespace Walk

variable {σ : Type}

/-- The wording for a period that is zero or negative. -/
def badPeriodMessage : String :=
  "interval_ms must be positive"

def basePrice (symbol : String) : Double :=
  .ofInt <|
    if symbol = "BTC-USD" then 65000
    else if symbol = "ETH-USD" then 3500
    else if symbol = "SOL-USD" then 150
    else if symbol = "BNB-USD" then 400
    else 100

/-- The deviation of a step, as a part of the price. -/
def volatility : Double :=
  Decimal.toDouble ⟨false, 5, -4⟩

/-- The distance between bid and ask, as a part of the price. -/
def spreadRatio : Double :=
  Decimal.toDouble ⟨false, 1, -3⟩

def lowestPrice : Double :=
  Decimal.toDouble ⟨false, 1, -2⟩

/-- The walk of the given symbols from their base prices, not running yet. -/
def ofSymbols (period : Int) (symbols : List String) (noise : σ) : Walk σ where
  period := period
  prices := symbols.foldl (fun prices symbol ↦ prices.put symbol (basePrice symbol)) .empty
  noise := noise
  events := 0
  running := false

/-- The walk of the given symbols, if the period is positive. -/
def make? (period : Int) (symbols : List String) (noise : σ) : Option (Walk σ) :=
  if 0 < period then some (ofSymbols period symbols noise) else none

def setPrice (w : Walk σ) (symbol : String) (price : Double) : Walk σ :=
  { w with prices := w.prices.put symbol price }

/-- The price after a step of the given relative size. -/
def stepFrom (price step : Double) : Double :=
  Double.max (price + price * step) lowestPrice

def tickAround (symbol : String) (price : Double) (now : Int) : Except Tick.Fault Tick :=
  let reach := (price * spreadRatio).half
  Tick.make symbol (price - reach) (price + reach) now

def step (draw : σ → Double × σ) (refuses : Refusals) (now : Int) (w : Walk σ) (e : Engine)
    (symbol : String) (price : Double) : Walk σ × Engine × Except Fault Tick :=
  let (size, noise) := draw w.noise
  let w := { w with noise }
  let next := stepFrom price size
  match tickAround symbol next now with
  | .error fault => (w, e, .error (.invalidTick fault))
  | .ok tick =>
    match e.ingest refuses tick with
    | (reached, .error fault) => (w, reached, .error (.engine fault))
    | (reached, .ok ()) =>
      ({ w.setPrice symbol next with events := w.events + 1 }, reached, .ok tick)

/-- The steps of several symbols up to the first fault. -/
def steps (draw : σ → Double × σ) (refuses : Refusals) (now : Int) :
    List (String × Double) → Walk σ → Engine → Walk σ × Engine × Except Fault (List Tick)
  | [], w, e => (w, e, .ok [])
  | (symbol, price) :: rest, w, e =>
    match w.step draw refuses now e symbol price with
    | (w, e, .error fault) => (w, e, .error fault)
    | (w, e, .ok tick) =>
      let (w, e, result) := steps draw refuses now rest w e
      (w, e, result.map (tick :: ·))

/-- One round: a step of every symbol, from the prices before the round. -/
def round (draw : σ → Double × σ) (refuses : Refusals) (now : Int) (w : Walk σ) (e : Engine) :
    Walk σ × Engine × Except Fault (List Tick) :=
  w.steps draw refuses now w.prices.entries e

/-- Starts a run with a first round; a walk that runs goes on as it is. The run does not outlast
the round if that is cut short or if there is no such period to wait for. -/
def start (draw : σ → Double × σ) (refuses : Refusals) (now : Int) (w : Walk σ) (e : Engine) :
    Walk σ × Engine :=
  if w.running then (w, e)
  else
    let (w, e, result) := w.round draw refuses now e
    ({ w with running := result.isOk && (Period.seconds? w.period).isSome }, e)

def stop (w : Walk σ) : Walk σ :=
  { w with running := false }

/-- How normally distributed noise is drawn for a step. -/
def drawNormal (n : Normal) : Double × Normal :=
  n.scaled volatility

end Walk

end Candlestick
