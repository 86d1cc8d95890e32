import Candlestick.Double.Arithmetic
import Candlestick.Symbol

/-!
# Ticks

A tick is one observation of a bid and an ask price. A tick that breaks one of the rules does
not exist: `Tick.make` checks them in a fixed order and names the first that is broken. The
price that enters a candle is the midpoint of bid and ask.
-/

namespace Candlestick

/-- A bid and ask price of a symbol at a moment, in milliseconds since the epoch. -/
structure Tick where
  symbol : String
  bid : Double
  ask : Double
  timestamp : Int
  symbol_not_blank : Symbol.isBlank symbol = false
  bid_pos : Double.zero < bid
  ask_pos : Double.zero < ask
  ask_not_lt_bid : ¬ ask < bid
  timestamp_pos : 0 < timestamp
deriving DecidableEq

namespace Tick

/-- The rule that a tick breaks. -/
inductive Fault where
  | blankSymbol
  | bidNotPositive
  | askNotPositive
  | askBelowBid
  | timestampNotPositive
deriving DecidableEq, Repr

def Fault.message : Fault → String
  | .blankSymbol => "Symbol must not be blank"
  | .bidNotPositive => "Bid must be positive"
  | .askNotPositive => "Ask must be positive"
  | .askBelowBid => "Ask must be >= bid"
  | .timestampNotPositive => "Timestamp must be positive"

/-- The tick with the given parts, or the first rule that they break. -/
def make (symbol : String) (bid ask : Double) (timestamp : Int) : Except Fault Tick :=
  if hsymbol : Symbol.isBlank symbol = false then
    if hbid : Double.zero < bid then
      if hask : Double.zero < ask then
        if hspread : ask < bid then .error .askBelowBid
        else if htime : 0 < timestamp then
          .ok ⟨symbol, bid, ask, timestamp, hsymbol, hbid, hask, hspread, htime⟩
        else .error .timestampNotPositive
      else .error .askNotPositive
    else .error .bidNotPositive
  else .error .blankSymbol

theorem make_self (t : Tick) : make t.symbol t.bid t.ask t.timestamp = .ok t := by
  simp [make, t.symbol_not_blank, t.bid_pos, t.ask_pos, t.ask_not_lt_bid, t.timestamp_pos]

def mid (t : Tick) : Double :=
  Double.midpoint t.bid t.ask

def second (t : Tick) : Int :=
  t.timestamp / 1000

end Tick

end Candlestick
