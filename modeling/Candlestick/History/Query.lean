import Candlestick.History.Basic
import Candlestick.Interval
import Candlestick.Store
import Candlestick.Symbol

/-!
# Queries for histories

A query names a symbol in any spelling, an interval by its label, and the first and the last
bucket start that are asked for. It is refused if the label is not in the catalog, if the bounds
are in the wrong order, or if the symbol is blank; of several reasons the first one counts.
-/

namespace Candlestick.History

/-- Why a query is refused. -/
inductive Refusal where
  | unsupportedInterval (label : String)
  | reversedBounds
  | blankSymbol
deriving DecidableEq, Repr

def Refusal.message : Refusal → String
  | .unsupportedInterval label =>
    "Unsupported interval: " ++ label ++ ". Supported: " ++ ", ".intercalate Interval.labels
  | .reversedBounds => "'from' must be <= 'to'"
  | .blankSymbol => "Symbol must not be blank"

/-- The history of a symbol and an interval between two bucket starts. -/
def query (s : Store) (symbol label : String) (first last : Int) : Except Refusal History :=
  if (Interval.ofLabel? label).isNone then .error (.unsupportedInterval label)
  else if last < first then .error .reversedBounds
  else if Symbol.isBlank symbol then .error .blankSymbol
  else .ok (answer (s.query (Symbol.normalize symbol) label first last))

end Candlestick.History
