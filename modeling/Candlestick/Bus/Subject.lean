import Candlestick.Text.Alphanumeric

/-!
# Subjects

The names under which ticks are published on the message bus: one subject for each symbol, and
a wildcard that stands for all of them. A symbol becomes one token of a subject, so what could
not stand in a token is replaced.
-/

namespace Candlestick.Subject

/-- Whether a character may stand in a token of a subject. -/
def isTokenChar (c : Char) : Bool :=
  Text.isAlphanumeric c || c == '-' || c == '_'

/-- The token of a symbol: an underscore stands in for each character that a token cannot hold. -/
def token (symbol : String) : String :=
  symbol.map fun c ↦ if isTokenChar c then c else '_'

/-- The subject under which the ticks of a symbol are published. -/
def ofSymbol (symbol : String) : String :=
  "ticks.raw." ++ token symbol

/-- The subject that stands for the ticks of all symbols. -/
def all : String :=
  "ticks.raw.*"

end Candlestick.Subject
