import Candlestick.Text.Blank
import Candlestick.Text.Uppercase

/-!
# Symbols

A symbol names what is traded. Sources and queries spell it in many ways; its canonical form has
no blanks at either end and is in upper case.
-/

namespace Candlestick.Symbol

def normalize (symbol : String) : String :=
  Text.upper (Text.strip symbol)

/-- Whether nothing of a symbol is left when its blanks are taken away. -/
def isBlank (symbol : String) : Bool :=
  Text.strip symbol == ""

end Candlestick.Symbol
