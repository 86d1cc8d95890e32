import Candlestick.Double.Rounding

/-!
# Periods

A period of a repeated activity is set in milliseconds and kept in seconds. A period of so many
milliseconds that a double cannot hold the seconds has no length in seconds.
-/

namespace Candlestick.Period

/-- The wording for a period whose seconds a double cannot hold. -/
def tooLongMessage : String :=
  "integer division result too large for a float"

def seconds? (milliseconds : Int) : Option Double :=
  let length := Double.ofRatio milliseconds 1000
  if length.isFinite then some length else none

end Candlestick.Period
