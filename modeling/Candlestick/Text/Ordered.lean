/-!
# Ordered lists of texts

Lists of different texts in ascending order of their characters.
-/

namespace Candlestick.Text

/-- Puts a text into its place in an ascending list, unless it is there. -/
def insertDistinct (text : String) : List String → List String
  | [] => [text]
  | other :: rest =>
    if text = other then other :: rest
    else if text < other then text :: other :: rest
    else other :: insertDistinct text rest

/-- The different texts of a list in ascending order. -/
def distinctAscending (texts : List String) : List String :=
  texts.foldr insertDistinct []

end Candlestick.Text
