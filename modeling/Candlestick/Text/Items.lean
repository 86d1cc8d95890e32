import Candlestick.Text.Blank

/-!
# Lists in one text

A list may be written in one text, with commas between its items. Blanks around an item do not
count, and items of which nothing is left are passed over.
-/

namespace Candlestick.Text

/-- The parts of a list between the occurrences of a character; there is always one. -/
def splitList (separator : Char) : List Char → List (List Char)
  | [] => [[]]
  | c :: rest =>
    match splitList separator rest with
    | [] => [[c]]
    | part :: parts => if c = separator then [] :: part :: parts else (c :: part) :: parts

/-- The items of a list that is written in one text. -/
def items (text : String) : List String :=
  ((splitList ',' text.toList).map fun part ↦ String.ofList (trimList isBlank part)).filter
    (· ≠ "")

theorem ne_empty_of_mem_items {text item : String} (h : item ∈ items text) : item ≠ "" := by
  simpa using (List.mem_filter.1 h).2

end Candlestick.Text
