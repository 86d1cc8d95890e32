/-!
# Blank characters

Two sets of blanks are in use. `isBlank` is the wider one, by which symbols and the items of
lists are trimmed: besides the characters that Unicode counts as white space it holds the four
ASCII separators `1c` to `1f`. `isWhiteSpace` is the Unicode property itself, by which numerals
are trimmed.
-/

namespace Candlestick.Text

def isWhiteSpace (c : Char) : Bool :=
  let n := c.toNat
  (9 ≤ n && n ≤ 13) || n == 32 || n == 133 || n == 160 || n == 5760 ||
    (8192 ≤ n && n ≤ 8202) || n == 8232 || n == 8233 || n == 8239 || n == 8287 || n == 12288

/-- White space or one of the four ASCII separators. -/
def isBlank (c : Char) : Bool :=
  isWhiteSpace c || (28 ≤ c.toNat && c.toNat ≤ 31)

/-- A list without the characters of a class at either end. -/
def trimList (drop : Char → Bool) (cs : List Char) : List Char :=
  ((cs.dropWhile drop).reverse.dropWhile drop).reverse

/-- A text without the characters of a class at either end. -/
def trim (drop : Char → Bool) (text : String) : String :=
  String.ofList (trimList drop text.toList)

/-- A list of characters without the line feed that ends it. A lone line feed stays. -/
def withoutFinalBreak : List Char → List Char
  | [] => []
  | c :: rest => if rest = ['\n'] then [c] else c :: withoutFinalBreak rest

def strip (text : String) : String :=
  trim isBlank text

end Candlestick.Text
