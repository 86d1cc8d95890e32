import Candlestick.Text.Digit
import Candlestick.Text.Items
import Candlestick.Text.Utf8

/-!
# Query strings

The part of a web address behind the question mark: pairs of a name and a value. A plus sign
stands for a space and a percent sign with two hexadecimal digits for a byte; the bytes have to be
put together to characters. Of several values of one name the last one counts.
-/

namespace Candlestick.Http

/-- The byte of an escape, given the two characters behind the percent sign. -/
def escapedByte? (high low : Char) : Option UInt8 := do
  return UInt8.ofNat ((← Text.hexDigit? high) * 16 + (← Text.hexDigit? low))

/-- The bytes of ASCII characters in which escapes stand for bytes. A percent sign that starts no
escape stands for itself. -/
def unescapeBytes : List Char → List UInt8
  | '%' :: high :: low :: rest =>
    match escapedByte? high low with
    | some byte => byte :: unescapeBytes rest
    | none => 37 :: unescapeBytes (high :: low :: rest)
  | c :: rest => UInt8.ofNat c.toNat :: unescapeBytes rest
  | [] => []

/-- The text of characters in which escapes stand for bytes. Only runs of ASCII characters are
decoded, each on its own. -/
def unescape (cs : List Char) : List Char :=
  match cs with
  | [] => []
  | c :: rest =>
    if c.toNat < 128 then
      let run := c :: rest.takeWhile (·.toNat < 128)
      (Text.Utf8.decodeReplacing (unescapeBytes run)).toList ++
        unescape (rest.dropWhile (·.toNat < 128))
    else c :: unescape rest
termination_by cs.length
decreasing_by
  · have hrest := List.dropWhile_sublist (l := rest) fun c : Char ↦ decide (c.toNat < 128)
    have hlen := hrest.length_le
    simp only [List.length_cons]
    omega
  · simp

/-- The name or the value that is written in a query string. -/
def queryText (cs : List Char) : String :=
  String.ofList (unescape (cs.map fun c ↦ if c = '+' then ' ' else c))

/-- The pair that a part of a query string writes; a part without an equals sign is a name. -/
def queryPair (cs : List Char) : String × String :=
  (queryText (cs.takeWhile (· != '=')), queryText ((cs.dropWhile (· != '=')).drop 1))

/-- The pairs of a query string, in order. Its characters are single bytes. -/
def parseQuery (query : String) : List (String × String) :=
  let bytes := (Text.Utf8.encode query).map fun b ↦ Char.ofNat b.toNat
  ((Text.splitList '&' bytes).filter (· ≠ [])).map queryPair

def queryValue? (pairs : List (String × String)) (name : String) : Option String :=
  pairs.reverse.lookup name

end Candlestick.Http
