import Candlestick.Data.Basic
import Candlestick.Data.Problem
import Candlestick.Numeral
import Candlestick.Text.Utf8

/-!
# Single values

Reading a number, a truth value or a text from a value of unknown shape. Numbers and truth
values may be spelled out, and stand in for one another where nothing is lost.
-/

namespace Candlestick.Data

/-- Whole numbers written as fractions have to lie strictly between this bound and its negative. -/
private def fractionBound : Int :=
  0x8000000000000000

/-- Leaves a plus sign out; a minus sign must not follow it. -/
def withoutPlus : List Char → Option (List Char)
  | '+' :: '-' :: _ => none
  | '+' :: rest => some rest
  | cs => some cs

/-- The text from its first digit that is not zero, given the character before. Ahead of it only
zeros and underscores are passed over. A point keeps the character before it, and so does the
end of the text. -/
def fromFirstDigit (before : Char) : List Char → Option (List Char)
  | [] => some [before]
  | c :: rest =>
    if c = '0' ∨ c = '_' then fromFirstDigit c rest
    else if c.isDigit then some (c :: rest)
    else if c = '.' then some (before :: c :: rest)
    else none

/-- Leaves leading zeros out. A text that starts with neither a digit nor a minus sign spells no
number. -/
def withoutLeadingZeros : List Char → Option (List Char)
  | [] => none
  | c :: rest =>
    if c = '0' then fromFirstDigit c rest
    else if c = '-' ∨ c.isDigit then some (c :: rest)
    else none

/-- Leaves a point out that is followed by zeros only. -/
def withoutZeroFraction (cs : List Char) : List Char :=
  match cs.dropWhile (· != '.') with
  | '.' :: '0' :: zeros => if zeros.all (· == '0') then cs.takeWhile (· != '.') else cs
  | _ => cs

/-- Leaves underscores out. None may stand at an end or beside another one. -/
def withoutInnerUnderscores (cs : List Char) : Option (List Char) :=
  let doubled := (cs.zip (cs.drop 1)).any fun (c, next) ↦ c == '_' && next == '_'
  if cs.head? == some '_' || cs.getLast? == some '_' || doubled then none
  else some (cs.filter (· != '_'))

/-- The whole number that bare digits with an optional minus sign write. -/
def bareInteger (cs : List Char) : Except Problem Int :=
  let (negative, body) :=
    match cs with
    | '-' :: rest => (true, rest)
    | _ => (false, cs)
  let digits := body.takeWhile Char.isDigit
  let zeroFirst := digits.head? == some '0'
  if zeroFirst && digits.length ≠ 1 then .error .integerSpelling
  else if Numeral.digitLimit < digits.length then .error .integerSize
  else if digits.isEmpty || digits.length ≠ body.length then .error .integerSpelling
  else
    let value : Int := ↑(Numeral.valueOf digits)
    .ok (if negative then -value else value)

/-- The whole number that a text spells. White space around it, a plus sign, leading zeros, a
fraction of zeros and single underscores do not count. -/
def integerOfText (text : String) : Except Problem Int :=
  let cleaned := do
    let cs ← withoutPlus (Text.trimList Text.isWhiteSpace text.toList)
    withoutInnerUnderscores (withoutZeroFraction (← withoutLeadingZeros cs))
  match cleaned with
  | none => .error .integerSpelling
  | some cs => bareInteger cs

/-- A whole number. A number with a fraction of zero counts as one. -/
def integer : Data → Except Problem Int
  | .int n => .ok n
  | .bool b => .ok (if b then 1 else 0)
  | .real (.finite negative m) =>
    if Double.isWhole m then
      let n := Double.wholePart negative m
      if -fractionBound < n ∧ n < fractionBound then .ok n else .error .integerSize
    else .error .fraction
  | .real _ => .error .notFinite
  | .text s => integerOfText s
  | .bytes bs =>
    match Text.Utf8.decode? bs with
    | some s => integerOfText s
    | none => .error .integerSpelling
  | _ => .error .notInteger

def yesWords : List String :=
  ["1", "t", "true", "on", "y", "yes"]

def noWords : List String :=
  ["0", "f", "false", "off", "n", "no"]

def booleanOfText (text : String) : Except Problem Bool :=
  let word := text.toLower
  if yesWords.contains word then .ok true
  else if noWords.contains word then .ok false
  else .error .booleanSpelling

/-- The truth value that a whole number stands for. -/
def booleanOfInt (n : Int) : Except Problem Bool :=
  if n = 0 then .ok false else if n = 1 then .ok true else .error .booleanSpelling

def boolean : Data → Except Problem Bool
  | .bool b => .ok b
  | .int n => booleanOfInt n
  | .real (.finite negative m) =>
    let n := Double.wholePart negative m
    if Double.isWhole m ∧ -fractionBound < n ∧ n < fractionBound then booleanOfInt n
    else .error .notBoolean
  | .text s => booleanOfText s
  | .bytes bs =>
    match Text.Utf8.decode? bs with
    | some s => booleanOfText s
    | none => .error .booleanSpelling
  | _ => .error .notBoolean

/-- The number that a text spells. White space around it does not count; in a text without any,
single underscores do not count either. -/
def decimalOfText (text : String) : Except Problem Double :=
  let plain := Numeral.plainDecimal? (Text.trimList Text.isWhiteSpace text.toList)
  let joined := (withoutInnerUnderscores text.toList).bind Numeral.plainDecimal?
  match plain.or joined with
  | some x => .ok x
  | none => .error .decimalSpelling

/-- A number. A whole number that is too large for a double is none. -/
def decimal : Data → Except Problem Double
  | .real x => .ok x
  | .int n =>
    match Numeral.decimalOfInt n with
    | .ok x => .ok x
    | .error _ => .error .notDecimal
  | .bool b => .ok (.ofInt (if b then 1 else 0))
  | .text s => decimalOfText s
  | .bytes bs =>
    match Text.Utf8.decode? bs with
    | some s => decimalOfText s
    | none => .error .decimalSpelling
  | _ => .error .notDecimal

def string : Data → Except Problem String
  | .text s => .ok s
  | .bytes bs =>
    match Text.Utf8.decode? bs with
    | some s => .ok s
    | none => .error .textEncoding
  | _ => .error .notText

end Candlestick.Data
