import Candlestick.Numeral
import Candlestick.Text.Items
import Candlestick.Yaml.Token.Basic

/-!
# Numbers in documents

Whole numbers are written in base ten, in base two or sixteen behind `0b` or `0x`, in base eight
behind a zero, or in base sixty with colons between the digits. Decimal numbers may be written in
base sixty as well. Underscores do not count.
-/

namespace Candlestick.Yaml

/-- What a failed reading of a numeral says about a document. -/
def faultOfNumeral : Numeral.Error → Fault
  | .malformedInteger text => .malformedInteger 10 text
  | .malformedDecimal text => .malformedDecimal text
  | .tooManyDigits digits => .tooManyDigits digits
  | _ => .malformed

/-- Splits a sign off; the first component tells whether it is a minus. A number has to follow. -/
def signed (cs : List Char) : Except Fault (Bool × List Char) :=
  if cs.isEmpty then .error .emptyNumber else .ok (Numeral.splitSign cs)

/-- The value of a digit in any base up to sixteen. -/
def digitValue? (base : Nat) (c : Char) : Option Nat :=
  let n := c.toNat
  let value :=
    if c.isDigit then n - 48
    else if 97 ≤ n ∧ n ≤ 122 then n - 87
    else if 65 ≤ n ∧ n ≤ 90 then n - 55
    else base
  if value < base then some value else none

/-- The letters that may follow a zero to announce a base. -/
def baseLetters : Nat → List Char
  | 2 => ['b', 'B']
  | 8 => ['o', 'O']
  | 16 => ['x', 'X']
  | _ => []

def withoutBaseMark (base : Nat) : List Char → List Char
  | '0' :: letter :: rest =>
    if (baseLetters base).contains letter then rest else '0' :: letter :: rest
  | cs => cs

def integerInBase (base : Nat) (cs : List Char) : Except Fault Int :=
  let plain := (Text.trimList Text.isWhiteSpace cs).map Numeral.plainDigit
  let (negative, body) := Numeral.splitSign plain
  let body := withoutBaseMark base body
  let digits := body.filterMap (digitValue? base)
  if body.isEmpty || digits.length ≠ body.length then
    .error (.malformedInteger base (String.ofList cs))
  else
    let value : Int := ↑(digits.foldl (fun n d ↦ n * base + d) 0)
    .ok (if negative then -value else value)

def integerInTen (cs : List Char) : Except Fault Int :=
  (Numeral.integer (String.ofList cs)).mapError faultOfNumeral

/-- The whole number that a text without sign and underscores writes. -/
def integerOfBody (cs : List Char) : Except Fault Int :=
  match cs with
  | [] => .error .emptyNumber
  | ['0'] => .ok 0
  | '0' :: 'b' :: digits => integerInBase 2 digits
  | '0' :: 'x' :: digits => integerInBase 16 digits
  | '0' :: _ => integerInBase 8 cs
  | _ =>
    if cs.contains ':' then do
      let digits ← (Text.splitList ':' cs).mapM integerInTen
      return digits.foldl (fun n d ↦ n * 60 + d) 0
    else integerInTen cs

def integerOf (text : String) : Except Fault Int := do
  let (negative, body) ← signed (text.toList.filter (· != '_'))
  let n ← integerOfBody body
  return if negative then -n else n

/-- The value of digits in base sixty, lowest first, each weighed and added in turn. The first
digit has the given weight. -/
def weigh : Nat → List Double → Double → Double
  | _, [], sum => sum
  | weight, digit :: rest, sum =>
    weigh (weight * 60) rest (sum + digit * Double.ofInt weight)

def decimalInTen (cs : List Char) : Except Fault Double :=
  (Numeral.decimal (String.ofList cs)).mapError faultOfNumeral

/-- The decimal number that a text without sign and underscores writes, in lower case. -/
def decimalOfBody (cs : List Char) : Except Fault Double :=
  if cs == ".inf".toList then .ok (.infinite false)
  else if cs == ".nan".toList then .ok .nan
  else if cs.contains ':' then do
    let digits ← (Text.splitList ':' cs).mapM decimalInTen
    return weigh 1 digits.reverse Double.zero
  else decimalInTen cs

def decimalOf (text : String) : Except Fault Double := do
  let (negative, body) ← signed ((text.toList.filter (· != '_')).map Char.toLower)
  let x ← decimalOfBody body
  return if negative then -x else x

end Candlestick.Yaml
