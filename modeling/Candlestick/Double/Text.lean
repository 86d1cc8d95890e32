import Candlestick.Double.Shortest

/-!
# Writing numbers

A number is written with its shortest digits, either positionally or with a power of ten. A
`DecimalStyle` says which powers are written positionally and how the special values are
spelled; the digits themselves do not depend on it.
-/

namespace Candlestick

/-- How a number is laid out. -/
structure DecimalStyle where
  /-- The smallest power of the leading digit that is written positionally. -/
  leastPositional : Int
  /-- The smallest power of the leading digit that is written with an exponent again. -/
  firstExponential : Int
  /-- The least number of digits of an exponent. -/
  exponentWidth : Nat
  infinity : String
  notANumber : String

namespace DecimalStyle

def zeros (n : Nat) : List Char :=
  List.replicate n '0'

def withoutTrailingZeros (digits : List Char) : List Char :=
  (digits.reverse.dropWhile (· == '0')).reverse

/-- The exponent of ten with its sign, padded with zeros. -/
def exponentText (style : DecimalStyle) (power : Int) : List Char :=
  let digits := Nat.toDigits 10 power.natAbs
  let sign := if power < 0 then '-' else '+'
  'e' :: sign :: (zeros (style.exponentWidth - digits.length) ++ digits)

/-- Lays out significant digits, the first of which stands at the given power of ten. -/
def layout (style : DecimalStyle) (digits : List Char) (power : Int) : List Char :=
  if style.leastPositional ≤ power ∧ power < style.firstExponential then
    if power < 0 then
      '0' :: '.' :: (zeros (-power - 1).toNat ++ digits)
    else
      let whole := power.toNat + 1
      let fraction := digits.drop whole
      digits.take whole ++ zeros (whole - digits.length) ++
        '.' :: (if fraction.isEmpty then ['0'] else fraction)
  else
    match digits with
    | [] => style.exponentText power
    | [d] => d :: style.exponentText power
    | d :: rest => d :: '.' :: (rest ++ style.exponentText power)

/-- A decimal in the given style. Zeros at the end carry no information and are not counted
as digits. -/
def ofDecimal (style : DecimalStyle) (d : Decimal) : List Char :=
  let digits := Nat.toDigits 10 d.digits
  let power := d.exponent + (digits.length - 1 : Nat)
  style.layout (withoutTrailingZeros digits) power

def text (style : DecimalStyle) : Double → String
  | .finite negative m =>
    let sign := if negative then "-" else ""
    if m.units = 0 then sign ++ "0.0"
    else sign ++ String.ofList (style.ofDecimal (m.shortest negative))
  | .infinite negative => (if negative then "-" else "") ++ style.infinity
  | .nan => style.notANumber

end DecimalStyle

end Candlestick
