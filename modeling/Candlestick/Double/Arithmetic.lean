import Candlestick.Double.Rounding

/-!
# Arithmetic on doubles

Sums, products, halves and midpoints are computed exactly on units and rounded once. The
rounding of a price to cents is likewise exact: the nearest multiple of one hundredth, ties to
even, and then the double nearest to it.
-/

namespace Candlestick

namespace Double

def signedUnits (negative : Bool) (m : Magnitude) : Int :=
  if negative then -m.units else m.units

/-- The sum. Two zeros of negative sign add up to one; any other sum of zero is positive.
Infinities of opposite sign have no sum. -/
def add : Double → Double → Double
  | .nan, _ => .nan
  | _, .nan => .nan
  | .infinite s, .infinite t => if s = t then .infinite s else .nan
  | .infinite s, .finite _ _ => .infinite s
  | .finite _ _, .infinite t => .infinite t
  | .finite s m, .finite t n =>
    let total := signedUnits s m + signedUnits t n
    if total = 0 then ofQuotient (s && t) 0 1 else ofUnits total

instance : Add Double := ⟨add⟩

/-- The difference: the sum with the second operand turned. -/
instance : Sub Double := ⟨fun a b ↦ a + -b⟩

/-- The product. Zero times infinity is not a number. -/
def mul : Double → Double → Double
  | .nan, _ => .nan
  | _, .nan => .nan
  | .infinite s, .infinite t => .infinite (s != t)
  | .infinite s, .finite t n => if n.units = 0 then .nan else .infinite (s != t)
  | .finite s m, .infinite t => if m.units = 0 then .nan else .infinite (s != t)
  | .finite s m, .finite t n => ofQuotient (s != t) (m.units * n.units) one

instance : Mul Double := ⟨mul⟩

def half : Double → Double
  | .finite s m => ofQuotient s m.units 2
  | x => x

/-- The point half way between two numbers. The sum is rounded before it is halved, so two
large numbers may have an infinite midpoint. -/
def midpoint (a b : Double) : Double :=
  half (a + b)

/-- The multiple of one hundredth nearest to a number, ties to even, as the nearest double. -/
def roundToCents : Double → Double
  | .finite s m => ofQuotient s (roundHalfEven (m.units * 100) one * one) 100
  | x => x

/-- The whole part of a finite double, towards zero. -/
def wholePart (negative : Bool) (m : Magnitude) : Int :=
  let whole : Int := ↑(m.units / one)
  if negative then -whole else whole

def isWhole (m : Magnitude) : Bool :=
  m.units % one == 0

end Double

end Candlestick
