import Candlestick.Double.Rounding

/-!
# The 64-bit layout

The standard interchange layout of a double: a sign bit, eleven bits of exponent and fifty-two
of fraction. Read as a whole number without its sign bit, the layout of `u` units is `u` itself
as long as `u` has at most 53 bits; each further doubling adds one to the exponent field. It is
used where a number comes from or goes to the processor.
-/

namespace Candlestick.Double

/- Powers are those of natural numbers, whichever other powers are known. -/
attribute [local instance (2000)] instPowNat

def fractionBits : Nat := 52

/-- The exponent field of numbers that are not finite. -/
def topField : Nat := 2047

def signBit : Nat := 0x8000000000000000

/-- The layout without the sign of a number of units. -/
def fieldsOfUnits (units : Nat) : Nat :=
  let shift := units.log2 - fractionBits
  shift * 2 ^ fractionBits + units / 2 ^ shift

def toBits : Double → UInt64
  | .finite negative m => UInt64.ofNat (fieldsOfUnits m.units + (if negative then signBit else 0))
  | .infinite negative =>
    UInt64.ofNat (topField * 2 ^ fractionBits + (if negative then signBit else 0))
  | .nan => UInt64.ofNat (topField * 2 ^ fractionBits + 2 ^ (fractionBits - 1))

def ofBits (bits : UInt64) : Double :=
  let n := bits.toNat
  let negative := decide (signBit ≤ n)
  let exponent := n / 2 ^ fractionBits % (topField + 1)
  let fraction := n % 2 ^ fractionBits
  if exponent = topField then
    if fraction = 0 then .infinite negative else .nan
  else if exponent = 0 then
    ofQuotient negative fraction 1
  else
    ofQuotient negative ((2 ^ fractionBits + fraction) * 2 ^ (exponent - 1)) 1

def ofFloat (x : Float) : Double :=
  ofBits x.toBits

def toFloat (x : Double) : Float :=
  Float.ofBits x.toBits

end Candlestick.Double
