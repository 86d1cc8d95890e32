import Candlestick.Double.Arithmetic
import Candlestick.Double.Bits
import Candlestick.Random.Twister

/-!
# Normally distributed numbers

Normal numbers are made in pairs from two uniform numbers, one of which gives the direction of a
point in the plane and the other its distance. The second number of a pair is kept for the next
draw. Sine, cosine, logarithm and square root are those of the processor's library.
-/

namespace Candlestick

/-- A source of uniform numbers, with a normal number that was made but not given out. -/
structure Normal where
  source : Twister
  kept : Option Double

namespace Normal

def ofSeed (seed : Int) : Normal :=
  ⟨.ofSeed seed, none⟩

/-- A uniform number from zero up to but not including one. -/
def uniform (g : Twister) : Double × Twister :=
  let (n, g) := g.next53
  (Double.ofRatio n 0x20000000000000, g)

def fullTurn : Double :=
  Decimal.toDouble ⟨false, 6283185307179586, -15⟩

/-- The two normal numbers of a direction and of a uniform number for the distance. -/
def pair (turn away : Double) : Double × Double :=
  let angle := (turn * fullTurn).toFloat
  let remaining := (Double.ofInt 1 - away).toFloat
  let distance := ((Double.ofInt (-2)) * .ofFloat remaining.log).toFloat.sqrt
  (Double.ofFloat angle.cos * .ofFloat distance, Double.ofFloat angle.sin * .ofFloat distance)

/-- The next number of mean zero and deviation one. -/
def next (n : Normal) : Double × Normal :=
  match n.kept with
  | some z => (z, { n with kept := none })
  | none =>
    let (turn, source) := uniform n.source
    let (away, source) := uniform source
    let (first, second) := pair turn away
    (first, ⟨source, some second⟩)

/-- The next number of mean zero and the given deviation. -/
def scaled (deviation : Double) (n : Normal) : Double × Normal :=
  let (z, n) := n.next
  (Double.zero + z * deviation, n)

end Normal

end Candlestick
