/-!
# Double-precision numbers

A finite double is a sign and a whole number of *units*, one unit being `2 ^ (-1074)`, the
distance between the two smallest doubles. Of the whole numbers only those with at most 53
significant bits below `2 ^ 1024` occur, and `Magnitude` carries that fact, so two finite
doubles are equal exactly when they are the same number with the same sign of zero. There is
one value that is not a number.

Numbers are compared by their `rank?`, a whole number of units; both zeros have rank zero, and
`nan` has none, hence is neither below nor above anything.
-/

namespace Candlestick

/- Powers are those of natural numbers, whichever other powers are known. -/
attribute [local instance (2000)] instPowNat

namespace Double

def unitExponent : Nat := 1074

def one : Nat := 2 ^ unitExponent

/-- The number of units in `2 ^ 1024`, which no finite double reaches. -/
def ceiling : Nat := 2 ^ (1024 + unitExponent)

theorem one_pos : 0 < one :=
  Nat.two_pow_pos _

theorem ceiling_pos : 0 < ceiling :=
  Nat.two_pow_pos _

/-- The distance, in units, between neighbouring doubles from `n` units upwards. -/
def spacing (n : Nat) : Nat :=
  2 ^ (n.log2 - 52)

theorem spacing_pos (n : Nat) : 0 < spacing n :=
  Nat.two_pow_pos _

/-- A whole number of units that a double can hold. -/
def Representable (n : Nat) : Prop :=
  n < ceiling ∧ spacing n ∣ n

instance (n : Nat) : Decidable (Representable n) :=
  inferInstanceAs (Decidable (_ ∧ _))

theorem representable_zero : Representable 0 :=
  ⟨ceiling_pos, Nat.dvd_zero _⟩

/-- The absolute value of a finite double. -/
structure Magnitude where
  units : Nat
  representable : Representable units
deriving DecidableEq

end Double

/-- A double-precision number: finite with a sign, infinite with a sign, or not a number. -/
inductive Double where
  | finite (negative : Bool) (magnitude : Double.Magnitude)
  | infinite (negative : Bool)
  | nan
deriving DecidableEq

namespace Double

def zero : Double :=
  .finite false ⟨0, representable_zero⟩

instance : Inhabited Double := ⟨zero⟩

/-- The place of a number in the order, in units; infinity is placed where the finite doubles
end. -/
def rank? : Double → Option Int
  | .finite false m => some m.units
  | .finite true m => some (-m.units)
  | .infinite false => some ceiling
  | .infinite true => some (-ceiling)
  | .nan => none

/-- Compares two numbers by rank; with `nan` on either side the answer is no. -/
def compareRank (related : Int → Int → Prop) (a b : Double) : Prop :=
  match a.rank?, b.rank? with
  | some x, some y => related x y
  | _, _ => False

instance : LT Double := ⟨compareRank (· < ·)⟩

instance : LE Double := ⟨compareRank (· ≤ ·)⟩

instance (related : Int → Int → Prop) [∀ x y, Decidable (related x y)] (a b : Double) :
    Decidable (compareRank related a b) := by
  unfold compareRank
  split <;> infer_instance

instance (a b : Double) : Decidable (a < b) :=
  inferInstanceAs (Decidable (compareRank (· < ·) a b))

instance (a b : Double) : Decidable (a ≤ b) :=
  inferInstanceAs (Decidable (compareRank (· ≤ ·) a b))

theorem lt_iff {a b : Double} :
    a < b ↔ ∃ x y, a.rank? = some x ∧ b.rank? = some y ∧ x < y := by
  change compareRank (· < ·) a b ↔ _
  unfold compareRank
  cases a.rank? <;> cases b.rank? <;> simp

theorem le_iff {a b : Double} :
    a ≤ b ↔ ∃ x y, a.rank? = some x ∧ b.rank? = some y ∧ x ≤ y := by
  change compareRank (· ≤ ·) a b ↔ _
  unfold compareRank
  cases a.rank? <;> cases b.rank? <;> simp

/-- Whether the number is neither infinite nor `nan`. -/
def isFinite : Double → Bool
  | .finite _ _ => true
  | _ => false

def neg : Double → Double
  | .finite negative m => .finite (!negative) m
  | .infinite negative => .infinite (!negative)
  | .nan => .nan

instance : Neg Double := ⟨neg⟩

/-- The larger of two numbers; the first stands unless the second is above it, so a first
operand that is not a number stays. -/
def max (a b : Double) : Double :=
  if a < b then b else a

end Double

end Candlestick
