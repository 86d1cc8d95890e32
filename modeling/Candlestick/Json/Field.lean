import Candlestick.Json.Basic
import Candlestick.Numeral

/-!
# Fields of JSON objects

Looking up a field that has to be there, and reading a number out of a value of any kind: a
number is taken as it is, a truth value counts as zero or one, and a text has to be a numeral.
-/

namespace Candlestick.Json

/-- Why a value has no such field. -/
inductive FieldError where
  | missing (name : String)
  | fieldless (value : Json)

def fieldlessMessage : Json → String
  | .list _ => "list indices must be integers or slices, not str"
  | .text _ => "string indices must be integers, not 'str'"
  | value => Text.quoted value.kind ++ " object is not subscriptable"

def require (value : Json) (name : String) : Except FieldError Json :=
  match value with
  | .object fields =>
    match fields.lookup name with
    | some item => .ok item
    | none => .error (.missing name)
  | other => .error (.fieldless other)

def decimal : Json → Except Numeral.Error Double
  | .real x => .ok x
  | .int n => Numeral.decimalOfInt n
  | .bool b => .ok (Double.ofInt (if b then 1 else 0))
  | .text s => Numeral.decimal s
  | value => .error (.decimalFrom value.kind)

/-- A value read as a whole number; a fraction is cut off. -/
def integer : Json → Except Numeral.Error Int
  | .int n => .ok n
  | .real x => Numeral.integerOfDouble x
  | .bool b => .ok (if b then 1 else 0)
  | .text s => Numeral.integer s
  | value => .error (.integerFrom value.kind)

end Candlestick.Json
