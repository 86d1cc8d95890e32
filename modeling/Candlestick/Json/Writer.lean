import Candlestick.Json.Basic
import Candlestick.Double.Text
import Candlestick.Numeral

/-!
# Writing JSON

Values are written on one line in ASCII: a comma and a colon are followed by a space, and every
character outside the printable ASCII ones is written as an escape, by its surrogate pair if it
needs one. Numbers between `1e-4` and `1e16` are written positionally. A value that holds a whole
number of too many digits is not written at all.
-/

namespace Candlestick.Json

/-- Numbers keep a decimal point, have at least two digits of exponent, and are spelled
`Infinity` and `NaN` where they are not finite. -/
def numberStyle : DecimalStyle where
  leastPositional := -4
  firstExponential := 16
  exponentWidth := 2
  infinity := "Infinity"
  notANumber := "NaN"

namespace Writer

def codeEscape (n : Nat) : List Char :=
  let digits := Nat.toDigits 16 n
  '\\' :: 'u' :: (List.replicate (4 - digits.length) '0' ++ digits)

def escape (c : Char) : List Char :=
  let n := c.toNat
  if c = '"' then ['\\', '"']
  else if c = '\\' then ['\\', '\\']
  else if c = '\n' then ['\\', 'n']
  else if c = '\r' then ['\\', 'r']
  else if c = '\t' then ['\\', 't']
  else if c = '\x08' then ['\\', 'b']
  else if c = '\x0c' then ['\\', 'f']
  else if 0x20 ≤ n ∧ n ≤ 0x7E then [c]
  else if n < 0x10000 then codeEscape n
  else codeEscape (0xD800 + (n - 0x10000) / 0x400) ++ codeEscape (0xDC00 + (n - 0x10000) % 0x400)

def string (text : String) : List Char :=
  '"' :: (text.toList.flatMap escape ++ ['"'])

mutual

def value : Json → List Char
  | .null => "null".toList
  | .bool true => "true".toList
  | .bool false => "false".toList
  | .int n => (toString n).toList
  | .real x => (numberStyle.text x).toList
  | .text chars => string chars
  | .list elements => '[' :: items elements
  | .object fields => '\x7b' :: members fields

def items : List Json → List Char
  | [] => [']']
  | [item] => value item ++ [']']
  | item :: rest => value item ++ ',' :: ' ' :: items rest

def members : List (String × Json) → List Char
  | [] => ['\x7d']
  | [(name, item)] => string name ++ ':' :: ' ' :: (value item ++ ['\x7d'])
  | (name, item) :: rest =>
    string name ++ ':' :: ' ' :: (value item ++ ',' :: ' ' :: members rest)

end

end Writer

/-- The text of a value, with all digits of its whole numbers. -/
def write (value : Json) : String :=
  String.ofList (Writer.value value)

mutual

/-- The number of digits of the first whole number in a value that has too many. -/
def excess? : Json → Option Nat
  | .int n =>
    let digits := (Nat.toDigits 10 n.natAbs).length
    if Numeral.digitLimit < digits then some digits else none
  | .list elements => itemsExcess? elements
  | .object fields => fieldsExcess? fields
  | _ => none

def itemsExcess? : List Json → Option Nat
  | [] => none
  | item :: rest => item.excess?.or (itemsExcess? rest)

def fieldsExcess? : List (String × Json) → Option Nat
  | [] => none
  | (_, item) :: rest => item.excess?.or (fieldsExcess? rest)

end

/-- Why a value is not written. -/
inductive WriteError where
  | tooManyDigits
deriving DecidableEq, Repr

def WriteError.message : WriteError → String
  | .tooManyDigits =>
    s!"Exceeds the limit ({Numeral.digitLimit} digits) for integer string conversion; " ++
      "use sys.set_int_max_str_digits() to increase the limit"

/-- Writes a value unless one of its whole numbers has too many digits. -/
def write? (value : Json) : Except WriteError String :=
  match value.excess? with
  | some _ => .error .tooManyDigits
  | none => .ok value.write

end Candlestick.Json
