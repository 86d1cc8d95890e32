import Candlestick.Double.Arithmetic
import Candlestick.Text.Blank
import Candlestick.Text.Digit
import Candlestick.Text.Quoted

/-!
# Numerals

The numbers that a text names. White space around a numeral does not count, digits of any
script do, and a single underscore may stand between two digits. A whole number has a sign and
digits; a decimal number may also have a fraction and an exponent, or be one of the words for
infinity and for no number. Whole numbers of more than 4300 digits are refused before anything
that follows the digits is looked at.
-/

namespace Candlestick.Numeral

/-- Why a value names no number. -/
inductive Error where
  | malformedInteger (text : String)
  | malformedDecimal (text : String)
  | tooManyDigits (digits : Nat)
  | integerFrom (kind : String)
  /-- A value of the named kind is no decimal number. -/
  | decimalFrom (kind : String)
  /-- The number has no whole part because it is infinite. -/
  | infinitePart
  /-- The number has no whole part because it is not a number. -/
  | undefinedPart
  | tooLarge
deriving DecidableEq, Repr

def digitLimit : Nat := 4300

/-- How much of a quoted text a message about a whole number shows. -/
private def shownLength : Nat := 200

def excessMessage (digits : Nat) : String :=
  s!"Exceeds the limit ({digitLimit} digits) for integer string conversion: value has " ++
    s!"{digits} digits; use sys.set_int_max_str_digits() to increase the limit"

/-- The message about a text that is no whole number in a base. -/
def malformedIntegerMessage (base : Nat) (text : String) : String :=
  s!"invalid literal for int() with base {base}: " ++
    String.ofList ((Text.quoted text).toList.take shownLength)

def Error.message : Error → String
  | .malformedInteger text => malformedIntegerMessage 10 text
  | .malformedDecimal text => "could not convert string to float: " ++ Text.quoted text
  | .tooManyDigits digits => excessMessage digits
  | .integerFrom kind =>
    "int() argument must be a string, a bytes-like object or a real number, not " ++
      Text.quoted kind
  | .decimalFrom kind =>
    "float() argument must be a string or a real number, not " ++ Text.quoted kind
  | .infinitePart => "cannot convert float infinity to integer"
  | .undefinedPart => "cannot convert float NaN to integer"
  | .tooLarge => "int too large to convert to float"

/-- Digits of any script become ASCII digits; all else stays. -/
def plainDigit (c : Char) : Char :=
  if c.toNat < 128 then c
  else match Text.digitValue? c with
    | some d => Char.ofNat (48 + d)
    | none => c

def valueOf (digits : List Char) : Nat :=
  digits.foldl (fun n c ↦ n * 10 + (c.toNat - 48)) 0

/-- Splits a sign off; the first component tells whether it is a minus. -/
def splitSign : List Char → Bool × List Char
  | '-' :: rest => (true, rest)
  | '+' :: rest => (false, rest)
  | cs => (false, cs)

/-- Splits off digits, between any two of which one underscore may stand. The digits come
without the underscores. An underscore with no digit on one of its sides makes the whole run
malformed. -/
def splitDigits (cs : List Char) : Option (List Char × List Char) :=
  let run := cs.takeWhile fun c ↦ c.isDigit || c == '_'
  let rest := cs.dropWhile fun c ↦ c.isDigit || c == '_'
  let wellPlaced := (run.zip ('_' :: run)).all fun (c, before) ↦ c != '_' || before != '_'
  if wellPlaced && run.getLast? != some '_' then some (run.filter Char.isDigit, rest) else none

def integer (text : String) : Except Error Int :=
  let cs := (Text.trimList Text.isWhiteSpace text.toList).map plainDigit
  let (negative, body) := splitSign cs
  match splitDigits body with
  | none => .error (.malformedInteger text)
  | some (digits, rest) =>
    if digitLimit < digits.length then .error (.tooManyDigits digits.length)
    else if digits.isEmpty || !rest.isEmpty then .error (.malformedInteger text)
    else
      let value : Int := ↑(valueOf digits)
      .ok (if negative then -value else value)

/-- Underscores may only stand between two digits; they are then left out. -/
def withoutUnderscores (cs : List Char) : Option (List Char) :=
  let before := ' ' :: cs
  let after := cs.drop 1 ++ [' ']
  let allowed := (cs.zip (before.zip after)).all fun (c, (b, a)) ↦
    c != '_' || (b.isDigit && a.isDigit)
  if allowed then some (cs.filter (· != '_')) else none

/-- What a word stands for, given whether a minus is in front of it. -/
def special? (cs : List Char) : Option (Bool → Double) :=
  let word := String.ofList (cs.map Char.toLower)
  if word == "inf" || word == "infinity" then some Double.infinite
  else if word == "nan" then some fun _ ↦ Double.nan
  else none

/-- The exponent after a mark; without a mark it is zero. -/
def exponent? : List Char → Option Int
  | [] => some 0
  | mark :: rest =>
    let (negative, digits) := splitSign rest
    if (mark == 'e' || mark == 'E') && !digits.isEmpty && digits.all Char.isDigit then
      let value : Int := ↑(valueOf digits)
      some (if negative then -value else value)
    else none

/-- The decimal written by ASCII digits with an optional fraction and exponent, or the special
number written by a word, after an optional sign. -/
def plainDecimal? (cs : List Char) : Option Double :=
  let (negative, body) := splitSign cs
  match special? body with
  | some make => some (make negative)
  | none =>
    let whole := body.takeWhile Char.isDigit
    let afterWhole := body.dropWhile Char.isDigit
    let (fraction, rest) :=
      match afterWhole with
      | '.' :: more => (more.takeWhile Char.isDigit, more.dropWhile Char.isDigit)
      | more => ([], more)
    if whole.isEmpty && fraction.isEmpty then none
    else
      (exponent? rest).map fun power ↦
        Decimal.toDouble ⟨negative, valueOf (whole ++ fraction), power - fraction.length⟩

def decimal (text : String) : Except Error Double :=
  let cs := (Text.trimList Text.isWhiteSpace text.toList).map plainDigit
  match (withoutUnderscores cs).bind plainDecimal? with
  | some x => .ok x
  | none => .error (.malformedDecimal text)

/-- The double nearest to a whole number, if the number is not too large for one. -/
def decimalOfInt (n : Int) : Except Error Double :=
  match Double.ofInt n with
  | .infinite _ => .error .tooLarge
  | x => .ok x

def integerOfDouble : Double → Except Error Int
  | .finite negative m => .ok (Double.wholePart negative m)
  | .infinite _ => .error .infinitePart
  | .nan => .error .undefinedPart

end Candlestick.Numeral
