import Candlestick.Data.Basic
import Candlestick.Text.Base64
import Candlestick.Yaml.Scalar.Number
import Candlestick.Yaml.Tag

/-!
# Values of scalars

What a scalar stands for under its tag. A tag that was given explicitly may not fit the text.
-/

namespace Candlestick.Yaml

def booleanOf (text : String) : Except Fault Bool :=
  let word := text.toLower
  match Tag.booleanWords.lookup word with
  | some value => .ok value
  | none => .error (.unknownBoolean word)

def bytesOf (text : String) : Except Fault (List UInt8) :=
  if text.toList.all fun c ↦ c.toNat < 128 then
    match Text.Base64.decode? text with
    | some bytes => .ok bytes
    | none => .error .malformed
  else .error .malformed

/-- The moment that a scalar writes. A line feed at its end does not count. -/
def momentOf (text : String) : Except Fault Data :=
  match Moment.ofText? (Text.withoutFinalBreak text.toList) with
  | none => .error .notMoment
  | some m =>
    match m.flaw? with
    | some reason => .error (.noSuchMoment reason)
    | none => .ok .moment

/-- The value of a scalar under a tag. Tags of collections and tags that nobody knows have none. -/
def scalarValue (tag : Tag) (text : String) : Except Fault Data :=
  match tag with
  | .null => .ok .null
  | .boolean => (booleanOf text).map .bool
  | .integer => (integerOf text).map .int
  | .decimal => (decimalOf text).map .real
  | .text => .ok (.text text)
  | .binary => (bytesOf text).map .bytes
  | .moment => momentOf text
  | _ => .error .malformed

end Candlestick.Yaml
