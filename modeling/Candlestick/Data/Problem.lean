/-!
# Problems with values

What a check can find wrong with a value. Each problem has a code, by which a program tells it
from others, and a message for a reader. An issue is a problem at a place in a larger value.
-/

namespace Candlestick

/-- What is wrong with a value. -/
inductive Problem where
  | missing
  | notInteger
  | integerSpelling
  | integerSize
  /-- A whole number is wanted and the number has a fraction. -/
  | fraction
  | notFinite
  | notAbove (bound : Int)
  | notBelow (bound : Int)
  | notBoolean
  | booleanSpelling
  | notDecimal
  | decimalSpelling
  | notText
  | textEncoding
  | notList
  | notSection (name : String)
  | notObject
  | malformedJson
deriving DecidableEq, Repr

namespace Problem

def code : Problem → String
  | .missing => "missing"
  | .notInteger => "int_type"
  | .integerSpelling => "int_parsing"
  | .integerSize => "int_parsing_size"
  | .fraction => "int_from_float"
  | .notFinite => "finite_number"
  | .notAbove _ => "greater_than"
  | .notBelow _ => "less_than"
  | .notBoolean => "bool_type"
  | .booleanSpelling => "bool_parsing"
  | .notDecimal => "float_type"
  | .decimalSpelling => "float_parsing"
  | .notText => "string_type"
  | .textEncoding => "string_unicode"
  | .notList => "list_type"
  | .notSection _ => "model_type"
  | .notObject => "model_attributes_type"
  | .malformedJson => "json_invalid"

def message : Problem → String
  | .missing => "Field required"
  | .notInteger => "Input should be a valid integer"
  | .integerSpelling => "Input should be a valid integer, unable to parse string as an integer"
  | .integerSize => "Unable to parse input string as an integer, exceeded maximum size"
  | .fraction => "Input should be a valid integer, got a number with a fractional part"
  | .notFinite => "Input should be a finite number"
  | .notAbove bound => s!"Input should be greater than {bound}"
  | .notBelow bound => s!"Input should be less than {bound}"
  | .notBoolean => "Input should be a valid boolean"
  | .booleanSpelling => "Input should be a valid boolean, unable to interpret input"
  | .notDecimal => "Input should be a valid number"
  | .decimalSpelling => "Input should be a valid number, unable to parse string as a number"
  | .notText => "Input should be a valid string"
  | .textEncoding =>
    "Input should be a valid string, unable to parse raw data as a unicode string"
  | .notList => "Input should be a valid list"
  | .notSection name => "Input should be a valid dictionary or instance of " ++ name
  | .notObject => "Input should be a valid dictionary or object to extract fields from"
  | .malformedJson => "JSON decode error"

end Problem

/-- One step on the way to a part of a value. -/
inductive Step where
  | field (name : String)
  | item (index : Nat)
deriving DecidableEq, Repr

/-- A problem and the way to the part that has it. -/
structure Issue where
  path : List Step
  problem : Problem
deriving DecidableEq, Repr

def Issue.under (step : Step) (issue : Issue) : Issue :=
  { issue with path := step :: issue.path }

end Candlestick
