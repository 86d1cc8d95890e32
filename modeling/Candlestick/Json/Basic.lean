import Candlestick.Double.Basic
import Candlestick.Text.Utf8

/-!
# JSON values

Whole numbers are kept apart from numbers with a fraction or an exponent. The fields of an
object are in order of first appearance and have different names.
-/

namespace Candlestick

/-- A JSON value; the non-finite numbers are admitted. -/
inductive Json where
  | null
  | bool (value : Bool)
  | int (value : Int)
  | real (value : Double)
  | text (value : String)
  | list (items : List Json)
  | object (fields : List (String × Json))
deriving Inhabited

namespace Json

/-- Adds a field; a field of that name keeps its place and takes the new value. -/
def setField (name : String) (value : Json) : List (String × Json) → List (String × Json)
  | [] => [(name, value)]
  | (other, old) :: rest =>
    if other = name then (name, value) :: rest else (other, old) :: setField name value rest

def field? (value : Json) (name : String) : Option Json :=
  match value with
  | .object fields => fields.lookup name
  | _ => none

/-- The name of the kind of a value, as messages give it. -/
def kind : Json → String
  | .null => "NoneType"
  | .bool _ => "bool"
  | .int _ => "int"
  | .real _ => "float"
  | .text _ => "str"
  | .list _ => "list"
  | .object _ => "dict"

mutual

def isFinite : Json → Bool
  | .real x => x.isFinite
  | .list items => areFinite items
  | .object fields => fieldsAreFinite fields
  | _ => true

def areFinite : List Json → Bool
  | [] => true
  | item :: rest => item.isFinite && areFinite rest

/-- Whether every number in the fields of an object is finite. -/
def fieldsAreFinite : List (String × Json) → Bool
  | [] => true
  | (_, value) :: rest => value.isFinite && fieldsAreFinite rest

end

mutual

/-- Whether every text in a value can be given as bytes, the names of fields included. -/
def isEncodable : Json → Bool
  | .text s => Text.Utf8.isEncodable s
  | .list items => areEncodable items
  | .object fields => fieldsAreEncodable fields
  | _ => true

def areEncodable : List Json → Bool
  | [] => true
  | item :: rest => item.isEncodable && areEncodable rest

def fieldsAreEncodable : List (String × Json) → Bool
  | [] => true
  | (name, value) :: rest =>
    Text.Utf8.isEncodable name && value.isEncodable && fieldsAreEncodable rest

end

end Json

end Candlestick
