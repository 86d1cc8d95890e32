import Candlestick.Json.Field
import Candlestick.Json.Reader
import Candlestick.Json.Writer
import Candlestick.Tick.Basic

/-!
# Tick messages

A tick travels as a JSON object of four fields. On the way in, its numbers may be given in any
of the ways that `Json.decimal` and `Json.integer` understand; all fields are looked up and read
before any rule of a tick is checked.
-/

namespace Candlestick.Tick

/-- Why a message is no tick. -/
inductive ReadError where
  | malformed (text : String) (error : Json.ReadError)
  | notObject
  /-- A field is absent, or the value has no fields at all. -/
  | field (error : Json.FieldError)
  | numeral (error : Numeral.Error)
  | invalid (fault : Fault)

/-- Whether a value was of the wrong kind or size, rather than wrongly spelled. -/
private def isMisfit : Numeral.Error → Bool
  | .integerFrom _ | .decimalFrom _ | .infinitePart | .tooLarge => true
  | _ => false

def ReadError.message : ReadError → String
  | .malformed text (.syntaxError problem index) =>
    "Invalid tick JSON: " ++ Json.ReadError.message text (.syntaxError problem index)
  | .malformed text error => error.message text
  | .notObject => "Tick JSON must be an object"
  | .field (.missing name) => "Missing tick field: " ++ name
  | .field (.fieldless value) => "Invalid tick field: " ++ Json.fieldlessMessage value
  | .numeral error =>
    if isMisfit error then "Invalid tick field: " ++ error.message else error.message
  | .invalid fault => fault.message

def toJson (t : Tick) : Json :=
  .object [("symbol", .text t.symbol), ("bid", .real t.bid), ("ask", .real t.ask),
    ("timestamp", .int t.timestamp)]

/-- The message as far as its text goes, however many digits its numbers have. -/
def toMessage (t : Tick) : String :=
  t.toJson.write

/-- The message of a tick, if it can be written. -/
def toMessage? (t : Tick) : Except Json.WriteError String :=
  t.toJson.write?

/-- The tick whose fields a JSON value holds. A symbol that is no text counts as blank. -/
def ofJson (value : Json) : Except ReadError Tick := do
  let symbol ← (value.require "symbol").mapError .field
  let bid ← (← (value.require "bid").mapError .field).decimal.mapError .numeral
  let ask ← (← (value.require "ask").mapError .field).decimal.mapError .numeral
  let timestamp ← (← (value.require "timestamp").mapError .field).integer.mapError .numeral
  let symbol :=
    match symbol with
    | .text s => s
    | _ => ""
  (make symbol bid ask timestamp).mapError .invalid

def ofMessage (text : String) : Except ReadError Tick := do
  match ← (Json.read text).mapError (.malformed text) with
  | .object fields => ofJson (.object fields)
  | _ => .error .notObject

end Candlestick.Tick
