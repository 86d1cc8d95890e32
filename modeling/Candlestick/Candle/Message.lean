import Candlestick.Candle.Basic
import Candlestick.Json.Field
import Candlestick.Json.Reader
import Candlestick.Json.Writer

/-!
# Candle messages

A candle travels as a JSON object of six fields. A message without a volume has volume zero; any
other field has to be there. Fields are looked up and read one after the other, so the first
that is absent or unreadable is the one reported.
-/

namespace Candlestick.Candle

/-- Why a message is no candle. -/
inductive ReadError where
  | malformed (text : String) (error : Json.ReadError)
  /-- A field is absent, or the value has no fields at all. -/
  | field (error : Json.FieldError)
  | numeral (error : Numeral.Error)
  | invalid (fault : Fault)

def ReadError.message : ReadError → String
  | .malformed text error => error.message text
  | .field (.missing name) => Text.quoted name
  | .field (.fieldless value) => Json.fieldlessMessage value
  | .numeral error => error.message
  | .invalid fault => fault.message

def toJson (c : Candle) : Json :=
  .object [("bucket_start", .int c.bucketStart), ("open", .real c.opening), ("high", .real c.high),
    ("low", .real c.low), ("close", .real c.closing), ("volume", .int c.volume)]

/-- The message as far as its text goes, however many digits its numbers have. -/
def toMessage (c : Candle) : String :=
  c.toJson.write

/-- The message of a candle, if it can be written. -/
def toMessage? (c : Candle) : Except Json.WriteError String :=
  c.toJson.write?

private def price (value : Json) (name : String) : Except ReadError Double := do
  (← (value.require name).mapError .field).decimal.mapError .numeral

def ofJson (value : Json) : Except ReadError Candle := do
  let bucketStart ← (← (value.require "bucket_start").mapError .field).integer.mapError .numeral
  let opening ← price value "open"
  let high ← price value "high"
  let low ← price value "low"
  let closing ← price value "close"
  let volume ← ((value.field? "volume").getD (.int 0)).integer.mapError .numeral
  (make bucketStart opening high low closing volume).mapError .invalid

def ofMessage (text : String) : Except ReadError Candle := do
  ofJson (← (Json.read text).mapError (.malformed text))

end Candlestick.Candle
