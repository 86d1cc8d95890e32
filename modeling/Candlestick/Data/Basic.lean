import Candlestick.Json.Basic

/-!
# Values of unknown shape

What a settings document or a request may hold before anybody has checked it. The keys of a
mapping need not be texts; of two entries with the same key the later one counts. A `moment` is
a date or a date with a time, of which nothing but its kind is ever asked for, and likewise a
`pair`.
-/

namespace Candlestick

/-- A value that has not been checked. -/
inductive Data where
  | null
  | bool (value : Bool)
  | int (value : Int)
  | real (value : Double)
  | text (value : String)
  | bytes (value : List UInt8)
  | moment
  | pair
  | list (items : List Data)
  | bag (items : List Data)
  | mapping (entries : List (Data × Data))
deriving Inhabited

namespace Data

mutual

def ofJson : Json → Data
  | .null => .null
  | .bool b => .bool b
  | .int n => .int n
  | .real x => .real x
  | .text s => .text s
  | .list items => .list (ofItems items)
  | .object fields => .mapping (ofFields fields)

def ofItems : List Json → List Data
  | [] => []
  | item :: rest => ofJson item :: ofItems rest

def ofFields : List (String × Json) → List (Data × Data)
  | [] => []
  | (name, value) :: rest => (.text name, ofJson value) :: ofFields rest

end

def isText (name : String) : Data → Bool
  | .text s => s == name
  | _ => false

def entry? (entries : List (Data × Data)) (name : String) : Option Data :=
  (entries.reverse.find? fun (key, _) ↦ key.isText name).map Prod.snd

/-- Whether a value stands for nothing: it is null, false, zero or empty. -/
def isVoid : Data → Bool
  | .null => true
  | .bool b => !b
  | .int n => n == 0
  | .real x => decide (x.rank? = some 0)
  | .text s => s == ""
  | .bytes bs => bs.isEmpty
  | .moment => false
  | .pair => false
  | .list items => items.isEmpty
  | .bag items => items.isEmpty
  | .mapping entries => entries.isEmpty

end Data

end Candlestick
