import Candlestick.Numeral

/-!
# Dates and times

A moment is a date, or a date with a time of day and perhaps a distance from universal time. It
has a spelling, and it may name a day or a time that does not exist.
-/

namespace Candlestick.Yaml

/-- The time of day of a moment. The zone is a distance in minutes. -/
structure Moment.Time where
  hour : Nat
  minute : Nat
  second : Nat
  zone : Option Int
deriving DecidableEq, Repr

/-- The parts of a moment as they are written. -/
structure Moment where
  year : Nat
  month : Nat
  day : Nat
  time : Option Moment.Time
deriving DecidableEq, Repr

namespace Moment

def shortNumber : List Char → Option (Nat × List Char)
  | a :: b :: rest =>
    if a.isDigit && b.isDigit then some (Numeral.valueOf [a, b], rest)
    else if a.isDigit then some (Numeral.valueOf [a], b :: rest)
    else none
  | [a] => if a.isDigit then some (Numeral.valueOf [a], []) else none
  | [] => none

def twoDigits : List Char → Option (Nat × List Char)
  | a :: b :: rest => if a.isDigit && b.isDigit then some (Numeral.valueOf [a, b], rest) else none
  | _ => none

def expect (c : Char) : List Char → Option (List Char)
  | first :: rest => if first = c then some rest else none
  | [] => none

def isBlank (c : Char) : Bool :=
  c == ' ' || c == '\t'

/-- Passes the mark between a date and a time: a letter, or blanks. -/
def afterMark : List Char → Option (List Char)
  | 'T' :: rest => some rest
  | 't' :: rest => some rest
  | cs => if (cs.head?.map isBlank).getD false then some (cs.dropWhile isBlank) else none

/-- Reads a distance from universal time up to the end of the text. -/
def zone? (cs : List Char) : Option (Option Int) :=
  if cs.isEmpty then some none
  else
    match cs.dropWhile isBlank with
    | ['Z'] => some (some 0)
    | sign :: rest => do
      guard (sign == '+' || sign == '-')
      let (hours, rest) ← shortNumber rest
      let minutes ←
        if rest.isEmpty then some 0
        else do
          let (minutes, rest) ← twoDigits (← expect ':' rest)
          guard rest.isEmpty
          some minutes
      let distance : Int := ↑(hours * 60 + minutes)
      return some (if sign == '-' then -distance else distance)
    | [] => none

def time? (cs : List Char) : Option Time := do
  let (hour, rest) ← shortNumber cs
  let (minute, rest) ← twoDigits (← expect ':' rest)
  let (second, rest) ← twoDigits (← expect ':' rest)
  let rest :=
    match rest with
    | '.' :: more => more.dropWhile Char.isDigit
    | more => more
  return ⟨hour, minute, second, ← zone? rest⟩

def ofText? (cs : List Char) : Option Moment := do
  let year := cs.take 4
  guard (year.length == 4 && year.all Char.isDigit)
  let (month, rest) ← shortNumber (← expect '-' (cs.drop 4))
  let (day, rest) ← shortNumber (← expect '-' rest)
  let time ← if rest.isEmpty then some none else (time? (← afterMark rest)).map some
  return ⟨Numeral.valueOf year, month, day, time⟩

/-- Whether a plain scalar is taken for a moment. A date alone has to be written with two digits
for the month and for the day. -/
def hasSpelling (cs : List Char) : Bool :=
  match ofText? cs with
  | none => false
  | some m => m.time.isSome || cs.length == 10

def isLeapYear (year : Nat) : Bool :=
  year % 4 == 0 && (year % 100 != 0 || year % 400 == 0)

def daysIn (year month : Nat) : Nat :=
  if month = 2 then if isLeapYear year then 29 else 28
  else if [4, 6, 9, 11].contains month then 30
  else 31

def dateFlaw? (year month day : Nat) : Option String :=
  if year = 0 then some "year 0 is out of range"
  else if month = 0 ∨ 12 < month then some "month must be in 1..12"
  else if day = 0 ∨ daysIn year month < day then some "day is out of range for month"
  else none

def dayLength : Int := 1440

def lengthText (minutes : Int) : String :=
  let days := minutes / dayLength
  let seconds := minutes % dayLength * 60
  let parts :=
    (if days = 0 then [] else [s!"days={days}"]) ++
      (if seconds = 0 then [] else [s!"seconds={seconds}"])
  "datetime.timedelta(" ++ ", ".intercalate parts ++ ")"

/-- Why a distance from universal time does not exist, if it does not. -/
def zoneFlaw? (minutes : Int) : Option String :=
  if -dayLength < minutes ∧ minutes < dayLength then none
  else some <| "offset must be a timedelta strictly between -timedelta(hours=24) and " ++
    "timedelta(hours=24), not " ++ lengthText minutes ++ "."

def flaw? (m : Moment) : Option String :=
  match m.time with
  | none => dateFlaw? m.year m.month m.day
  | some t =>
    (t.zone.bind zoneFlaw?).or <| (dateFlaw? m.year m.month m.day).or <|
      if 23 < t.hour then some "hour must be in 0..23"
      else if 59 < t.minute then some "minute must be in 0..59"
      else if 59 < t.second then some "second must be in 0..59"
      else none

end Moment

end Candlestick.Yaml
