import Candlestick.Json.Basic
import Candlestick.Numeral

/-!
# Reading JSON

A reader for JSON text with the words `NaN`, `Infinity` and `-Infinity` added. The first fault
in the text is reported with its place, counted in characters from the start and also by line
and column. Of two fields of one name the later value stands. An escaped surrogate need not be one
half of a pair.
-/

namespace Candlestick.Json

/-- What is wrong with a text. -/
inductive Problem where
  | expectingValue
  | expectingName
  | expectingColon
  | expectingComma
  | unterminatedString
  | controlCharacter
  | badEscape
  | badUnicodeEscape
  | extraData
  | byteOrderMark
deriving DecidableEq, Repr

def Problem.message : Problem → String
  | .expectingValue => "Expecting value"
  | .expectingName => "Expecting property name enclosed in double quotes"
  | .expectingColon => "Expecting ':' delimiter"
  | .expectingComma => "Expecting ',' delimiter"
  | .unterminatedString => "Unterminated string starting at"
  | .controlCharacter => "Invalid control character at"
  | .badEscape => "Invalid \\escape"
  | .badUnicodeEscape => "Invalid \\uXXXX escape"
  | .extraData => "Extra data"
  | .byteOrderMark => "Unexpected UTF-8 BOM (decode using utf-8-sig)"

/-- A text that is no JSON value: a problem at a place, or a whole number with too many digits. -/
inductive ReadError where
  | syntaxError (problem : Problem) (index : Nat)
  | tooManyDigits (digits : Nat)
deriving DecidableEq, Repr

/-- The line of a place in a text, counted from one. -/
def lineAt (text : List Char) (index : Nat) : Nat :=
  (text.take index).count '\n' + 1

/-- The column of a place in a text, counted from one. -/
def columnAt (text : List Char) (index : Nat) : Nat :=
  ((text.take index).reverse.takeWhile (· != '\n')).length + 1

/-- The wording of an error, with its place in the text it was found in. -/
def ReadError.message (text : String) : ReadError → String
  | .syntaxError problem index =>
    let line := lineAt text.toList index
    let column := columnAt text.toList index
    s!"{problem.message}: line {line} column {column} (char {index})"
  | .tooManyDigits digits => Numeral.excessMessage digits

namespace Reader

/-- The rest of a text and the number of characters before it. -/
structure Cursor where
  rest : List Char
  index : Nat

/-- A cursor that has passed `count` more characters. -/
def Cursor.advance (c : Cursor) (count : Nat) : Cursor :=
  ⟨c.rest.drop count, c.index + count⟩

def fault {α : Type} (problem : Problem) (index : Nat) : Except ReadError (α × Cursor) :=
  .error (.syntaxError problem index)

/-- The blanks that may stand between the parts of a value. -/
def isSpace (c : Char) : Bool :=
  c == ' ' || c == '\t' || c == '\n' || c == '\r'

def skipSpaces (c : Cursor) : Cursor :=
  c.advance (c.rest.takeWhile isSpace).length

/-- The number written by four hexadecimal digits at the start of a text. -/
def fourHex? (cs : List Char) : Option Nat :=
  match cs with
  | a :: b :: c :: d :: _ => do
    let high := (← Text.hexDigit? a) * 16 + (← Text.hexDigit? b)
    let low := (← Text.hexDigit? c) * 16 + (← Text.hexDigit? d)
    return high * 256 + low
  | _ => none

/-- Whether a code is the first half of a surrogate pair. -/
def isHighSurrogate (n : Nat) : Bool :=
  0xD800 ≤ n && n ≤ 0xDBFF

/-- Whether a code is the second half of a surrogate pair. -/
def isLowSurrogate (n : Nat) : Bool :=
  0xDC00 ≤ n && n ≤ 0xDFFF

def charOfCode (n : Nat) : Char :=
  if isHighSurrogate n || isLowSurrogate n then Text.Utf8.loneSurrogate n else Char.ofNat n

def shortEscape? : Char → Option Char
  | '"' => some '"'
  | '\\' => some '\\'
  | '/' => some '/'
  | 'b' => some '\x08'
  | 'f' => some '\x0c'
  | 'n' => some '\n'
  | 'r' => some '\r'
  | 't' => some '\t'
  | _ => none

/-- Reads the four digits of an escape that starts `\u`, and a second such escape if the two
make a pair. The cursor stands behind the letter `u`; at least one character has to follow the
digits. -/
def unicodeEscape (c : Cursor) : Except ReadError (Char × Cursor) :=
  if (c.rest.drop 4).isEmpty then fault .badUnicodeEscape (c.index - 1)
  else match fourHex? c.rest with
    | none => fault .badUnicodeEscape (c.index - 1)
    | some code =>
      let after := c.advance 4
      match after.rest with
      | '\\' :: 'u' :: more =>
        if isHighSurrogate code && !(more.drop 4).isEmpty then
          match fourHex? more with
          | none => fault .badUnicodeEscape (after.index + 1)
          | some second =>
            if isLowSurrogate second then
              let joined := 0x10000 + (code - 0xD800) * 0x400 + (second - 0xDC00)
              .ok (Char.ofNat joined, after.advance 6)
            else
              .ok (charOfCode code, after)
        else
          .ok (charOfCode code, after)
      | _ => .ok (charOfCode code, after)

/-- Reads the characters of a string up to the closing quote. `start` is the place of the
opening quote; `fuel` bounds the number of characters. -/
def stringBody (start : Nat) : Nat → Cursor → List Char → Except ReadError (String × Cursor)
  | 0, _, _ => fault .unterminatedString start
  | fuel + 1, c, read =>
    match c.rest with
    | [] => fault .unterminatedString start
    | '"' :: _ => .ok (String.ofList read.reverse, c.advance 1)
    | ['\\'] => fault .unterminatedString start
    | '\\' :: 'u' :: _ => do
      let (char, after) ← unicodeEscape (c.advance 2)
      stringBody start fuel after (char :: read)
    | '\\' :: mark :: _ =>
      match shortEscape? mark with
      | some char => stringBody start fuel (c.advance 2) (char :: read)
      | none => fault .badEscape c.index
    | char :: _ =>
      if char.toNat < 0x20 then fault .controlCharacter c.index
      else stringBody start fuel (c.advance 1) (char :: read)

/-- Reads a string whose opening quote stands just before the cursor. -/
def string (c : Cursor) : Except ReadError (String × Cursor) :=
  stringBody (c.index - 1) (c.rest.length + 1) c []

/-- The characters of the fraction of a number at the start of a text, with the point. -/
def fractionPart : List Char → List Char
  | '.' :: digit :: rest =>
    if digit.isDigit then '.' :: digit :: rest.takeWhile Char.isDigit else []
  | _ => []

/-- The characters of the exponent of a number at the start of a text, with the mark. -/
def exponentPart : List Char → List Char
  | mark :: rest =>
    let (sign, digits) :=
      match rest with
      | '+' :: more => (['+'], more)
      | '-' :: more => (['-'], more)
      | more => ([], more)
    let digits := digits.takeWhile Char.isDigit
    if (mark == 'e' || mark == 'E') && !digits.isEmpty then mark :: (sign ++ digits) else []
  | [] => []

/-- The characters of the whole part of a number without its sign; empty if there is none. -/
def wholePart : List Char → List Char
  | '0' :: _ => ['0']
  | cs => cs.takeWhile Char.isDigit

/-- Splits a minus sign off; the first component tells whether there is one. -/
def splitMinus : List Char → Bool × List Char
  | '-' :: rest => (true, rest)
  | cs => (false, cs)

def number (c : Cursor) : Except ReadError (Json × Cursor) :=
  let (negative, body) := splitMinus c.rest
  let whole := wholePart body
  if whole.isEmpty then fault .expectingValue c.index
  else
    let fraction := fractionPart (body.drop whole.length)
    let power := exponentPart (body.drop (whole.length + fraction.length))
    let after := c.advance ((if negative then 1 else 0) + whole.length + fraction.length +
      power.length)
    if fraction.isEmpty && power.isEmpty then
      if Numeral.digitLimit < whole.length then .error (.tooManyDigits whole.length)
      else
        let value : Int := ↑(Numeral.valueOf whole)
        .ok (.int (if negative then -value else value), after)
    else
      let written := (if negative then ['-'] else []) ++ whole ++ fraction ++ power
      .ok (.real ((Numeral.plainDecimal? written).getD .nan), after)

def words : List (List Char × Json) :=
  [("null".toList, .null), ("true".toList, .bool true), ("false".toList, .bool false),
    ("NaN".toList, .real .nan), ("Infinity".toList, .real (.infinite false)),
    ("-Infinity".toList, .real (.infinite true))]

def scalar (c : Cursor) : Except ReadError (Json × Cursor) :=
  match words.find? fun (word, _) ↦ word.isPrefixOf c.rest with
  | some (word, value) => .ok (value, c.advance word.length)
  | none => number c

mutual

/-- Reads a value that starts at the cursor. `fuel` bounds the number of values and separators. -/
def value : Nat → Cursor → Except ReadError (Json × Cursor)
  | 0, c => fault .expectingValue c.index
  | fuel + 1, c =>
    match c.rest with
    | '"' :: _ => do
      let (chars, after) ← string (c.advance 1)
      return (.text chars, after)
    | '[' :: _ =>
      let inner := skipSpaces (c.advance 1)
      match inner.rest with
      | ']' :: _ => .ok (.list [], inner.advance 1)
      | _ => items fuel inner []
    | '\x7b' :: _ =>
      let inner := skipSpaces (c.advance 1)
      match inner.rest with
      | '\x7d' :: _ => .ok (.object [], inner.advance 1)
      | _ => members fuel inner []
    | _ => scalar c

/-- Reads the items of a list from one of them up to the closing bracket. -/
def items : Nat → Cursor → List Json → Except ReadError (Json × Cursor)
  | 0, c, _ => fault .expectingValue c.index
  | fuel + 1, c, read => do
    let (item, after) ← value fuel c
    let next := skipSpaces after
    match next.rest with
    | ']' :: _ => return (.list (item :: read).reverse, next.advance 1)
    | ',' :: _ => items fuel (skipSpaces (next.advance 1)) (item :: read)
    | _ => fault .expectingComma next.index

/-- Reads the fields of an object from one of them up to the closing brace. -/
def members : Nat → Cursor → List (String × Json) → Except ReadError (Json × Cursor)
  | 0, c, _ => fault .expectingValue c.index
  | fuel + 1, c, read =>
    match c.rest with
    | '"' :: _ => do
      let (name, afterName) ← string (c.advance 1)
      let colon := skipSpaces afterName
      match colon.rest with
      | ':' :: _ =>
        let (item, after) ← value fuel (skipSpaces (colon.advance 1))
        let next := skipSpaces after
        let read := setField name item read
        match next.rest with
        | '\x7d' :: _ => return (.object read, next.advance 1)
        | ',' :: _ => members fuel (skipSpaces (next.advance 1)) read
        | _ => fault .expectingComma next.index
      | _ => fault .expectingColon colon.index
    | _ => fault .expectingName c.index

end

/-- Reads a whole text: one value with blanks around it. -/
def document (text : List Char) : Except ReadError Json := do
  let (result, after) ← value (2 * text.length + 2) (skipSpaces ⟨text, 0⟩)
  let last := skipSpaces after
  if last.rest.isEmpty then return result
  else .error (.syntaxError .extraData last.index)

end Reader

/-- Reads a text as one JSON value. A byte order mark is no part of a text. -/
def read (text : String) : Except ReadError Json :=
  match text.toList with
  | '\uFEFF' :: _ => .error (.syntaxError .byteOrderMark 0)
  | cs => Reader.document cs

end Candlestick.Json
