import Candlestick.Yaml.Token.Tag

/-!
# Quoted scalars

A scalar between quotes may run over several lines. A single line break inside it counts as a
space, and of several the first does not count. In double quotes a backslash starts an escape; in
single quotes only the quote itself needs care, and is written twice.
-/

namespace Candlestick.Yaml

def escapedChar? : Char → Option Char
  | '0' => some '\x00'
  | 'a' => some '\x07'
  | 'b' => some '\x08'
  | 't' => some '\t'
  | '\t' => some '\t'
  | 'n' => some '\n'
  | 'v' => some '\x0b'
  | 'f' => some '\x0c'
  | 'r' => some '\r'
  | 'e' => some '\x1b'
  | ' ' => some ' '
  | '"' => some '"'
  | '\\' => some '\\'
  | '/' => some '/'
  | 'N' => some '\x85'
  | '_' => some '\xa0'
  | 'L' => some '\u2028'
  | 'P' => some '\u2029'
  | _ => none

/-- How many digits follow the letter of an escape that gives a number. -/
def escapeDigits? : Char → Option Nat
  | 'x' => some 2
  | 'u' => some 4
  | 'U' => some 8
  | _ => none

/-- The character with a number. Two halves of a surrogate pair are not joined. -/
def charOfNumber (n : Nat) : Except Fault Char :=
  if 0x80000000 ≤ n then .error .oversizedCharacter
  else if 0x10FFFF < n then .error .noSuchCharacter
  else if 0xD800 ≤ n ∧ n ≤ 0xDFFF then .ok (Text.Utf8.loneSurrogate n)
  else .ok (Char.ofNat n)

/-- Passes the blanks at the starts of lines and collects the line breaks, newest first. A
separator of documents must not stand here. `fuel` bounds the number of lines. -/
def scanQuotedBreaks : Nat → Cursor → List Char → Except Fault (List Char × Cursor)
  | 0, c, read => .ok (read, c)
  | fuel + 1, c, read => do
    demand !c.atSeparator
    let after := c.dropWhile fun char ↦ char == ' ' || char == '\t'
    if isBreak after.peek then
      let (taken, after) := after.lineBreak
      scanQuotedBreaks fuel after (taken ++ read)
    else return (read, after)

/-- Reads characters, newest first, up to a blank or the closing quote. `fuel` bounds their
number. -/
def scanQuotedChars (quote : Char) : Nat → Cursor → List Char → Except Fault (List Char × Cursor)
  | 0, c, read => .ok (read, c)
  | fuel + 1, c, read =>
    let char := c.peek
    if isGap char then .ok (read, c)
    else if char == '\'' && quote == '\'' && c.ahead 1 == '\'' then
      scanQuotedChars quote fuel (c.skip 2) ('\'' :: read)
    else if char == quote then .ok (read, c)
    else if char == '\\' && quote == '"' then
      let letter := c.ahead 1
      match escapedChar? letter, escapeDigits? letter with
      | some meant, _ => scanQuotedChars quote fuel (c.skip 2) (meant :: read)
      | none, some count => do
        let n ← hexNumber count (c.skip 2).rest
        scanQuotedChars quote fuel (c.skip (2 + count)) ((← charOfNumber n) :: read)
      | none, none => do
        demand (isBreak letter)
        let (read, after) ← scanQuotedBreaks c.rest.length c.next.lineBreak.2 read
        scanQuotedChars quote fuel after read
    else scanQuotedChars quote fuel c.next (char :: read)

/-- Reads the blanks inside a quoted scalar, newest first. -/
def scanQuotedBlanks (c : Cursor) (read : List Char) : Except Fault (List Char × Cursor) := do
  let (blanks, after) := c.takeWhile fun char ↦ char == ' ' || char == '\t'
  demand (after.peek != endMark)
  if isBreak after.peek then
    let (first, after) := after.lineBreak
    let (breaks, after) ← scanQuotedBreaks after.rest.length.succ after []
    if first != ['\n'] then return (breaks ++ first ++ read, after)
    else if breaks.isEmpty then return (' ' :: read, after)
    else return (breaks ++ read, after)
  else return (blanks.reverse ++ read, after)

/-- Reads a quoted scalar up to its closing quote. `fuel` bounds the number of its parts. -/
def scanQuotedParts (quote : Char) : Nat → Cursor → List Char → Except Fault (List Char × Cursor)
  | 0, _, _ => .error .malformed
  | fuel + 1, c, read => do
    let (read, after) ← scanQuotedChars quote c.rest.length.succ c read
    if after.peek == quote then return (read, after.next)
    else
      let (read, after) ← scanQuotedBlanks after read
      scanQuotedParts quote fuel after read

/-- Reads a quoted scalar. The cursor stands at its opening quote. -/
def scanQuoted (c : Cursor) : Except Fault (Token × Cursor) := do
  let (read, after) ← scanQuotedParts c.peek c.rest.length.succ c.next []
  return (.scalar (String.ofList read.reverse) false, after)

end Candlestick.Yaml
