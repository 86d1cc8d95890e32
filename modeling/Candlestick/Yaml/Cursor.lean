/-!
# Places in a document

A cursor is the rest of a text together with the place where it starts. What is read next is
looked up by distance; behind the end of the text stands the character zero, which no document
holds. Lines end with any of five characters, of which a carriage return and the line feed that
follows it count as one.
-/

namespace Candlestick.Yaml

/-- The character that stands behind the end of a document. -/
def endMark : Char := '\x00'

def isBreak (c : Char) : Bool :=
  c == '\n' || c == '\r' || c == '\x85' || c == '\u2028' || c == '\u2029'

def isLineEnd (c : Char) : Bool :=
  c == endMark || isBreak c

def isWordEnd (c : Char) : Bool :=
  c == ' ' || isLineEnd c

def isGap (c : Char) : Bool :=
  c == '\t' || isWordEnd c

/-- ASCII letters and digits, the hyphen and the underscore. -/
def isNameChar (c : Char) : Bool :=
  c.isAlphanum || c == '-' || c == '_'

def isAllowed (c : Char) : Bool :=
  let n := c.toNat
  n == 9 || n == 10 || n == 13 || (32 ≤ n && n ≤ 126) || n == 133 || (160 ≤ n && n ≤ 0xD7FF) ||
    (0xE000 ≤ n && n ≤ 0xFFFD) || 0x10000 ≤ n

/-- The rest of a text, the number of characters before it, and its line and column. -/
structure Cursor where
  rest : List Char
  index : Nat
  line : Nat
  column : Nat

namespace Cursor

def peek (c : Cursor) : Char :=
  c.rest.headD endMark

def ahead (c : Cursor) (distance : Nat) : Char :=
  c.rest.getD distance endMark

/-- Passes one character. A byte order mark takes no column. -/
def next (c : Cursor) : Cursor :=
  match c.rest with
  | [] => c
  | char :: rest =>
    if isBreak char && !(char == '\r' && rest.head? == some '\n') then
      ⟨rest, c.index + 1, c.line + 1, 0⟩
    else if char == '\uFEFF' then ⟨rest, c.index + 1, c.line, c.column⟩
    else ⟨rest, c.index + 1, c.line, c.column + 1⟩

def skip : Nat → Cursor → Cursor
  | 0, c => c
  | count + 1, c => skip count c.next

/-- Reads as many characters of a class as there are. -/
def takeWhile (p : Char → Bool) (c : Cursor) : List Char × Cursor :=
  let taken := c.rest.takeWhile p
  (taken, c.skip taken.length)

/-- Passes as many characters of a class as there are. -/
def dropWhile (p : Char → Bool) (c : Cursor) : Cursor :=
  (c.takeWhile p).2

def skipSpaces (c : Cursor) : Cursor :=
  c.dropWhile (· == ' ')

/-- Passes a comment that starts at the cursor, if one does. -/
def skipComment (c : Cursor) : Cursor :=
  if c.peek == '#' then c.dropWhile fun char ↦ !isLineEnd char else c

/-- Reads one line break, if there is one. Two of the five characters stay what they are, the
others become a line feed. -/
def lineBreak (c : Cursor) : List Char × Cursor :=
  match c.rest with
  | '\r' :: '\n' :: _ => (['\n'], c.skip 2)
  | char :: _ =>
    if char == '\u2028' || char == '\u2029' then ([char], c.next)
    else if isBreak char then (['\n'], c.next)
    else ([], c)
  | [] => ([], c)

/-- Whether three equal characters that separate documents stand at the cursor. -/
def atMarker (mark : Char) (c : Cursor) : Bool :=
  c.rest.take 3 == [mark, mark, mark] && isGap (c.ahead 3)

/-- Whether the cursor stands before a separator of documents of either kind. -/
def atSeparator (c : Cursor) : Bool :=
  c.atMarker '-' || c.atMarker '.'

end Cursor

end Candlestick.Yaml
