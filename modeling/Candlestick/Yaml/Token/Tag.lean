import Candlestick.Text.Digit
import Candlestick.Text.Utf8
import Candlestick.Yaml.Cursor
import Candlestick.Yaml.Token.Basic

/-!
# Tags, anchors and directives

The parts of a document that do not carry content: names of nodes and references to them, tags,
and the lines ahead of a document.
-/

namespace Candlestick.Yaml

def demand (condition : Bool) : Except Fault Unit :=
  if condition then .ok () else .error .malformed

def scanName (c : Cursor) : Except Fault (String × Cursor) := do
  let (name, after) := c.takeWhile isNameChar
  demand !name.isEmpty
  return (String.ofList name, after)

/-- Reads the name of an anchor or an alias. The cursor stands at the mark before it. -/
def scanAnchor (c : Cursor) : Except Fault (String × Cursor) := do
  let (name, after) ← scanName c.next
  demand (isGap after.peek || "?:,]\x7d%@`".toList.contains after.peek)
  return (name, after)

/-- The number written by a fixed count of hexadecimal digits at the start of a text. -/
def hexNumber (count : Nat) (cs : List Char) : Except Fault Nat := do
  let digits := (cs.take count).filterMap Text.hexDigit?
  demand (digits.length == count)
  return digits.foldl (fun n d ↦ n * 16 + d) 0

def isTagChar (c : Char) : Bool :=
  c.isAlphanum || "-;/?:@&=+$,_.!~*'()[]".toList.contains c

/-- Reads the bytes that a row of escapes stands for. `fuel` bounds their number. -/
def scanEscapedBytes : Nat → Cursor → List UInt8 → Except Fault (List UInt8 × Cursor)
  | 0, c, read => .ok (read.reverse, c)
  | fuel + 1, c, read =>
    if c.peek == '%' then do
      let byte ← hexNumber 2 c.next.rest
      scanEscapedBytes fuel (c.skip 3) (UInt8.ofNat byte :: read)
    else .ok (read.reverse, c)

/-- Reads the characters of a tag. `fuel` bounds their number. -/
def scanTagChars : Nat → Cursor → List Char → Except Fault (List Char × Cursor)
  | 0, c, read => .ok (read.reverse, c)
  | fuel + 1, c, read =>
    if isTagChar c.peek then scanTagChars fuel c.next (c.peek :: read)
    else if c.peek == '%' then do
      let (bytes, after) ← scanEscapedBytes c.rest.length c []
      match Text.Utf8.decode? bytes with
      | some text => scanTagChars fuel after (text.toList.reverse ++ read)
      | none => .error .malformed
    else .ok (read.reverse, c)

def scanTagSuffix (c : Cursor) : Except Fault (String × Cursor) := do
  let (chars, after) ← scanTagChars (c.rest.length + 1) c []
  demand (after.index != c.index)
  return (String.ofList chars, after)

/-- Reads a handle of tags: one exclamation mark, or two with a name between them. -/
def scanHandle (c : Cursor) : Except Fault (String × Cursor) := do
  demand (c.peek == '!')
  if c.ahead 1 == ' ' then return ("!", c.next)
  let (name, after) := c.next.takeWhile isNameChar
  demand (after.peek == '!')
  return (String.ofList ('!' :: name ++ ['!']), after.next)

def scanTag (c : Cursor) : Except Fault (Token × Cursor) := do
  let (token, after) ←
    if c.ahead 1 == '<' then do
      let (suffix, after) ← scanTagSuffix (c.skip 2)
      demand (after.peek == '>')
      pure (Token.tag none suffix, after.next)
    else if isGap (c.ahead 1) then pure (Token.tag none "!", c.next)
    else do
      let word := c.next.rest.takeWhile fun char ↦ !isWordEnd char
      let (handle, inner) ← if word.contains '!' then scanHandle c else pure ("!", c.next)
      let (suffix, after) ← scanTagSuffix inner
      pure (Token.tag (some handle) suffix, after)
  demand (isWordEnd after.peek)
  return (token, after)

def scanVersionNumber (c : Cursor) : Except Fault (Nat × Cursor) := do
  let (digits, after) := c.takeWhile Char.isDigit
  demand !digits.isEmpty
  return (digits.foldl (fun n d ↦ n * 10 + (d.toNat - 48)) 0, after)

/-- Reads a version: two numbers with a point between them. Only the first one matters. -/
def scanVersion (c : Cursor) : Except Fault (Directive × Cursor) := do
  let (major, after) ← scanVersionNumber c.skipSpaces
  demand (after.peek == '.')
  let (_, after) ← scanVersionNumber after.next
  demand (isWordEnd after.peek)
  return (.version major, after)

def scanHandleMeaning (c : Cursor) : Except Fault (Directive × Cursor) := do
  let (handle, after) ← scanHandle c.skipSpaces
  demand (after.peek == ' ')
  let (meaning, after) ← scanTagSuffix after.skipSpaces
  demand (isWordEnd after.peek)
  return (.handle handle meaning, after)

/-- Passes the rest of a line, on which nothing but a comment may stand. -/
def scanIgnoredLine (c : Cursor) : Except Fault Cursor := do
  let after := c.skipSpaces.skipComment
  demand (isLineEnd after.peek)
  return after.lineBreak.2

/-- Reads a directive. The cursor stands at the percent sign. -/
def scanDirective (c : Cursor) : Except Fault (Token × Cursor) := do
  let (name, after) ← scanName c.next
  demand (isWordEnd after.peek)
  let (directive, after) ←
    if name == "YAML" then scanVersion after
    else if name == "TAG" then scanHandleMeaning after
    else pure (.unknown, after.dropWhile fun char ↦ !isLineEnd char)
  return (.directive directive, ← scanIgnoredLine after)

end Candlestick.Yaml
