import Candlestick.Yaml.Cursor
import Candlestick.Yaml.Token.Basic

/-!
# Plain scalars

A scalar without quotes ends before a comment, before a colon that marks a value, and in block
style at a line that is indented too little. Inside brackets it also ends at the marks that are
used there. Line breaks count as in quoted scalars.
-/

namespace Candlestick.Yaml

/-- What stands between two parts of a plain scalar. -/
structure PlainGap where
  /-- The characters that it counts as, or nothing where the scalar has to end. -/
  joins : List Char
  /-- Whether there was a line break. -/
  broken : Bool
  after : Cursor

/-- Passes spaces and collects line breaks up to a separator of documents, which ends the scalar.
`fuel` bounds the number of lines. -/
def scanPlainBreaks : Nat → Cursor → List Char → Option (List Char) × Cursor
  | 0, c, read => (some read.reverse, c)
  | fuel + 1, c, read =>
    let c := c.skipSpaces
    if isBreak c.peek then
      let (taken, after) := c.lineBreak
      if after.atSeparator then (none, after)
      else scanPlainBreaks fuel after (taken ++ read)
    else (some read.reverse, c)

/-- Reads what stands between two parts of a plain scalar. -/
def scanPlainGap (c : Cursor) : PlainGap :=
  let (spaces, c) := c.takeWhile (· == ' ')
  if isBreak c.peek then
    let (first, c) := c.lineBreak
    if c.atSeparator then ⟨[], true, c⟩
    else
      match scanPlainBreaks c.rest.length.succ c [] with
      | (none, after) => ⟨[], true, after⟩
      | (some breaks, after) =>
        if first != ['\n'] then ⟨first ++ breaks, true, after⟩
        else if breaks.isEmpty then ⟨[' '], true, after⟩
        else ⟨breaks, true, after⟩
  else ⟨spaces, false, c⟩

/-- Whether a plain scalar goes on with the first of the given characters. -/
def continuesPlain (inFlow : Bool) (char : Char) (rest : List Char) : Bool :=
  let next := rest.headD endMark
  let marksValue :=
    char == ':' && (isGap next || (inFlow && ",[]\x7b\x7d".toList.contains next))
  !(isGap char || marksValue || (inFlow && ",?[]\x7b\x7d".toList.contains char))

/-- The length of the part of a plain scalar that the given characters start with. -/
def plainLength (inFlow : Bool) : List Char → Nat
  | [] => 0
  | char :: rest => if continuesPlain inFlow char rest then plainLength inFlow rest + 1 else 0

/-- Reads the parts of a plain scalar that stand at the given column or further right. Tells also
whether a line break follows the last part. `fuel` bounds the number of parts. -/
def scanPlainParts (inFlow : Bool) (column : Int) :
    Nat → Cursor → List Char → Bool → List Char × Bool × Cursor
  | 0, c, read, broken => (read, broken, c)
  | fuel + 1, c, read, broken =>
    let length := if c.peek == '#' then 0 else plainLength inFlow c.rest
    if length = 0 then (read, broken, c)
    else
      let read := read ++ c.rest.take length
      let gap := scanPlainGap (c.skip length)
      if gap.joins.isEmpty || gap.after.peek == '#' || (!inFlow && gap.after.column < column) then
        (read, gap.broken, gap.after)
      else
        match scanPlainParts inFlow column fuel gap.after [] gap.broken with
        | ([], broken, after) => (read, broken, after)
        | (more, broken, after) => (read ++ gap.joins ++ more, broken, after)

/-- Reads a plain scalar. Tells also whether a line break follows it. -/
def scanPlain (inFlow : Bool) (column : Int) (c : Cursor) : Token × Bool × Cursor :=
  let (read, broken, after) := scanPlainParts inFlow column c.rest.length.succ c [] false
  (.scalar (String.ofList read) true, broken, after)

end Candlestick.Yaml
