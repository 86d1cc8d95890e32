import Candlestick.Yaml.Token.Tag

/-!
# Block scalars

A scalar that is written line by line below a header. Its lines are kept as they are, or folded:
then a single line break between two lines that start with a character counts as a space. The
header may say how far the lines are indented and what becomes of the breaks at the end: by
default the last one is kept.
-/

namespace Candlestick.Yaml

/-- What becomes of the line breaks at the end of a block scalar. -/
inductive Chomping where
  | strip
  | clip
  | keep
deriving DecidableEq, Repr

/-- The chomping that a character of the header asks for. -/
def chompingOf? : Char → Option Chomping
  | '+' => some .keep
  | '-' => some .strip
  | _ => none

/-- Reads an indentation of the header: one digit other than zero. -/
def scanIncrement (c : Cursor) : Except Fault (Option Nat × Cursor) := do
  if c.peek.isDigit then
    demand (c.peek != '0')
    return (some (c.peek.toNat - 48), c.next)
  else return (none, c)

/-- Reads a header: a chomping and an indentation, each of which may be absent. -/
def scanBlockHeader (c : Cursor) : Except Fault (Chomping × Option Nat × Cursor) := do
  let (chomping, increment, after) ←
    match chompingOf? c.peek with
    | some chomping => do
      let (increment, after) ← scanIncrement c.next
      pure (chomping, increment, after)
    | none => do
      let (increment, after) ← scanIncrement c
      match increment, chompingOf? after.peek with
      | some _, some chomping => pure (chomping, increment, after.next)
      | _, _ => pure (Chomping.clip, increment, after)
  demand (isWordEnd after.peek)
  return (chomping, increment, after)

/-- Passes empty lines, collecting their breaks, up to the first character that is no blank.
Tells also the largest column that was reached on spaces. `fuel` bounds the characters. -/
def scanBlockIndentation : Nat → Cursor → List Char → Nat → List Char × Nat × Cursor
  | 0, c, read, widest => (read, widest, c)
  | fuel + 1, c, read, widest =>
    if c.peek == ' ' then scanBlockIndentation fuel c.next read (max widest (c.column + 1))
    else if isBreak c.peek then
      let (taken, after) := c.lineBreak
      scanBlockIndentation fuel after (read ++ taken) widest
    else (read, widest, c)

/-- Passes spaces up to a column. `fuel` bounds their number. -/
def skipSpacesTo (column : Nat) : Nat → Cursor → Cursor
  | 0, c => c
  | fuel + 1, c =>
    if c.column < column && c.peek == ' ' then skipSpacesTo column fuel c.next else c

/-- Passes empty lines and the indentation of the next line, collecting the breaks. `fuel`
bounds the number of lines. -/
def scanBlockBreaks (column : Nat) : Nat → Cursor → List Char → List Char × Cursor
  | 0, c, read => (read, c)
  | fuel + 1, c, read =>
    let c := skipSpacesTo column c.rest.length c
    if isBreak c.peek then
      let (taken, after) := c.lineBreak
      scanBlockBreaks column fuel after (read ++ taken)
    else (read, c)

/-- What the break behind a line counts as, ahead of further breaks and one more line. -/
def joinBlock (folded : Bool) (ended : List Char) (startsBlank nextBlank : Bool)
    (breaks : List Char) : List Char :=
  if folded && ended == ['\n'] && !startsBlank && !nextBlank then
    if breaks.isEmpty then [' '] else []
  else ended

/-- Reads the lines of a block scalar that start at a column. Gives the text, the last break, and
the breaks behind it. `breaks` are those ahead of the first line; `fuel` bounds the lines. -/
def scanBlockLines (folded : Bool) (column : Nat) :
    Nat → Cursor → List Char → List Char × List Char × List Char × Cursor
  | 0, c, breaks => ([], [], breaks, c)
  | fuel + 1, c, breaks =>
    if c.column = column && c.peek != endMark then
      let isBlankChar (char : Char) : Bool := char == ' ' || char == '\t'
      let (line, after) := c.takeWhile fun char ↦ !isLineEnd char
      let (ended, after) := after.lineBreak
      let (following, after) := scanBlockBreaks column after.rest.length.succ after []
      if after.column = column && after.peek != endMark then
        let joint := joinBlock folded ended (isBlankChar c.peek) (isBlankChar after.peek) following
        let (more, last, trailing, final) := scanBlockLines folded column fuel after following
        (breaks ++ line ++ joint ++ more, last, trailing, final)
      else (breaks ++ line, ended, following, after)
    else ([], [], breaks, c)

/-- Reads a block scalar inside a collection of the given indentation. The cursor stands at the
mark that starts it. -/
def scanBlock (indent : Int) (c : Cursor) : Except Fault (Token × Cursor) := do
  let folded := c.peek == '>'
  let (chomping, increment, after) ← scanBlockHeader c.next
  let after ← scanIgnoredLine after
  let least := (max (indent + 1) 1).toNat
  let (column, breaks, after) :=
    match increment with
    | some n =>
      let column := least + n - 1
      let (breaks, after) := scanBlockBreaks column after.rest.length.succ after []
      (column, breaks, after)
    | none =>
      let (breaks, widest, after) := scanBlockIndentation after.rest.length.succ after [] 0
      (max least widest, breaks, after)
  let (text, last, trailing, after) :=
    scanBlockLines folded column after.rest.length.succ after breaks
  let ending :=
    match chomping with
    | .strip => []
    | .clip => last
    | .keep => last ++ trailing
  return (.scalar (String.ofList (text ++ ending)) false, after)

end Candlestick.Yaml
