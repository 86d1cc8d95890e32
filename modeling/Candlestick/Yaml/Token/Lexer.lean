import Candlestick.Yaml.Token.Block
import Candlestick.Yaml.Token.Plain
import Candlestick.Yaml.Token.Quoted

/-!
# Cutting a document into tokens

The lexer goes through a document once. In block style it keeps a stack of indentations and adds
tokens where a collection starts or ends. A node that may turn out to be a key is remembered;
when the colon behind it comes, the tokens of the key are put in ahead of the node. A key has to
end on the line it starts on and within 1024 characters.
-/

namespace Candlestick.Yaml

/-- A node that may turn out to be a key: how many tokens are ahead of it, whether it has to be a
key, and where it starts. -/
structure KeyCandidate where
  tokensAhead : Nat
  required : Bool
  index : Nat
  line : Nat
  column : Nat

/-- The state of the lexer. The tokens are newest first, and candidates are kept by the number of
brackets around them. -/
structure Lexer where
  cursor : Cursor
  tokens : List Token
  depth : Nat
  indent : Int
  indents : List Int
  keyAllowed : Bool
  candidates : List (Nat × KeyCandidate)

namespace Lexer

/-- The longest distance from the start of a key to its colon. -/
def keyReach : Nat := 1024

def start (text : List Char) : Lexer :=
  ⟨⟨text, 0, 0, 0⟩, [], 0, -1, [], true, []⟩

def push (s : Lexer) (token : Token) : Lexer :=
  { s with tokens := token :: s.tokens }

/-- Puts a token in so that the given number of tokens is ahead of it. -/
def pushBehind (s : Lexer) (ahead : Nat) (token : Token) : Lexer :=
  { s with tokens := s.tokens.insertIdx (s.tokens.length - ahead) token }

def goto (s : Lexer) (c : Cursor) : Lexer :=
  { s with cursor := c }

def inFlow (s : Lexer) : Bool :=
  s.depth != 0

def candidate? (s : Lexer) : Option KeyCandidate :=
  s.candidates.lookup s.depth

/-- Forgets the candidate inside the innermost brackets. -/
def forget (s : Lexer) : Lexer :=
  { s with candidates := s.candidates.filter fun entry ↦ entry.1 != s.depth }

/-- Gives the candidate inside the innermost brackets up; one that has to be a key must not be
given up. -/
def dropCandidate (s : Lexer) : Except Fault Lexer := do
  demand !((s.candidate?.map KeyCandidate.required).getD false)
  return s.forget

/-- Remembers the place as the start of a candidate, if a key may start here. -/
def saveCandidate (s : Lexer) : Except Fault Lexer :=
  if s.keyAllowed then do
    let s ← s.dropCandidate
    let c := s.cursor
    let required := !s.inFlow && s.indent == (c.column : Int)
    let candidate := ⟨s.tokens.length, required, c.index, c.line, c.column⟩
    return { s with candidates := (s.depth, candidate) :: s.candidates }
  else .ok s

def isStale (s : Lexer) (candidate : KeyCandidate) : Bool :=
  candidate.line != s.cursor.line || keyReach < s.cursor.index - candidate.index

/-- Gives up all candidates that can no longer be keys. -/
def dropStale (s : Lexer) : Except Fault Lexer := do
  demand <| s.candidates.all fun (_, candidate) ↦ !(s.isStale candidate && candidate.required)
  return { s with candidates := s.candidates.filter fun (_, candidate) ↦ !s.isStale candidate }

/-- Ends collections in block style that are indented further than a column. -/
def unwind (column : Int) : List Int → Lexer → Lexer
  | [], s => s
  | outer :: rest, s =>
    if !s.inFlow && column < s.indent then
      unwind column rest { s.push .blockEnd with indent := outer, indents := rest }
    else s

/-- Ends collections in block style that are indented further than a column. -/
def unwindTo (s : Lexer) (column : Int) : Lexer :=
  unwind column s.indents s

/-- Whether a column starts a new collection in block style. -/
def opens (s : Lexer) (column : Nat) : Bool :=
  !s.inFlow && s.indent < (column : Int)

def indentTo (s : Lexer) (column : Nat) : Lexer :=
  { s with indents := s.indent :: s.indents, indent := column }

/-- Starts a collection in block style at the cursor, if it stands further right than the last. -/
def openBlock (s : Lexer) (token : Token) : Lexer :=
  if s.opens s.cursor.column then (s.indentTo s.cursor.column).push token else s

/-- Passes blanks, comments and line breaks. A key may start on a new line. `fuel` bounds the
number of lines. -/
def skipToToken : Nat → Lexer → Lexer
  | 0, s => s
  | fuel + 1, s =>
    let (taken, after) := s.cursor.skipSpaces.skipComment.lineBreak
    let s := s.goto after
    if taken.isEmpty then s
    else skipToToken fuel { s with keyAllowed := s.keyAllowed || !s.inFlow }

def separate (s : Lexer) (token : Token) (after : Cursor) : Except Fault Lexer := do
  let s ← (s.unwindTo (-1)).dropCandidate
  return { (s.push token).goto after with keyAllowed := false }

def openFlow (s : Lexer) (token : Token) : Except Fault Lexer := do
  let s ← s.saveCandidate
  return { (s.push token).goto s.cursor.next with depth := s.depth + 1, keyAllowed := true }

def closeFlow (s : Lexer) (token : Token) : Except Fault Lexer := do
  let s ← s.dropCandidate
  return { (s.push token).goto s.cursor.next with depth := s.depth - 1, keyAllowed := false }

def flowEntry (s : Lexer) : Except Fault Lexer := do
  let s ← s.dropCandidate
  return { (s.push .flowEntry).goto s.cursor.next with keyAllowed := true }

def blockEntry (s : Lexer) : Except Fault Lexer := do
  demand (s.inFlow || s.keyAllowed)
  let s ← (s.openBlock .blockSequenceStart).dropCandidate
  return { (s.push .blockEntry).goto s.cursor.next with keyAllowed := true }

def explicitKey (s : Lexer) : Except Fault Lexer := do
  demand (s.inFlow || s.keyAllowed)
  let s ← (s.openBlock .blockMappingStart).dropCandidate
  return { (s.push .key).goto s.cursor.next with keyAllowed := !s.inFlow }

/-- The mark of a value. It makes a key of the candidate, if there is one. -/
def valueMark (s : Lexer) : Except Fault Lexer := do
  match s.candidate? with
  | some candidate =>
    let s := s.forget.pushBehind candidate.tokensAhead .key
    let s :=
      if s.opens candidate.column then
        (s.indentTo candidate.column).pushBehind candidate.tokensAhead .blockMappingStart
      else s
    return { (s.push .value).goto s.cursor.next with keyAllowed := false }
  | none =>
    demand (s.inFlow || s.keyAllowed)
    let s ← (s.openBlock .blockMappingStart).dropCandidate
    return { (s.push .value).goto s.cursor.next with keyAllowed := !s.inFlow }

/-- A token that a key may start with and that no key may follow. -/
def nodePart (s : Lexer) (scan : Cursor → Except Fault (Token × Cursor)) : Except Fault Lexer := do
  let s ← s.saveCandidate
  let (token, after) ← scan s.cursor
  return { (s.push token).goto after with keyAllowed := false }

def blockScalar (s : Lexer) : Except Fault Lexer := do
  let s ← s.dropCandidate
  let (token, after) ← scanBlock s.indent s.cursor
  return { (s.push token).goto after with keyAllowed := true }

/-- A plain scalar. A key may follow it on another line. -/
def plainScalar (s : Lexer) : Except Fault Lexer := do
  let s ← s.saveCandidate
  let (token, broken, after) := scanPlain s.inFlow (s.indent + 1) s.cursor
  return { (s.push token).goto after with keyAllowed := broken }

/-- Whether a plain scalar may start at the cursor. -/
def startsPlain (s : Lexer) : Bool :=
  let char := s.cursor.peek
  let isMark := isGap char || "-?:,[]\x7b\x7d#&*!|>'\"%@`".toList.contains char
  !isMark || (!isGap (s.cursor.ahead 1) &&
    (char == '-' || (!s.inFlow && (char == '?' || char == ':'))))

def scanToken (s : Lexer) : Except Fault Lexer :=
  let c := s.cursor
  let char := c.peek
  let gapFollows := isGap (c.ahead 1)
  let atLineStart := c.column == 0
  if char == '%' && atLineStart then do
    let (token, after) ← scanDirective c
    s.separate token after
  else if atLineStart && c.atMarker '-' then s.separate .documentStart (c.skip 3)
  else if atLineStart && c.atMarker '.' then s.separate .documentEnd (c.skip 3)
  else if char == '[' then s.openFlow .flowSequenceStart
  else if char == '\x7b' then s.openFlow .flowMappingStart
  else if char == ']' then s.closeFlow .flowSequenceEnd
  else if char == '\x7d' then s.closeFlow .flowMappingEnd
  else if char == ',' then s.flowEntry
  else if char == '-' && gapFollows then s.blockEntry
  else if char == '?' && (s.inFlow || gapFollows) then s.explicitKey
  else if char == ':' && (s.inFlow || gapFollows) then s.valueMark
  else if char == '*' then
    s.nodePart fun c ↦ (scanAnchor c).map fun (name, after) ↦ (.alias name, after)
  else if char == '&' then
    s.nodePart fun c ↦ (scanAnchor c).map fun (name, after) ↦ (.anchor name, after)
  else if char == '!' then s.nodePart scanTag
  else if (char == '|' || char == '>') && !s.inFlow then s.blockScalar
  else if char == '\'' || char == '"' then s.nodePart scanQuoted
  else if s.startsPlain then s.plainScalar
  else .error .malformed

/-- Reads tokens up to the end of the document. `fuel` bounds their number. -/
def run : Nat → Lexer → Except Fault Lexer
  | 0, s => .ok s
  | fuel + 1, s => do
    let s ← (skipToToken s.cursor.rest.length.succ s).dropStale
    let s := s.unwindTo s.cursor.column
    if s.cursor.rest.isEmpty then (s.unwindTo (-1)).dropCandidate
    else run fuel (← s.scanToken)

end Lexer

/-- The tokens of a document. A byte order mark at its start does not count. -/
def Token.scan (text : String) : Except Fault (List Token) := do
  let chars := text.toList
  demand (chars.all isAllowed)
  let s := Lexer.start chars
  let s := if s.cursor.peek == '\uFEFF' then s.goto s.cursor.next else s
  let s ← s.run (chars.length + 1)
  return s.tokens.reverse

end Candlestick.Yaml
