import Candlestick.Yaml.Document.Basic
import Candlestick.Yaml.Token.Lexer

/-!
# Reading documents

Tokens are put together into the graph of a document. A node gets its number when it starts, so
that an alias inside it can already refer to it. A text holds at most one document.
-/

namespace Candlestick.Yaml

namespace Reader

/-- The tokens that are left, the nodes made so far, the names of nodes, and what the handles of
tags stand for. -/
structure State where
  tokens : List Token
  nodes : Array Node
  anchors : List (String × Nat)
  handles : List (String × String)

abbrev Read := StateT State (Except Fault)

def standardHandles : List (String × String) :=
  [("!", "!"), ("!!", Tag.standardHandle)]

def refuse {α : Type} : Read α :=
  throw .malformed

def peek : Read (Option Token) :=
  return (← get).tokens.head?

def advance : Read Unit :=
  modify fun s ↦ { s with tokens := s.tokens.tail }

/-- Passes the next token if it is the given one, and tells whether it was. -/
def accept (token : Token) : Read Bool := do
  if (← peek) = some token then
    advance
    return true
  else return false

/-- Passes the next token, which has to be the given one. -/
def expect (token : Token) : Read Unit := do
  unless ← accept token do refuse

/-- Whether the next token is one of the given ones. -/
def nextIsIn (tokens : List Token) : Read Bool :=
  return ((← peek).map tokens.contains).getD false

def addNode (node : Node) : Read Nat := do
  let number := (← get).nodes.size
  modify fun s ↦ { s with nodes := s.nodes.push node }
  return number

def setNode (number : Nat) (node : Node) : Read Unit :=
  modify fun s ↦ { s with nodes := s.nodes.setIfInBounds number node }

/-- Gives a node its name, which no other node may have. -/
def name (anchor : Option String) (number : Nat) : Read Unit :=
  match anchor with
  | none => return
  | some anchor => do
    if ((← get).anchors.lookup anchor).isSome then refuse
    modify fun s ↦ { s with anchors := (anchor, number) :: s.anchors }

def emptyNode : Read Nat :=
  addNode (.scalar (Tag.ofSpelling "") "")

def fullTag (handle : Option String) (suffix : String) : Read String :=
  match handle with
  | none => return suffix
  | some handle => do
    match (← get).handles.lookup handle with
    | some meaning => return meaning ++ suffix
    | none => refuse

def anchor? : Read (Option String) := do
  match ← peek with
  | some (.anchor anchor) =>
    advance
    return some anchor
  | _ => return none

def tag? : Read (Option String) := do
  match ← peek with
  | some (.tag handle suffix) =>
    advance
    return some (← fullTag handle suffix)
  | _ => return none

/-- Reads the name and the tag of a node, in either order. -/
def properties : Read (Option String × Option String) := do
  match ← anchor? with
  | some anchor => return (some anchor, ← tag?)
  | none =>
    let tag ← tag?
    match tag with
    | some tag => return (← anchor?, some tag)
    | none => return (none, none)

/-- The tag of a collection. A lone exclamation mark asks for none in particular. -/
def collectionTag (standard : Tag) : Option String → Tag
  | none | some "!" => standard
  | some tag => .ofName tag

def scalarTag (plain : Bool) (text : String) : Option String → Tag
  | none => if plain then .ofSpelling text else .text
  | some "!" => .ofSpelling text
  | some tag => .ofName tag

mutual

/-- Reads a node. In block style it may be a collection that is laid out by indentation, and the
items of a sequence may stand right at the indentation of its key. `fuel` bounds the depth. -/
def node (block indentless : Bool) : Nat → Read Nat
  | 0 => refuse
  | fuel + 1 => do
    match ← peek with
    | some (.alias target) =>
      advance
      match (← get).anchors.lookup target with
      | some number => return number
      | none => refuse
    | _ =>
      let (anchor, tag) ← properties
      match ← peek with
      | some (.scalar text plain) =>
        advance
        let number ← addNode (.scalar (scalarTag plain text tag) text)
        name anchor number
        return number
      | some .flowSequenceStart =>
        advance
        let tag := collectionTag .sequence tag
        let number ← addNode (.sequence tag [])
        name anchor number
        setNode number (.sequence tag (← flowItems true fuel))
        return number
      | some .flowMappingStart =>
        advance
        let tag := collectionTag .mapping tag
        let number ← addNode (.mapping tag [])
        name anchor number
        setNode number (.mapping tag (← flowEntries true fuel))
        return number
      | next =>
        if indentless && next == some .blockEntry then
          let tag := collectionTag .sequence tag
          let number ← addNode (.sequence tag [])
          name anchor number
          setNode number (.sequence tag (← indentlessItems fuel))
          return number
        else if block && next == some .blockSequenceStart then
          advance
          let tag := collectionTag .sequence tag
          let number ← addNode (.sequence tag [])
          name anchor number
          setNode number (.sequence tag (← blockItems fuel))
          return number
        else if block && next == some .blockMappingStart then
          advance
          let tag := collectionTag .mapping tag
          let number ← addNode (.mapping tag [])
          name anchor number
          setNode number (.mapping tag (← blockEntries fuel))
          return number
        else if anchor.isSome || tag.isSome then
          let number ← addNode (.scalar (scalarTag (tag.isNone) "" tag) "")
          name anchor number
          return number
        else refuse

/-- Reads a node, unless one of the given tokens shows that it is not written. -/
def nodeUnless (ending : List Token) (block indentless : Bool) : Nat → Read Nat
  | 0 => refuse
  | fuel + 1 => do
    if ← nextIsIn ending then emptyNode else node block indentless fuel

def blockItems : Nat → Read (List Nat)
  | 0 => refuse
  | fuel + 1 => do
    if ← accept .blockEntry then
      let item ← nodeUnless [.blockEntry, .blockEnd] true false fuel
      return item :: (← blockItems fuel)
    else
      expect .blockEnd
      return []

/-- Reads the items of a sequence that is not indented. -/
def indentlessItems : Nat → Read (List Nat)
  | 0 => refuse
  | fuel + 1 => do
    if ← accept .blockEntry then
      let item ← nodeUnless [.blockEntry, .key, .value, .blockEnd] true false fuel
      return item :: (← indentlessItems fuel)
    else return []

def blockEntries : Nat → Read (List (Nat × Nat))
  | 0 => refuse
  | fuel + 1 => do
    if ← accept .key then
      let key ← nodeUnless [.key, .value, .blockEnd] true true fuel
      let value ←
        if ← accept .value then nodeUnless [.key, .value, .blockEnd] true true fuel
        else emptyNode
      return (key, value) :: (← blockEntries fuel)
    else
      expect .blockEnd
      return []

/-- Reads the items of a sequence between brackets. A pair of a key and a value is a mapping of
one entry. -/
def flowItems (first : Bool) : Nat → Read (List Nat)
  | 0 => refuse
  | fuel + 1 => do
    if ← accept .flowSequenceEnd then return []
    unless first do expect .flowEntry
    if ← accept .key then
      let number ← addNode (.mapping .mapping [])
      let key ← nodeUnless [.value, .flowEntry, .flowSequenceEnd] false false fuel
      let value ←
        if ← accept .value then nodeUnless [.flowEntry, .flowSequenceEnd] false false fuel
        else emptyNode
      setNode number (.mapping .mapping [(key, value)])
      return number :: (← flowItems false fuel)
    else if ← accept .flowSequenceEnd then return []
    else
      let item ← node false false fuel
      return item :: (← flowItems false fuel)

/-- Reads the entries of a mapping between braces. A node alone is a key without a value. -/
def flowEntries (first : Bool) : Nat → Read (List (Nat × Nat))
  | 0 => refuse
  | fuel + 1 => do
    if ← accept .flowMappingEnd then return []
    unless first do expect .flowEntry
    if ← accept .key then
      let key ← nodeUnless [.value, .flowEntry, .flowMappingEnd] false false fuel
      let value ←
        if ← accept .value then nodeUnless [.flowEntry, .flowMappingEnd] false false fuel
        else emptyNode
      return (key, value) :: (← flowEntries false fuel)
    else if ← accept .flowMappingEnd then return []
    else
      let key ← node false false fuel
      let value ← emptyNode
      return (key, value) :: (← flowEntries false fuel)

end

/-- Reads the directives ahead of a document. There may be one version, and it has to be a first
one; no handle may be given twice. -/
def directives (versioned : Bool) (handles : List (String × String)) :
    Nat → Read (List (String × String))
  | 0 => refuse
  | fuel + 1 => do
    match ← peek with
    | some (.directive (.version major)) =>
      advance
      if versioned || major != 1 then refuse
      directives true handles fuel
    | some (.directive (.handle handle meaning)) =>
      advance
      if (handles.lookup handle).isSome then refuse
      directives versioned ((handle, meaning) :: handles) fuel
    | some (.directive .unknown) =>
      advance
      directives versioned handles fuel
    | _ => return handles

def endMarks : Nat → Read Unit
  | 0 => return
  | fuel + 1 => do
    if ← accept .documentEnd then endMarks fuel

def isDirective : Option Token → Bool
  | some (.directive _) => true
  | _ => false

/-- Reads the outermost node of a text that is not empty. -/
def root (fuel : Nat) : Read Nat := do
  let next ← peek
  if isDirective next || next == some .documentStart then
    let handles ← directives false [] fuel
    modify fun s ↦ { s with handles := handles ++ standardHandles }
    expect .documentStart
    let next ← peek
    if isDirective next || next == none ||
        next == some .documentStart || next == some .documentEnd then
      emptyNode
    else node true false fuel
  else node true false fuel

def document (fuel : Nat) : Read (Option Nat) := do
  if (← peek).isNone then return none
  let number ← root fuel
  endMarks fuel
  unless (← peek).isNone do refuse
  return some number

end Reader

def Document.ofTokens (tokens : List Token) : Except Fault Document := do
  let fuel := 3 * tokens.length + 4
  let (root, state) ← Reader.document fuel |>.run ⟨tokens, #[], [], Reader.standardHandles⟩
  return ⟨state.nodes, root⟩

end Candlestick.Yaml
