import Candlestick.Yaml.Document.Entries
import Candlestick.Yaml.Document.Reader
import Candlestick.Yaml.Scalar.Value

/-!
# Values of documents

A document has a value if every node that belongs to it fits its tag. The nodes are checked
level by level from the outermost one, each once, and the first fault counts. The value itself is
unfolded to a given number of levels, since a node may contain itself.
-/

namespace Candlestick.Yaml

namespace Document

def mergeFuel (d : Document) : Nat :=
  d.nodes.size + 1

/-- The text that a node offers to a tag of scalars: its own, or that of the value under a default
key. `fuel` bounds the depth. -/
def scalarText (d : Document) : Nat → Nat → Except Fault String
  | 0, _ => .error .malformed
  | fuel + 1, number =>
    match d.node number with
    | .scalar _ text => .ok text
    | .mapping _ own =>
      match own.find? fun entry ↦ (d.node entry.1).tag == .defaultKey with
      | some entry => scalarText d fuel entry.2
      | none => .error .malformed
    | .sequence .. => .error .malformed

/-- The value of a node with a tag of scalars. A default key counts as a text. -/
def leaf (d : Document) (asKey : Bool) (number : Nat) : Except Fault Data := do
  let tag := (d.node number).tag
  let tag := if asKey && tag == .defaultKey then .text else tag
  scalarValue tag (← d.scalarText (d.nodes.size + 1) number)

/-- The single entry of each mapping in a list of mappings. -/
def pairsOf (d : Document) (number : Nat) : Except Fault (List (Nat × Nat)) :=
  match d.node number with
  | .sequence _ items =>
    items.mapM fun item ↦
      match d.node item with
      | .mapping _ [entry] => .ok entry
      | _ => .error .malformed
  | _ => .error .malformed

/-- The nodes that a check has come across, and the collections among them that it has not looked
into, oldest first. -/
structure Progress where
  seen : List Nat
  waiting : List Nat

/-- Comes across a node: a scalar has to fit its tag, a collection has to wait. -/
def visit (d : Document) (asKey : Bool) (p : Progress) (number : Nat) : Except Fault Progress := do
  if p.seen.contains number then return p
  if (d.node number).tag.isCollection then
    return ⟨number :: p.seen, p.waiting ++ [number]⟩
  else
    let _ ← d.leaf asKey number
    return { p with seen := number :: p.seen }

/-- Comes across an entry of a mapping, whose key must not be a collection. -/
def visitEntry (d : Document) (p : Progress) (entry : Nat × Nat) : Except Fault Progress := do
  let p ← d.visit true p entry.1
  if (d.node entry.1).tag.isCollection then throw .malformed
  d.visit false p entry.2

def lookInto (d : Document) (p : Progress) (number : Nat) : Except Fault Progress :=
  match (d.node number).tag with
  | .sequence =>
    match d.node number with
    | .sequence _ items => items.foldlM (d.visit false) p
    | _ => .error .malformed
  | .orderedMap | .pairs => do
    let pairs ← d.pairsOf number
    pairs.foldlM (fun p entry ↦ do d.visit false (← d.visit false p entry.1) entry.2) p
  | _ => do
    let entries ← d.entries d.mergeFuel number
    entries.foldlM d.visitEntry p

/-- Looks into the waiting collections one after the other. `fuel` bounds their number. -/
def lookIntoAll (d : Document) : Nat → Progress → Except Fault Unit
  | 0, _ => .ok ()
  | fuel + 1, p =>
    match p.waiting with
    | [] => .ok ()
    | number :: rest => do
      lookIntoAll d fuel (← d.lookInto { p with waiting := rest } number)

def check (d : Document) (root : Nat) : Except Fault Unit := do
  d.lookIntoAll (d.nodes.size + 1) (← d.visit false ⟨[], []⟩ root)

/-- Adds a key to a set, unless it is a text that is there. -/
def addToBag (item : Data) (items : List Data) : List Data :=
  match item with
  | .text s => if items.any (Data.isText s) then items else item :: items
  | _ => item :: items

/-- The value of a node, unfolded to a number of levels; below them collections are empty. -/
def unfold (d : Document) : Nat → Bool → Nat → Data
  | 0, _, _ => .null
  | depth + 1, asKey, number =>
    match (d.node number).tag with
    | .sequence =>
      match d.node number with
      | .sequence _ items => .list (items.map (unfold d depth false))
      | _ => .null
    | .orderedMap | .pairs =>
      .list (((d.pairsOf number).toOption.getD []).map fun _ ↦ .pair)
    | .set =>
      let entries := ((d.entries d.mergeFuel number).toOption).getD []
      .bag ((entries.map fun entry ↦ unfold d depth true entry.1).foldr addToBag [])
    | .mapping =>
      let entries := ((d.entries d.mergeFuel number).toOption).getD []
      .mapping (entries.map fun entry ↦
        (unfold d depth true entry.1, unfold d depth false entry.2))
    | _ => ((d.leaf asKey number).toOption).getD .null

/-- The value of a document, unfolded to a number of levels. An empty document stands for null. -/
def value (d : Document) (depth : Nat) : Except Fault Data :=
  match d.root with
  | none => .ok .null
  | some root => do
    d.check root
    return d.unfold depth false root

end Document

/-- The value of the document that a text writes, unfolded to a number of levels. -/
def read (depth : Nat) (text : String) : Except Fault Data := do
  (← Document.ofTokens (← Token.scan text)).value depth

end Candlestick.Yaml
