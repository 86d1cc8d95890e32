import Candlestick.Yaml.Tag

/-!
# Documents as graphs

The content of a document is a graph: nodes refer to one another by number, and an alias is a
further reference to a node that has a name. So a node may contain itself.
-/

namespace Candlestick.Yaml

/-- A node. The parts of a collection are the numbers of nodes. -/
inductive Node where
  | scalar (tag : Tag) (text : String)
  | sequence (tag : Tag) (items : List Nat)
  | mapping (tag : Tag) (entries : List (Nat × Nat))
deriving DecidableEq, Repr

def Node.tag : Node → Tag
  | .scalar tag _ => tag
  | .sequence tag _ => tag
  | .mapping tag _ => tag

/-- A document: its nodes, and the number of the outermost one. An empty document has none. -/
structure Document where
  nodes : Array Node
  root : Option Nat
deriving DecidableEq, Repr

namespace Document

/-- The node that stands in for a number without a node. -/
def blank : Node :=
  .scalar .null ""

def node (d : Document) (number : Nat) : Node :=
  d.nodes.getD number blank

end Document

end Candlestick.Yaml
