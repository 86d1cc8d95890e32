import Candlestick.Yaml.Document.Basic
import Candlestick.Yaml.Token.Basic

/-!
# Merged mappings

An entry of a mapping whose key is a merge key brings in the entries of another mapping, or of a
list of mappings. Entries that are brought in come first, so that the mapping's own entries
prevail over them; of a list of mappings the first one prevails.
-/

namespace Candlestick.Yaml.Document

/-- The entries of a mapping with those that it merges. `fuel` bounds the depth of merging; a
mapping that merges itself gains nothing. -/
def entries (d : Document) : Nat → Nat → Except Fault (List (Nat × Nat))
  | 0, _ => .ok []
  | fuel + 1, number =>
    match d.node number with
    | .mapping _ own => do
      let isMerge (entry : Nat × Nat) : Bool := (d.node entry.1).tag == .mergeKey
      let merged ← (own.filter isMerge).mapM fun entry ↦
        match d.node entry.2 with
        | .mapping .. => entries d fuel entry.2
        | .sequence _ items => do return (← items.mapM (entries d fuel)).reverse.flatten
        | .scalar .. => .error .malformed
      return merged.flatten ++ own.filter fun entry ↦ !isMerge entry
    | _ => .error .malformed

end Candlestick.Yaml.Document
