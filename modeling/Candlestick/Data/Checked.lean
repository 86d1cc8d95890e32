import Candlestick.Data.Problem

/-!
# Checks that find every issue

The outcome of a check is a value or the list of all issues. Checks are combined so that the
issues of every part are reported, in the order of the parts.
-/

namespace Candlestick

/-- A checked value, or the issues that stand in its way. -/
inductive Checked (α : Type) where
  | valid (value : α)
  | invalid (issues : List Issue)

namespace Checked

variable {α β : Type}

def map (f : α → β) : Checked α → Checked β
  | .valid a => .valid (f a)
  | .invalid issues => .invalid issues

/-- Applies a checked function to a checked value; the issues of both are kept. -/
def apply : Checked (α → β) → Checked α → Checked β
  | .valid f, .valid a => .valid (f a)
  | .valid _, .invalid later => .invalid later
  | .invalid issues, .valid _ => .invalid issues
  | .invalid issues, .invalid later => .invalid (issues ++ later)

instance : Applicative Checked where
  pure := .valid
  seq f a := f.apply (a ())
  map := map

def ofExcept : Except Problem α → Checked α
  | .ok a => .valid a
  | .error problem => .invalid [⟨[], problem⟩]

/-- The outcome for a part, as seen from one step further out. -/
def under (step : Step) : Checked α → Checked α
  | .valid a => .valid a
  | .invalid issues => .invalid (issues.map (Issue.under step))

/-- Checks the items of a list, the first of which has the given index. -/
def list (check : β → Checked α) : Nat → List β → Checked (List α)
  | _, [] => .valid []
  | index, item :: rest =>
    (Checked.map List.cons ((check item).under (.item index))).apply (list check (index + 1) rest)

/-- The value, or the list of all issues as an error. -/
def toExcept : Checked α → Except (List Issue) α
  | .valid a => .ok a
  | .invalid issues => .error issues

end Checked

end Candlestick
