/-!
# Environments

The variables that a program finds when it starts. A variable that is set to nothing is still
set.
-/

namespace Candlestick

/-- The values of named variables. -/
structure Environment where
  values : List (String × String)
deriving DecidableEq, Repr

namespace Environment

def empty : Environment :=
  ⟨[]⟩

def get? (env : Environment) (name : String) : Option String :=
  env.values.lookup name

/-- What a variable says, or something else if it is absent. -/
def readOr {α : Type} (env : Environment) (name : String) (read : String → α) (otherwise : α) : α :=
  ((env.get? name).map read).getD otherwise

@[simp] theorem get?_empty (name : String) : empty.get? name = none :=
  rfl

theorem readOr_of_none {α : Type} {env : Environment} {name : String} (h : env.get? name = none)
    (read : String → α) (otherwise : α) : env.readOr name read otherwise = otherwise := by
  rw [readOr, h]
  rfl

theorem readOr_of_some {α : Type} {env : Environment} {name text : String}
    (h : env.get? name = some text) (read : String → α) (otherwise : α) :
    env.readOr name read otherwise = read text := by
  rw [readOr, h]
  rfl

theorem readOr_congr {α : Type} {env : Environment} {name : String} {read : String → α} {a b : α}
    (h : env.get? name = none → a = b) : env.readOr name read a = env.readOr name read b := by
  cases hname : env.get? name with
  | none => rw [h hname]
  | some text => rw [readOr_of_some hname, readOr_of_some hname]

/-- A variable that has been read says the same again. -/
theorem readOr_again {α : Type} {env : Environment} {name : String} {read : String → α} {a b : α}
    (h : env.readOr name read a = b) : env.readOr name read b = b := by
  cases hname : env.get? name with
  | none => exact readOr_of_none hname read b
  | some text =>
    rw [readOr_of_some hname] at h ⊢
    exact h

theorem map_readOr {α β : Type} (env : Environment) (name : String) (f : α → β)
    (read : String → α) (otherwise : α) :
    f (env.readOr name read otherwise) =
      env.readOr name (fun text ↦ f (read text)) (f otherwise) := by
  cases h : env.get? name with
  | none => rw [readOr_of_none h, readOr_of_none h]
  | some text => rw [readOr_of_some h, readOr_of_some h]

end Environment

end Candlestick
