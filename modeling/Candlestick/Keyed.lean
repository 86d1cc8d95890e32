/-!
# Keyed values

A finite map that remembers in which order its keys came in. Putting a value under a key that is
present changes the value and keeps the place. `get?_put` says what is found afterwards,
`keys_put` which keys there are.
-/

namespace Candlestick

/-- Values under different keys, oldest key first. -/
structure Keyed (κ α : Type) where
  entries : List (κ × α)
  nodup : (entries.map Prod.fst).Nodup

namespace Keyed

variable {κ α : Type}

def empty : Keyed κ α :=
  ⟨[], List.nodup_nil⟩

instance : Inhabited (Keyed κ α) := ⟨empty⟩

def keys (m : Keyed κ α) : List κ :=
  m.entries.map Prod.fst

def values (m : Keyed κ α) : List α :=
  m.entries.map Prod.snd

def size (m : Keyed κ α) : Nat :=
  m.entries.length

variable [DecidableEq κ]

def find (key : κ) : List (κ × α) → Option α
  | [] => none
  | (other, value) :: rest => if other = key then some value else find key rest

/-- The list with the value of a key changed, or with the key added at the end. -/
def replace (key : κ) (value : α) : List (κ × α) → List (κ × α)
  | [] => [(key, value)]
  | (other, old) :: rest =>
    if other = key then (key, value) :: rest else (other, old) :: replace key value rest

theorem keys_replace (key : κ) (value : α) (entries : List (κ × α)) :
    (replace key value entries).map Prod.fst =
      if key ∈ entries.map Prod.fst then entries.map Prod.fst
      else entries.map Prod.fst ++ [key] := by
  induction entries with
  | nil => simp [replace]
  | cons entry rest ih =>
    obtain ⟨other, old⟩ := entry
    by_cases h : other = key
    · simp [replace, h]
    · have h' : key ≠ other := fun e ↦ h e.symm
      simp only [replace, h, if_false, List.map_cons, ih, List.mem_cons, h', false_or]
      split <;> simp

theorem find_replace (key query : κ) (value : α) (entries : List (κ × α)) :
    find query (replace key value entries) =
      if key = query then some value else find query entries := by
  induction entries with
  | nil => simp [replace, find]
  | cons entry rest ih =>
    obtain ⟨other, old⟩ := entry
    by_cases h : other = key
    · by_cases hq : key = query
      · simp [replace, find, h, hq]
      · simp [replace, find, h, hq]
    · by_cases hq : other = query
      · subst hq
        have hne : ¬ key = other := fun e ↦ h e.symm
        simp [replace, find, h, hne]
      · simp [replace, find, h, hq, ih]

def get? (m : Keyed κ α) (key : κ) : Option α :=
  find key m.entries

def put (m : Keyed κ α) (key : κ) (value : α) : Keyed κ α where
  entries := replace key value m.entries
  nodup := by
    rw [keys_replace]
    split
    · exact m.nodup
    · next h =>
      refine List.nodup_append.2 ⟨m.nodup, by simp, ?_⟩
      intro a ha b hb
      simp only [List.mem_singleton] at hb
      exact fun e ↦ h (hb ▸ e ▸ ha)

def erase (m : Keyed κ α) (key : κ) : Keyed κ α where
  entries := m.entries.filter fun entry ↦ !decide (entry.1 = key)
  nodup := by
    have hsub : List.Sublist
        ((m.entries.filter fun entry ↦ !decide (entry.1 = key)).map Prod.fst)
        (m.entries.map Prod.fst) := List.filter_sublist.map _
    exact hsub.nodup m.nodup

@[simp] theorem get?_empty (key : κ) : (empty : Keyed κ α).get? key = none :=
  rfl

@[simp] theorem get?_put (m : Keyed κ α) (key query : κ) (value : α) :
    (m.put key value).get? query = if key = query then some value else m.get? query :=
  find_replace key query value m.entries

theorem find_filter (key query : κ) (entries : List (κ × α)) :
    find query (entries.filter fun entry ↦ !decide (entry.1 = key)) =
      if key = query then none else find query entries := by
  induction entries with
  | nil => simp [find]
  | cons entry rest ih =>
    obtain ⟨other, value⟩ := entry
    by_cases h : other = key
    · subst h
      simp only [decide_true, Bool.not_true, Bool.false_eq_true, not_false_eq_true,
        List.filter_cons_of_neg, ih, find]
      split <;> rfl
    · by_cases hq : other = query
      · subst hq
        have hne : ¬ key = other := fun e ↦ h e.symm
        simp [find, h, hne]
      · simp [find, h, hq, ih]

@[simp] theorem get?_erase (m : Keyed κ α) (key query : κ) :
    (m.erase key).get? query = if key = query then none else m.get? query :=
  find_filter key query m.entries

theorem keys_put (m : Keyed κ α) (key : κ) (value : α) :
    (m.put key value).keys = if key ∈ m.keys then m.keys else m.keys ++ [key] :=
  keys_replace key value m.entries

end Keyed

end Candlestick
