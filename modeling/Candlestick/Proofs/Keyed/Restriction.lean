import Candlestick.Keyed
import Mathlib

/-!
# Parts of a keyed map

A keyed map is restricted to the keys of one kind by leaving out all others; what remains keeps
its order. Putting a value under a key of the kind can be done before or after, and putting one
under another key does not show (`restrict_put`). Nothing is lost when a value is put: either the
key is new or the old value comes out (`values_put_perm`), and putting what is there already
changes nothing (`put_self`).
-/

namespace Candlestick.Keyed

variable {κ α : Type}

theorem ext_entries {m n : Keyed κ α} (h : m.entries = n.entries) : m = n := by
  cases m
  cases n
  congr

/-- The part of a map under the keys of one kind. -/
def restrict (p : κ → Bool) (m : Keyed κ α) : Keyed κ α where
  entries := m.entries.filter fun entry ↦ p entry.1
  nodup := (List.filter_sublist.map Prod.fst).nodup m.nodup

variable [DecidableEq κ]

theorem mem_keys_iff {m : Keyed κ α} {key : κ} :
    key ∈ m.keys ↔ ∃ value, m.get? key = some value := by
  obtain ⟨entries, hnodup⟩ := m
  unfold keys get?
  dsimp only
  clear hnodup
  induction entries with
  | nil => simp [find]
  | cons entry rest ih =>
      obtain ⟨other, value⟩ := entry
      by_cases h : other = key
      · simp [find, h]
      · have h' : ¬ key = other := fun e ↦ h e.symm
        simp only [find, h, if_false, List.map_cons, List.mem_cons, h', false_or]
        exact ih

theorem get?_eq_none_iff {m : Keyed κ α} {key : κ} : m.get? key = none ↔ key ∉ m.keys := by
  rw [mem_keys_iff, Option.eq_none_iff_forall_ne_some]
  exact not_exists.symm

theorem mem_keys_put {m : Keyed κ α} {key query : κ} {value : α} :
    query ∈ (m.put key value).keys ↔ query = key ∨ query ∈ m.keys := by
  rw [keys_put]
  split
  · next hkey =>
      refine ⟨Or.inr, ?_⟩
      rintro (rfl | hquery)
      · exact hkey
      · exact hquery
  · rw [List.mem_append, List.mem_singleton, or_comm]

theorem mem_entries_iff {m : Keyed κ α} {key : κ} {value : α} :
    (key, value) ∈ m.entries ↔ m.get? key = some value := by
  obtain ⟨entries, hnodup⟩ := m
  unfold get?
  dsimp only
  induction entries with
  | nil => simp [find]
  | cons entry rest ih =>
      obtain ⟨other, old⟩ := entry
      obtain ⟨hfresh, hrest⟩ := List.nodup_cons.mp hnodup
      by_cases h : other = key
      · subst h
        have hnot : (other, value) ∉ rest := fun hmem ↦
          hfresh (List.mem_map.mpr ⟨_, hmem, rfl⟩)
        simp [find, hnot, eq_comm]
      · have h' : ¬ key = other := fun e ↦ h e.symm
        simp only [find, h, if_false, List.mem_cons, Prod.mk.injEq, h', false_and, false_or]
        exact ih hrest

theorem filter_replace (p : κ → Bool) (key : κ) (value : α) (entries : List (κ × α)) :
    (replace key value entries).filter (fun entry ↦ p entry.1) =
      if p key then replace key value (entries.filter fun entry ↦ p entry.1)
      else entries.filter fun entry ↦ p entry.1 := by
  induction entries with
  | nil => by_cases hp : p key <;> simp [replace, hp]
  | cons entry rest ih =>
      obtain ⟨other, old⟩ := entry
      by_cases h : other = key
      · subst h
        by_cases hp : p other <;> simp [replace, hp]
      · by_cases hp : p key <;> by_cases ho : p other <;> simp_all [replace]

theorem restrict_put (p : κ → Bool) (m : Keyed κ α) (key : κ) (value : α) :
    (m.put key value).restrict p =
      if p key then (m.restrict p).put key value else m.restrict p := by
  apply ext_entries
  refine (filter_replace p key value m.entries).trans ?_
  split <;> rfl

theorem get?_restrict (p : κ → Bool) (m : Keyed κ α) (key : κ) :
    (m.restrict p).get? key = if p key then m.get? key else none := by
  by_cases hp : p key
  · rw [if_pos hp]
    apply Option.ext
    intro value
    rw [← mem_entries_iff, ← mem_entries_iff]
    simp [restrict, hp]
  · rw [if_neg hp, get?_eq_none_iff]
    simp [keys, restrict, hp]

theorem replace_perm (key : κ) (value : α) (entries : List (κ × α)) :
    ((replace key value entries).map Prod.snd ++ (find key entries).toList).Perm
      (entries.map Prod.snd ++ [value]) := by
  induction entries with
  | nil => simp [replace, find]
  | cons entry rest ih =>
      obtain ⟨other, old⟩ := entry
      by_cases h : other = key
      · simp only [replace, find, h, if_true, List.map_cons, Option.toList_some]
        have hback : (rest.map Prod.snd ++ [old]).Perm (old :: rest.map Prod.snd) :=
          List.perm_append_singleton _ _
        have hforth : (value :: rest.map Prod.snd).Perm (rest.map Prod.snd ++ [value]) :=
          (List.perm_append_singleton _ _).symm
        exact (hback.cons value).trans ((List.Perm.swap old value _).trans (hforth.cons old))
      · simp only [replace, find, h, if_false, List.map_cons, List.cons_append]
        exact ih.cons _

/-- After a value has been put, the values are those from before with the new one instead of the
one found under the key. -/
theorem values_put_perm (m : Keyed κ α) (key : κ) (value : α) :
    ((m.put key value).values ++ (m.get? key).toList).Perm (m.values ++ [value]) :=
  replace_perm key value m.entries

theorem replace_of_find {key : κ} {value : α} {entries : List (κ × α)}
    (h : find key entries = some value) : replace key value entries = entries := by
  induction entries with
  | nil => cases h
  | cons entry rest ih =>
      obtain ⟨other, old⟩ := entry
      by_cases hkey : other = key
      · simp only [find, hkey, if_true, Option.some.injEq] at h
        simp [replace, hkey, h]
      · simp only [find, hkey, if_false] at h
        simp [replace, hkey, ih h]

theorem put_self {m : Keyed κ α} {key : κ} {value : α} (h : m.get? key = some value) :
    m.put key value = m :=
  ext_entries (replace_of_find h)

theorem replace_append {key : κ} {old value : α} {before after : List (κ × α)}
    (h : key ∉ before.map Prod.fst) :
    replace key value (before ++ (key, old) :: after) = before ++ (key, value) :: after := by
  induction before with
  | nil => exact if_pos rfl
  | cons entry rest ih =>
      obtain ⟨other, _⟩ := entry
      have hne : other ≠ key := (List.ne_of_not_mem_cons h).symm
      rw [List.cons_append, List.cons_append, replace, if_neg hne,
        ih (List.not_mem_of_not_mem_cons h)]

/-- A value that is put under the key of an entry stands in its place. -/
theorem entries_put {m : Keyed κ α} {key : κ} {old value : α} {before after : List (κ × α)}
    (h : m.entries = before ++ (key, old) :: after) :
    (m.put key value).entries = before ++ (key, value) :: after := by
  have hnodup := m.nodup
  rw [h, List.map_append, List.map_cons] at hnodup
  have hfresh : key ∉ before.map Prod.fst := fun hmem ↦
    (List.nodup_append.mp hnodup).2.2 key hmem key List.mem_cons_self rfl
  exact (congrArg (replace key value) h).trans (replace_append hfresh)

end Candlestick.Keyed
