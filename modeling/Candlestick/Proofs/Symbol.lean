import Candlestick.Proofs.Text.Uppercase

/-!
# Canonical symbols

The canonical form of a symbol is its own canonical form, and it is blank exactly if the symbol is.
Upper case can change the length of a text, but a text that neither begins nor ends with a blank
keeps that property: each of its characters has images, and those of one that is not blank are not
blank.
-/

namespace Candlestick

namespace Text

variable {drop : Char → Bool}

/-- A list that neither begins nor ends with a character of a class. -/
structure Tight (drop : Char → Bool) (cs : List Char) : Prop where
  head : ∀ c ∈ cs.head?, drop c = false
  last : ∀ c ∈ cs.getLast?, drop c = false

theorem dropWhile_eq_self {cs : List Char} (h : ∀ c ∈ cs.head?, drop c = false) :
    cs.dropWhile drop = cs := by
  cases cs with
  | nil => rfl
  | cons c rest => rw [List.dropWhile_cons_of_neg (by simpa using h c rfl)]

theorem head?_dropWhile (cs : List Char) : ∀ c ∈ (cs.dropWhile drop).head?, drop c = false := by
  intro c hc
  have hnot := List.head?_dropWhile_not drop cs
  rw [Option.mem_def.mp hc] at hnot
  simpa using hnot

theorem tight_trimList (drop : Char → Bool) (cs : List Char) : Tight drop (trimList drop cs) := by
  refine ⟨?_, ?_⟩
  · intro c hc
    -- The first character of what is left is the first one of what was left by the first cut.
    have hprefix : trimList drop cs <+: cs.dropWhile drop := by
      rw [trimList, ← List.reverse_suffix, List.reverse_reverse]
      exact List.dropWhile_suffix drop
    obtain ⟨rest, hrest⟩ := hprefix
    refine head?_dropWhile cs c ?_
    rw [← hrest, List.head?_append, Option.mem_def.mp hc]
    rfl
  · intro c hc
    rw [trimList, List.getLast?_reverse] at hc
    exact head?_dropWhile _ c hc

theorem Tight.trimList_eq_self {cs : List Char} (h : Tight drop cs) : trimList drop cs = cs := by
  have hlast : ∀ c ∈ cs.reverse.head?, drop c = false := by
    rw [List.head?_reverse]
    exact h.last
  rw [trimList, dropWhile_eq_self h.head, dropWhile_eq_self hlast, List.reverse_reverse]

theorem Tight.flatMap_ofChar {cs : List Char} (h : Tight isBlank cs) :
    Tight isBlank (cs.flatMap Uppercase.ofChar) := by
  refine ⟨?_, ?_⟩
  · intro d hd
    cases cs with
    | nil => cases hd
    | cons c rest =>
        rw [List.flatMap_cons, List.head?_append_of_ne_nil _ (Uppercase.ofChar_ne_nil c)] at hd
        exact Uppercase.isBlank_of_mem_ofChar (h.head c rfl) (List.mem_of_mem_head? hd)
  · intro d hd
    rcases List.eq_nil_or_concat cs with rfl | ⟨rest, c, rfl⟩
    · cases hd
    · rw [List.concat_eq_append, List.flatMap_append, List.flatMap_singleton,
        List.getLast?_append_of_ne_nil _ (Uppercase.ofChar_ne_nil c)] at hd
      exact Uppercase.isBlank_of_mem_ofChar (h.last c (by simp)) (List.mem_of_mem_getLast? hd)

theorem upper_eq_empty_iff (text : String) : upper text = "" ↔ text = "" := by
  constructor
  · intro h
    rw [upper, String.ofList_eq_empty_iff, List.flatMap_eq_nil_iff] at h
    rw [← String.toList_eq_nil_iff, List.eq_nil_iff_forall_not_mem]
    intro c hc
    exact Uppercase.ofChar_ne_nil c (h c hc)
  · rintro rfl
    rfl

end Text

namespace Symbol

/-- Putting a text without blanks at its ends in upper case brings none there. -/
theorem strip_normalize (symbol : String) : Text.strip (normalize symbol) = normalize symbol := by
  have htight := (Text.tight_trimList Text.isBlank symbol.toList).flatMap_ofChar
  rw [normalize, Text.upper, Text.strip, Text.trim, String.toList_ofList, Text.strip, Text.trim,
    String.toList_ofList, htight.trimList_eq_self]

/-- A canonical form is its own canonical form. -/
theorem normalize_normalize (symbol : String) :
    normalize (normalize symbol) = normalize symbol := by
  rw [normalize, strip_normalize, normalize, Text.upper_upper]

theorem isBlank_normalize (symbol : String) : isBlank (normalize symbol) = isBlank symbol := by
  have hiff : normalize symbol = "" ↔ Text.strip symbol = "" :=
    Text.upper_eq_empty_iff (Text.strip symbol)
  rw [isBlank, strip_normalize, isBlank, Bool.eq_iff_iff, beq_iff_eq, beq_iff_eq, hiff]

end Symbol

end Candlestick
