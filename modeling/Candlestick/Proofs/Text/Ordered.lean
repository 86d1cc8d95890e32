import Candlestick.Text.Ordered
import Mathlib.Data.String.Basic

/-!
# Ordered lists hold the same texts

Sorting a list of texts keeps its members (`mem_distinctAscending`); afterwards they ascend, so
each is there once (`pairwise_distinctAscending`).
-/

namespace Candlestick.Text

theorem mem_insertDistinct {text other : String} {texts : List String} :
    other ∈ insertDistinct text texts ↔ other = text ∨ other ∈ texts := by
  induction texts with
  | nil => rw [insertDistinct, List.mem_singleton, or_iff_left List.not_mem_nil]
  | cons first rest ih =>
      rw [insertDistinct]
      split
      · next heq =>
          subst heq
          rw [List.mem_cons, or_self_left]
      · split
        · exact List.mem_cons
        · rw [List.mem_cons, ih, List.mem_cons, or_left_comm]

theorem mem_distinctAscending {text : String} {texts : List String} :
    text ∈ distinctAscending texts ↔ text ∈ texts := by
  induction texts with
  | nil => rfl
  | cons first rest ih => rw [distinctAscending, List.foldr_cons, mem_insertDistinct,
      ← distinctAscending, ih, List.mem_cons]

theorem pairwise_insertDistinct (text : String) {texts : List String}
    (h : texts.Pairwise (· < ·)) : (insertDistinct text texts).Pairwise (· < ·) := by
  induction texts with
  | nil => exact List.pairwise_singleton _ _
  | cons first rest ih =>
      obtain ⟨hfirst, hrest⟩ := List.pairwise_cons.mp h
      rw [insertDistinct]
      split
      · exact h
      · next hne =>
          split
          · next hlt =>
              apply List.pairwise_cons.mpr
              refine ⟨?_, h⟩
              intro other hother
              rcases List.mem_cons.mp hother with rfl | hlater
              · exact hlt
              · exact hlt.trans (hfirst other hlater)
          · next hnot =>
              have hgt : first < text := lt_of_le_of_ne (not_lt.mp hnot) (Ne.symm hne)
              apply List.pairwise_cons.mpr
              refine ⟨?_, ih hrest⟩
              intro other hother
              rcases mem_insertDistinct.mp hother with rfl | hold
              · exact hgt
              · exact hfirst other hold

theorem pairwise_distinctAscending (texts : List String) :
    (distinctAscending texts).Pairwise (· < ·) := by
  induction texts with
  | nil => exact List.Pairwise.nil
  | cons first rest ih => exact pairwise_insertDistinct first ih

end Candlestick.Text
