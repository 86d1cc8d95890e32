import Candlestick.Data.Checked

/-!
# Steps that may fail

A row of steps succeeds exactly when each of them does, whether it stops at the first that fails
(`bind_eq_ok_iff`) or goes on and collects all issues (`Checked.seq_eq_valid_iff`).
-/

namespace Candlestick

theorem mapError_eq_ok_iff {ε ε' α : Type} {result : Except ε α} {f : ε → ε'} {a : α} :
    result.mapError f = .ok a ↔ result = .ok a := by
  cases result with
  | error fault => exact iff_of_false (fun h ↦ nomatch h) fun h ↦ nomatch h
  | ok b =>
      constructor
      · rintro ⟨⟩
        rfl
      · rintro ⟨⟩
        rfl

theorem bind_eq_ok_iff {ε α β : Type} {result : Except ε α} {f : α → Except ε β} {b : β} :
    (result >>= f) = .ok b ↔ ∃ a, result = .ok a ∧ f a = .ok b := by
  cases result with
  | error fault =>
      refine iff_of_false (fun h ↦ nomatch h) ?_
      rintro ⟨_, h, _⟩
      cases h
  | ok a =>
      constructor
      · intro h
        exact ⟨a, rfl, h⟩
      · rintro ⟨_, ⟨⟩, h⟩
        exact h

theorem eq_ok_of_toOption {ε α : Type} {result : Except ε α} {a : α}
    (h : result.toOption = some a) : result = .ok a := by
  cases result with
  | error fault => cases h
  | ok b =>
      cases h
      rfl

namespace Checked

variable {α β : Type}

theorem map_eq_valid_iff {f : α → β} {checked : Checked α} {b : β} :
    f <$> checked = .valid b ↔ ∃ a, checked = .valid a ∧ f a = b := by
  cases checked with
  | valid a =>
      constructor
      · rintro ⟨⟩
        exact ⟨a, rfl, rfl⟩
      · rintro ⟨_, ⟨⟩, rfl⟩
        rfl
  | invalid issues =>
      refine iff_of_false (fun h ↦ nomatch h) ?_
      rintro ⟨_, h, _⟩
      cases h

theorem seq_eq_valid_iff {checkedFun : Checked (α → β)} {checked : Checked α}
    {b : β} : checkedFun <*> checked = .valid b ↔
      ∃ f a, checkedFun = .valid f ∧ checked = .valid a ∧ f a = b := by
  cases checkedFun with
  | valid f =>
      cases checked with
      | valid a =>
          constructor
          · rintro ⟨⟩
            exact ⟨f, a, rfl, rfl, rfl⟩
          · rintro ⟨_, _, ⟨⟩, ⟨⟩, rfl⟩
            rfl
      | invalid issues =>
          refine iff_of_false (fun h ↦ nomatch h) ?_
          rintro ⟨_, _, _, h, _⟩
          cases h
  | invalid issues =>
      refine iff_of_false ?_ ?_
      · cases checked <;> exact fun h ↦ nomatch h
      · rintro ⟨_, _, h, _⟩
        cases h

theorem toExcept_eq_ok_iff {checked : Checked α} {a : α} :
    checked.toExcept = .ok a ↔ checked = .valid a := by
  cases checked with
  | valid b => simp [toExcept]
  | invalid issues => simp [toExcept]

theorem valid_seq (f : α → β) (checked : Checked α) : .valid f <*> checked = f <$> checked := by
  cases checked <;> rfl

/-- The issues that a check finds. -/
def found : Checked α → List Issue
  | .valid _ => []
  | .invalid issues => issues

theorem found_map (f : α → β) (checked : Checked α) : (f <$> checked).found = checked.found := by
  cases checked <;> rfl

theorem found_seq (checkedFun : Checked (α → β)) (checked : Checked α) :
    (checkedFun <*> checked).found = checkedFun.found ++ checked.found := by
  cases checkedFun with
  | valid f =>
      rw [found, List.nil_append]
      cases checked <;> rfl
  | invalid issues =>
      cases checked with
      | valid a => exact (List.append_nil issues).symm
      | invalid later => rfl

theorem map_invalid_iff {f : α → β} {checked : Checked α} :
    (∃ issues, f <$> checked = .invalid issues) ↔ ∃ issues, checked = .invalid issues := by
  cases checked with
  | valid a => exact iff_of_false (fun ⟨_, h⟩ ↦ nomatch h) fun ⟨_, h⟩ ↦ nomatch h
  | invalid issues => exact iff_of_true ⟨issues, rfl⟩ ⟨issues, rfl⟩

theorem seq_invalid_iff {checkedFun : Checked (α → β)} {checked : Checked α} :
    (∃ issues, checkedFun <*> checked = .invalid issues) ↔
      (∃ issues, checkedFun = .invalid issues) ∨ ∃ issues, checked = .invalid issues := by
  cases checkedFun with
  | valid f =>
      rw [valid_seq, map_invalid_iff]
      exact (or_iff_right fun ⟨_, h⟩ ↦ nomatch h).symm
  | invalid issues =>
      refine iff_of_true ?_ (Or.inl ⟨issues, rfl⟩)
      cases checked with
      | valid a => exact ⟨issues, rfl⟩
      | invalid later => exact ⟨issues ++ later, rfl⟩

theorem under_eq_valid_iff {step : Step} {checked : Checked α} {a : α} :
    checked.under step = .valid a ↔ checked = .valid a := by
  cases checked with
  | valid b => exact Iff.rfl
  | invalid issues => exact iff_of_false (fun h ↦ nomatch h) fun h ↦ nomatch h

theorem ofExcept_eq_valid_iff {result : Except Problem α} {a : α} :
    ofExcept result = .valid a ↔ result = .ok a := by
  cases result with
  | error problem => exact iff_of_false (fun h ↦ nomatch h) fun h ↦ nomatch h
  | ok b =>
      constructor
      · rintro ⟨⟩
        rfl
      · rintro ⟨⟩
        rfl

end Checked

end Candlestick
