import Candlestick.Proofs.Aggregator.Simulation

/-!
# Candles that are due

When an aggregator is flushed its open candle is due; when it is asked for a stale candle, the open
one is due if its bucket has ended. An aggregator that is asked in one of these ways hands over what
is due and has nothing open afterwards; if nothing is due it stays as it is (`answer_due`). To ask
twice is to ask once (`due_settled`).
-/

namespace Candlestick.Aggregator

/-- The open candle that is handed over when an aggregator is asked for it. -/
def due (a : Aggregator) : Call → Option OpenCandle
  | .process _ => none
  | .stale now => a.current.filter fun c ↦ c.bucketStart + a.interval.seconds ≤ now
  | .flush => a.current

/-- The aggregator without the candle that is due. -/
def settled (a : Aggregator) (call : Call) : Aggregator :=
  if (a.due call).isSome then { a with current := none } else a

variable {i : Interval} {a : Aggregator} {unfinished : Option (Block i)} {call : Call}

theorem forall₂_toList_of_rel {α β : Type} {r : α → β → Prop} {x : Option α} {y : Option β}
    (h : Option.Rel r x y) : List.Forall₂ r x.toList y.toList := by
  cases h with
  | none => exact .nil
  | some hxy => exact .cons hxy .nil

theorem settled_of_none (h : a.due call = none) : a.settled call = a := by
  simp [settled, h]

theorem settled_of_some {c : OpenCandle} (h : a.due call = some c) :
    a.settled call = { a with current := none } := by
  simp [settled, h]

theorem due_of_current_none (h : a.current = none) (call : Call) : a.due call = none := by
  cases call <;> simp [due, h]

theorem answer_of_current_none (h : a.current = none) (hcall : call.tick? = none) :
    a.answer call = .ok ⟨none, a⟩ := by
  cases call with
  | process t => cases hcall
  | stale now => simp [answer, flushStale, h, quietly]
  | flush => simp [answer, flush, h, quietly]

theorem current_settled_flush (a : Aggregator) : (a.settled .flush).current = none := by
  cases h : a.due .flush with
  | none =>
      rw [settled_of_none h]
      exact h
  | some c => rw [settled_of_some h]

@[simp] theorem due_settled (a : Aggregator) (call : Call) : (a.settled call).due call = none := by
  cases h : a.due call with
  | none =>
      rw [settled_of_none h]
      exact h
  | some c =>
      rw [settled_of_some h]
      exact due_of_current_none rfl call

/-- Bucket starts are aligned, so comparing them finds out whether a bucket has ended. -/
theorem Holds.bucketStart_le_iff (h : a.Holds unfinished) {c : OpenCandle}
    (hcurrent : a.current = some c) (now : Int) :
    a.interval.bucketStart now ≤ c.bucketStart ↔ ¬ c.bucketStart + a.interval.seconds ≤ now := by
  obtain ⟨b, _, hsum⟩ := h.exists_block hcurrent
  rw [h.interval_eq, hsum.bucketStart_eq, Block.bucket, i.bucketStart_le_iff_lt, not_le]

theorem Holds.answer_of_due_none (h : a.Holds unfinished) (hcall : call.tick? = none)
    (hdue : a.due call = none) : a.answer call = .ok ⟨none, a⟩ := by
  cases call with
  | process t => cases hcall
  | stale now =>
      cases hcurrent : a.current with
      | none => exact answer_of_current_none hcurrent rfl
      | some c =>
          have hended : ¬ c.bucketStart + a.interval.seconds ≤ now := by
            simpa [due, hcurrent, Option.filter] using hdue
          have hle := (h.bucketStart_le_iff hcurrent now).mpr hended
          simp [answer, flushStale, hcurrent, hle, quietly]
  | flush => exact answer_of_current_none hdue rfl

theorem Holds.answer_of_due_some (h : a.Holds unfinished) {c : OpenCandle}
    (hdue : a.due call = some c) : ∃ candle, c.close = .ok candle ∧
      a.answer call = .ok ⟨some candle, { a with current := none }⟩ := by
  have hcurrent : a.current = some c := by
    cases call with
    | process t => cases hdue
    | stale now => exact (Option.filter_eq_some_iff.mp hdue).1
    | flush => exact hdue
  obtain ⟨b, _, hsum⟩ := h.exists_block hcurrent
  obtain ⟨candle, hclose, _⟩ := hsum.close b.bucket_nonneg
  refine ⟨candle, hclose, ?_⟩
  have hcomplete : a.complete c none = .ok ⟨some candle, { a with current := none }⟩ := by
    rw [complete, hclose]
    rfl
  rw [← hcomplete]
  cases call with
  | process t => cases hdue
  | stale now =>
      have hended := (Option.filter_eq_some_iff.mp hdue).2
      have hnot : ¬ a.interval.bucketStart now ≤ c.bucketStart := fun hle ↦
        (h.bucketStart_le_iff hcurrent now).mp hle (of_decide_eq_true hended)
      simp only [answer, flushStale, hcurrent, if_neg hnot]
  | flush => simp only [answer, flush, hcurrent]

/-- What is due is handed over, and nothing else happens. -/
theorem Holds.answer_due (h : a.Holds unfinished) (hcall : call.tick? = none) :
    ∃ completed, a.answer call = .ok ⟨completed, a.settled call⟩ ∧
      Option.Rel (fun candle c ↦ OpenCandle.close c = .ok candle) completed (a.due call) := by
  cases hdue : a.due call with
  | none =>
      rw [settled_of_none hdue]
      exact ⟨none, h.answer_of_due_none hcall hdue, .none⟩
  | some c =>
      rw [settled_of_some hdue]
      obtain ⟨candle, hclose, hanswer⟩ := h.answer_of_due_some hdue
      exact ⟨some candle, hanswer, .some hclose⟩

end Candlestick.Aggregator
