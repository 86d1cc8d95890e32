import Candlestick.Proofs.Aggregator.Segmentation

/-!
# Aggregators and blocks

An aggregator holds a block when its open candle sums the block up. Whatever it is asked, it
answers, and it holds the unfinished block again afterwards; the candle that it hands over sums up
the block that has just been finished (`answer_of_holds`). A trace follows a segmentation when the
candles handed over are the summaries of the finished blocks, and so does every run.
-/

namespace Candlestick

variable {i : Interval}

namespace Aggregator

/-- The open candle sums up the unfinished block, if there is one. -/
structure Holds (a : Aggregator) (unfinished : Option (Block i)) : Prop where
  interval_eq : a.interval = i
  current : Option.Rel (fun c b ↦ c.SumsUp b.bucket b.ticks) a.current unfinished

theorem holds_fresh (i : Interval) : (fresh i).Holds (none : Option (Block i)) :=
  ⟨rfl, .none⟩

theorem Holds.eq_none {a : Aggregator} {unfinished : Option (Block i)} (h : a.Holds unfinished)
    (hcurrent : a.current = none) : unfinished = none := by
  have hrel := h.current
  rw [hcurrent] at hrel
  cases hrel
  rfl

theorem Holds.exists_block {a : Aggregator} {unfinished : Option (Block i)}
    (h : a.Holds unfinished) {c : OpenCandle} (hcurrent : a.current = some c) :
    ∃ b, unfinished = some b ∧ c.SumsUp b.bucket b.ticks := by
  have hrel := h.current
  rw [hcurrent] at hrel
  cases hrel with
  | some hsum => exact ⟨_, rfl, hsum⟩

/-- An open candle that sums up a block can be completed, whatever comes after it. -/
theorem complete_of_sumsUp (a : Aggregator) {c : OpenCandle} {b : Block i}
    (h : c.SumsUp b.bucket b.ticks) (following : Option OpenCandle) :
    ∃ candle : Candle, a.complete c following =
      .ok ⟨some candle, { a with current := following }⟩ ∧ candle.SumsUp b.bucket b.ticks := by
  obtain ⟨candle, hclose, hsum⟩ := h.close b.bucket_nonneg
  refine ⟨candle, ?_, hsum⟩
  rw [complete, hclose]
  rfl

/-- What an answer makes of the unfinished block: the next one, the block finished by it, if one
was, and the number of ticks rejected. -/
structure Answers (a : Aggregator) (s next : Segmentation i) (move : Move) : Prop where
  holds : move.next.Holds next.unfinished
  completed : ∃ done : List (Block i), next.finished = s.finished ++ done ∧
    List.Forall₂ (fun (c : Candle) b ↦ c.SumsUp b.bucket b.ticks) move.completed.toList done
  dropped : move.next.dropped + s.rejected.length = a.dropped + next.rejected.length

theorem process_of_holds {a : Aggregator} {s : Segmentation i} (h : a.Holds s.unfinished)
    (t : Tick) : ∃ move, a.process t = .ok move ∧ a.Answers s (s.step (.process t)) move := by
  obtain rfl := h.interval_eq
  cases hcurrent : a.current with
  | none =>
      rw [Segmentation.step_process_of_none (h.eq_none hcurrent)]
      refine ⟨⟨none, { a with current := some (.start (a.interval.bucketStart t.second) t.mid) }⟩,
        ?_, ?_⟩
      · simp [process, hcurrent, quietly]
      · exact ⟨⟨rfl, .some (OpenCandle.sumsUp_start _ t)⟩, ⟨[], by simp, .nil⟩, rfl⟩
  | some c =>
      obtain ⟨b, hs, hsum⟩ := h.exists_block hcurrent
      -- The open candle starts where the block does, so both look at the same comparison.
      rcases lt_trichotomy (a.interval.bucketStart t.second) b.bucket with hlt | heq | hgt
      · rw [Segmentation.step_process_of_older hs hlt]
        refine ⟨⟨none, { a with dropped := a.dropped + 1 }⟩, ?_, ?_⟩
        · have hnot : ¬ b.bucket < a.interval.bucketStart t.second := hlt.not_gt
          simp [process, hcurrent, hsum.bucketStart_eq, hlt.ne, hnot, quietly]
        · refine ⟨⟨rfl, ?_⟩, ⟨[], by simp, .nil⟩, ?_⟩
          · rw [hs, hcurrent]
            exact .some hsum
          · simp only [List.length_append, List.length_singleton]
            omega
      · rw [Segmentation.step_process_of_same hs heq]
        refine ⟨⟨none, { a with current := some (c.add t.mid) }⟩, ?_, ?_⟩
        · simp [process, hcurrent, hsum.bucketStart_eq, heq, quietly]
        · exact ⟨⟨rfl, .some (hsum.add t)⟩, ⟨[], by simp, .nil⟩, rfl⟩
      · rw [Segmentation.step_process_of_newer hs hgt]
        obtain ⟨candle, hcomplete, hcandle⟩ := a.complete_of_sumsUp hsum
          (some (.start (a.interval.bucketStart t.second) t.mid))
        refine ⟨⟨some candle,
          { a with current := some (.start (a.interval.bucketStart t.second) t.mid) }⟩, ?_, ?_⟩
        · simp only [process, hcurrent, hsum.bucketStart_eq, hgt.ne', hgt, if_false, if_true]
          exact hcomplete
        · exact ⟨⟨rfl, .some (OpenCandle.sumsUp_start _ t)⟩, ⟨[b], rfl, .cons hcandle .nil⟩, rfl⟩

/-- Nothing to complete: the answer changes nothing. -/
theorem answers_quietly {a : Aggregator} {s : Segmentation i} (h : a.Holds s.unfinished) :
    a.Answers s s ⟨none, a⟩ :=
  ⟨h, ⟨[], by simp, .nil⟩, rfl⟩

/-- Completing the open candle finishes the unfinished block. -/
theorem complete_of_holds {a : Aggregator} {s : Segmentation i} (h : a.Holds s.unfinished)
    {c : OpenCandle} (hcurrent : a.current = some c) :
    ∃ move, a.complete c none = .ok move ∧ a.Answers s s.cut move := by
  obtain ⟨b, hs, hsum⟩ := h.exists_block hcurrent
  obtain ⟨candle, hcomplete, hcandle⟩ := a.complete_of_sumsUp hsum none
  refine ⟨_, hcomplete, ⟨h.interval_eq, .none⟩, ⟨[b], ?_, ?_⟩, rfl⟩
  · simp [Segmentation.cut, hs]
  · exact .cons hcandle .nil

theorem flush_of_holds {a : Aggregator} {s : Segmentation i} (h : a.Holds s.unfinished) :
    ∃ move, a.flush = .ok move ∧ a.Answers s s.cut move := by
  cases hcurrent : a.current with
  | none =>
      have hcut : s.cut = s := by
        obtain ⟨finished, unfinished, rejected⟩ := s
        obtain rfl : unfinished = none := h.eq_none hcurrent
        simp [Segmentation.cut]
      refine ⟨⟨none, a⟩, by simp [flush, hcurrent, quietly], ?_⟩
      rw [hcut]
      exact answers_quietly h
  | some c =>
      obtain ⟨move, hmove, hanswers⟩ := complete_of_holds h hcurrent
      refine ⟨move, ?_, hanswers⟩
      rw [flush, hcurrent]
      exact hmove

/-- The comparison of bucket starts finds out exactly whether the bucket has ended. -/
theorem flushStale_of_holds {a : Aggregator} {s : Segmentation i} (h : a.Holds s.unfinished)
    (now : Int) : ∃ move, a.flushStale now = .ok move ∧ a.Answers s (s.expire now) move := by
  cases hcurrent : a.current with
  | none =>
      have hexpire : s.expire now = s := by
        simp [Segmentation.expire, h.eq_none hcurrent]
      refine ⟨⟨none, a⟩, by simp [flushStale, hcurrent, quietly], ?_⟩
      rw [hexpire]
      exact answers_quietly h
  | some c =>
      obtain ⟨b, hs, hsum⟩ := h.exists_block hcurrent
      have hended : a.interval.bucketStart now ≤ c.bucketStart ↔
          ¬ b.bucket + i.seconds ≤ now := by
        rw [h.interval_eq, hsum.bucketStart_eq, Block.bucket, i.bucketStart_le_iff_lt, not_le]
      by_cases hstale : b.bucket + i.seconds ≤ now
      · have hexpire : s.expire now = s.cut := by
          simp [Segmentation.expire, hs, hstale]
        obtain ⟨move, hmove, hanswers⟩ := complete_of_holds h hcurrent
        rw [hexpire]
        refine ⟨move, ?_, hanswers⟩
        rw [flushStale, hcurrent]
        exact (if_neg (fun hle ↦ hended.mp hle hstale)).trans hmove
      · have hexpire : s.expire now = s := by
          simp [Segmentation.expire, hs, hstale]
        rw [hexpire]
        refine ⟨⟨none, a⟩, ?_, answers_quietly h⟩
        rw [flushStale, hcurrent]
        exact if_pos (hended.mpr hstale)

/-- Whatever it is asked, an aggregator that holds the unfinished block answers, and goes on to
hold the next one. -/
theorem answer_of_holds {a : Aggregator} {s : Segmentation i} (h : a.Holds s.unfinished)
    (call : Call) : ∃ move, a.answer call = .ok move ∧ a.Answers s (s.step call) move := by
  cases call with
  | process t => exact process_of_holds h t
  | stale now => exact flushStale_of_holds h now
  | flush => exact flush_of_holds h

/-! ## Runs -/

/-- The candles handed over sum up the finished blocks, the open one the unfinished block, and the
drops are the rejected ticks. -/
structure Trace.Follows (tr : Trace) (s : Segmentation i) : Prop where
  holds : tr.state.Holds s.unfinished
  emitted : List.Forall₂ (fun (c : Candle) b ↦ c.SumsUp b.bucket b.ticks) tr.emitted s.finished
  dropped_eq : tr.state.dropped = s.rejected.length

namespace Trace

theorem follows_fresh (i : Interval) : (fresh i).Follows (Segmentation.empty : Segmentation i) :=
  ⟨holds_fresh i, .nil, rfl⟩

theorem step_of_follows {tr : Trace} {s : Segmentation i} (h : tr.Follows s) (call : Call) :
    ∃ next, tr.step call = .ok next ∧ next.Follows (s.step call) := by
  obtain ⟨move, hmove, hanswers⟩ := answer_of_holds h.holds call
  obtain ⟨done, hfinished, hdone⟩ := hanswers.completed
  refine ⟨_, step_of_answer hmove, hanswers.holds, ?_, ?_⟩
  · rw [hfinished]
    exact List.rel_append h.emitted hdone
  · have hdropped := hanswers.dropped
    have hbefore := h.dropped_eq
    dsimp only
    omega

theorem run_of_follows {tr : Trace} {s : Segmentation i} (h : tr.Follows s)
    (calls : List Call) : ∃ final, tr.run calls = .ok final ∧ final.Follows (s.run calls) := by
  induction calls generalizing tr s with
  | nil => exact ⟨tr, rfl, h⟩
  | cons call calls ih =>
      obtain ⟨next, hstep, hnext⟩ := step_of_follows h call
      rw [run_cons hstep]
      exact ih hnext

theorem exists_mem_of_forall₂ {α β : Type} {r : α → β → Prop} {xs : List α} {ys : List β}
    (h : List.Forall₂ r xs ys) {x : α} (hx : x ∈ xs) : ∃ y ∈ ys, r x y := by
  induction h with
  | nil => cases hx
  | cons hxy _ ih =>
      rcases List.mem_cons.mp hx with rfl | hrest
      · exact ⟨_, List.mem_cons_self, hxy⟩
      · obtain ⟨y, hy, hr⟩ := ih hrest
        exact ⟨y, List.mem_cons_of_mem _ hy, hr⟩

/-! ## Counting ticks -/

theorem sum_volume_of_forall₂ {candles : List Candle} {blocks : List (Block i)}
    (h : List.Forall₂ (fun (c : Candle) b ↦ c.SumsUp b.bucket b.ticks) candles blocks) :
    (candles.map Candle.volume).sum = (blocks.flatMap Block.ticks).length := by
  induction h with
  | nil => rfl
  | cons hsum _ ih =>
      rw [List.map_cons, List.sum_cons, hsum.volume_eq, ih, List.flatMap_cons, List.length_append]
      exact (Int.natCast_add _ _).symm

theorem openTicks_of_holds {a : Aggregator} {unfinished : Option (Block i)}
    (h : a.Holds unfinished) :
    a.openTicks = (unfinished.toList.flatMap Block.ticks).length := by
  cases hcurrent : a.current with
  | none =>
      rw [h.eq_none hcurrent, openTicks, hcurrent]
      rfl
  | some c =>
      obtain ⟨b, rfl, hsum⟩ := h.exists_block hcurrent
      rw [openTicks, hcurrent]
      simp [hsum.ticks_eq]

/-- The candles, the open one and the drops account for every tick of the segmentation. -/
theorem Follows.conservation {tr : Trace} {s : Segmentation i} (h : tr.Follows s) :
    (tr.emitted.map Candle.volume).sum + tr.state.openTicks + tr.state.dropped =
      (s.accepted ++ s.rejected).length := by
  rw [sum_volume_of_forall₂ h.emitted, openTicks_of_holds h.holds, h.dropped_eq,
    Segmentation.accepted, Segmentation.blocks, List.flatMap_append]
  simp only [List.length_append]
  omega

/-- An aggregator computes the segmentation of its past. It answers every call; the candles it
hands over are the summaries of the finished blocks, in order and once each; its open candle is the
summary of the unfinished block; and its drops are the rejected ticks. Hence no tick goes missing
between the candles, the open one and the drops. -/
theorem run_fresh_sums_up_blocks (i : Interval) (calls : List Call) :
    ∃ tr, (fresh i).run calls = .ok tr ∧
      List.Forall₂ (fun (c : Candle) b ↦ c.SumsUp b.bucket b.ticks) tr.emitted
        ((Segmentation.empty : Segmentation i).run calls).finished ∧
      Option.Rel (fun (c : OpenCandle) b ↦ c.SumsUp b.bucket b.ticks) tr.state.current
        ((Segmentation.empty : Segmentation i).run calls).unfinished ∧
      tr.state.dropped = ((Segmentation.empty : Segmentation i).run calls).rejected.length ∧
      (tr.emitted.map Candle.volume).sum + tr.state.openTicks + tr.state.dropped =
        (calls.filterMap Call.tick?).length := by
  obtain ⟨tr, hrun, hfollows⟩ := run_of_follows (follows_fresh i) calls
  refine ⟨tr, hrun, hfollows.emitted, hfollows.holds.current, hfollows.dropped_eq, ?_⟩
  rw [hfollows.conservation, (Segmentation.run_empty_perm calls).length_eq]

end Trace

end Aggregator

end Candlestick
