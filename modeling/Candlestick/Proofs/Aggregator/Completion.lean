import Candlestick.Proofs.Aggregator.Simulation

/-!
# When a candle is handed over

Whoever is given a candle may refuse it, and then the aggregator stays as it was. So the past of an
aggregator is made of the calls that were carried out, and every candle that is handed over, be it
taken or refused, sums up the block which that past has left unfinished. No call with a moment cuts
a block off before its bucket has ended (`Segmentation.finished_step_cases`): the comparison is one
of bucket starts, and these are multiples of the length of the interval.
-/

namespace Candlestick

/-- The moment that comes with a call: the second of a tick, or the time at which the ends of
buckets are looked for. -/
def Aggregator.Call.moment? : Aggregator.Call → Option Int
  | .process t => some t.second
  | .stale now => some now
  | .flush => none

namespace Segmentation

variable {i : Interval}

/-- A call finishes the unfinished block or none. Only a flush finishes a block whose bucket has not
ended. -/
theorem finished_step_cases (s : Segmentation i) (call : Aggregator.Call) :
    (s.step call).finished = s.finished ∨
      ∃ b, s.unfinished = some b ∧ (s.step call).finished = s.finished ++ [b] ∧
        ∀ moment ∈ call.moment?, b.bucket + i.seconds ≤ moment := by
  cases hs : s.unfinished with
  | none =>
      left
      cases call with
      | process t => rw [step_process_of_none hs]
      | stale now => simp [step, expire, hs]
      | flush => simp [step, cut, hs]
  | some b =>
      cases call with
      | process t =>
          rcases lt_trichotomy (i.bucketStart t.second) b.bucket with hlt | heq | hgt
          · left
            rw [step_process_of_older hs hlt]
          · left
            rw [step_process_of_same hs heq]
          · right
            rw [step_process_of_newer hs hgt]
            refine ⟨b, rfl, rfl, ?_⟩
            rintro moment ⟨⟩
            -- A newer bucket starts where the one of the block ends, or later.
            have hnot : ¬ i.bucketStart t.second ≤ b.bucket := not_le.mpr hgt
            rw [Block.bucket, i.bucketStart_le_iff_lt, not_lt] at hnot
            exact hnot
      | stale now =>
          by_cases hended : b.bucket + i.seconds ≤ now
          · right
            have hcut : s.step (.stale now) = s.cut := by
              simp [step, expire, hs, hended]
            refine ⟨b, rfl, ?_, ?_⟩
            · rw [hcut, cut, hs]
              rfl
            · rintro moment ⟨⟩
              exact hended
          · left
            simp [step, expire, hs, hended]
      | flush =>
          right
          refine ⟨b, rfl, ?_, ?_⟩
          · simp [step, cut, hs]
          · rintro moment ⟨⟩

end Segmentation

namespace Aggregator

variable {i : Interval}

/-- A candle that is handed over sums up the unfinished block, and the bucket of the block has ended
by the moment of the call. -/
theorem Holds.block_of_completes {a next : Aggregator} {unfinished : Option (Block i)}
    (h : a.Holds unfinished) {call : Call} {candle : Candle}
    (hanswer : a.answer call = .ok ⟨some candle, next⟩) :
    ∃ b, unfinished = some b ∧ candle.SumsUp b.bucket b.ticks ∧
      ∀ moment ∈ call.moment?, b.bucket + i.seconds ≤ moment := by
  obtain ⟨move, hmove, hanswers⟩ :=
    answer_of_holds (s := (⟨[], unfinished, []⟩ : Segmentation i)) h call
  obtain rfl : move = ⟨some candle, next⟩ := Except.ok.inj (hmove.symm.trans hanswer)
  obtain ⟨done, hfinished, hdone⟩ := hanswers.completed
  obtain ⟨b, rfl, hsum⟩ : ∃ b, done = [b] ∧ candle.SumsUp b.bucket b.ticks := by
    cases hdone with
    | cons hsum hrest =>
        cases hrest
        exact ⟨_, rfl, hsum⟩
  rcases Segmentation.finished_step_cases ⟨[], unfinished, []⟩ call with
    hsame | ⟨c, hc, hcut, hended⟩
  · rw [hfinished] at hsame
    cases hsame
  · rw [hfinished] at hcut
    cases hcut
    exact ⟨b, hc, hsum, hended⟩

/-- A call that is carried out leaves the aggregator with the block that the call leaves
unfinished. -/
theorem Holds.of_answer {a : Aggregator} {s : Segmentation i} (h : a.Holds s.unfinished)
    {call : Call} {move : Move} (hanswer : a.answer call = .ok move) :
    move.next.Holds (s.step call).unfinished := by
  obtain ⟨move', hmove, hanswers⟩ := answer_of_holds h call
  obtain rfl : move' = move := Except.ok.inj (hmove.symm.trans hanswer)
  exact hanswers.holds

/-- A candle that is handed over: the moment that came with the call, if one did, and the calls that
had been carried out before. -/
structure Handover where
  moment? : Option Int
  past : List Call
  candle : Candle

/-- What the candle sums up is the block that was open, all of whose ticks are of one bucket, and
this bucket has ended. -/
structure Handover.Timely (i : Interval) (h : Handover) : Prop where
  ended : ∃ moment, h.moment? = some moment ∧ h.candle.bucketStart + i.seconds ≤ moment
  nonneg : 0 ≤ h.candle.bucketStart
  aligned : (i.seconds : Int) ∣ h.candle.bucketStart
  counted : ∃ b : Block i, ((Segmentation.empty : Segmentation i).run h.past).unfinished = some b ∧
    h.candle.SumsUp h.candle.bucketStart b.ticks ∧
    ∀ t ∈ b.ticks, h.candle.bucketStart ≤ t.second ∧
      t.second < h.candle.bucketStart + i.seconds

/-- What is handed over after a past is timely, unless it was asked for without a moment. -/
theorem timely_of_completes {a next : Aggregator} {past : List Call} {call : Call} {candle : Candle}
    (h : a.Holds ((Segmentation.empty : Segmentation i).run past).unfinished)
    (hanswer : a.answer call = .ok ⟨some candle, next⟩) {moment : Int}
    (hmoment : call.moment? = some moment) :
    Handover.Timely i ⟨some moment, past, candle⟩ := by
  obtain ⟨b, hb, hsum, hended⟩ := h.block_of_completes hanswer
  have hstart := hsum.bucketStart_eq
  refine ⟨⟨moment, rfl, ?_⟩, ?_, ?_, ⟨b, hb, ?_, ?_⟩⟩
  · rw [hstart]
    exact hended moment hmoment
  · rw [hstart]
    exact b.bucket_nonneg
  · rw [hstart]
    exact i.dvd_bucketStart _
  · rw [hstart]
    exact hsum
  · intro t ht
    rw [hstart, ← Block.bucket_of_mem ht]
    exact ⟨i.bucketStart_le t.second, i.lt_bucketStart_add t.second⟩

/-! ## One aggregator whose candles may be refused -/

/-- A call, and whether a candle that is handed over in it is taken. -/
structure Attempt where
  call : Call
  taken : Bool
deriving DecidableEq

/-- The candles handed over in several attempts after a past. When a candle is refused, the
aggregator and its past stay as they were. -/
def handovers : List Call → Aggregator → List Attempt → List Handover
  | _, _, [] => []
  | past, a, x :: rest =>
    match a.answer x.call with
    | .error _ => handovers past a rest
    | .ok ⟨none, next⟩ => handovers (past ++ [x.call]) next rest
    | .ok ⟨some candle, next⟩ =>
      ⟨x.call.moment?, past, candle⟩ ::
        if x.taken then handovers (past ++ [x.call]) next rest else handovers past a rest

theorem timely_of_mem_handovers {a : Aggregator} {past : List Call}
    (h : a.Holds ((Segmentation.empty : Segmentation i).run past).unfinished)
    {attempts : List Attempt} (hattempts : ∀ x ∈ attempts, x.call.moment? ≠ none)
    {handed : Handover} (hmem : handed ∈ handovers past a attempts) : handed.Timely i := by
  induction attempts generalizing a past with
  | nil => cases hmem
  | cons x rest ih =>
      obtain ⟨hx, hrest⟩ := List.forall_mem_cons.mp hattempts
      have hnext : ∀ move, a.answer x.call = .ok move → move.next.Holds
          ((Segmentation.empty : Segmentation i).run (past ++ [x.call])).unfinished := by
        intro move hanswer
        rw [Segmentation.run_append]
        exact h.of_answer hanswer
      rw [handovers] at hmem
      split at hmem
      · exact ih h hrest hmem
      · next next hanswer => exact ih (hnext _ hanswer) hrest hmem
      · next candle next hanswer =>
          rcases List.mem_cons.mp hmem with rfl | hlater
          · obtain ⟨moment, hmoment⟩ := Option.ne_none_iff_exists'.mp hx
            rw [hmoment]
            exact timely_of_completes h hanswer hmoment
          · split at hlater
            · exact ih (hnext _ hanswer) hrest hlater
            · exact ih h hrest hlater

end Aggregator

end Candlestick
