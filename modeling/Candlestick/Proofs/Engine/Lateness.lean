import Candlestick.Proofs.Aggregator.InOrder
import Candlestick.Proofs.Aggregator.Lateness
import Candlestick.Proofs.Engine.Projection

/-!
# Late ticks across timeframes

Ticks of any symbols come in, in any order, and nothing is flushed in between. Which of them an
aggregator drops can then be read off the timestamps that came before (`drops_iff_isLate`). So the
drops of a long timeframe are among those of a short one, and the buckets that are completed under a
key increase (`late_ticks_nested`).
-/

namespace Candlestick.Engine

/-- An engine for all timeframes that has taken in the ticks. -/
def fed (ticks : List Tick) : Engine :=
  (fresh Interval.catalog).run .none (ticks.map .ingest)

/-- The number of ticks of a symbol that its aggregator of an interval has dropped. -/
def drops (s : String) (i : Interval) (ticks : List Tick) : Nat :=
  ((fed ticks).held (s, i)).dropped

/-- The tick is dropped by its aggregator if it comes in after the earlier ones. -/
def Drops (i : Interval) (earlier : List Tick) (t : Tick) : Prop :=
  drops t.symbol i (earlier ++ [t]) = drops t.symbol i earlier + 1

/-- The buckets of the candles completed under a key, oldest candle first. -/
def completedBuckets (s : String) (i : Interval) (ticks : List Tick) : List Int :=
  (savedAt (s, i) (log .none (fresh Interval.catalog) (ticks.map .ingest))).map Candle.bucketStart

def sameSymbol (s : String) (ticks : List Tick) : List Tick :=
  ticks.filter fun t ↦ t.symbol = s

variable {f g : Interval}

theorem sameSymbol_concat_self (earlier : List Tick) (t : Tick) :
    sameSymbol t.symbol (earlier ++ [t]) = sameSymbol t.symbol earlier ++ [t] := by
  simp [sameSymbol]

theorem sameSymbol_concat_other {s : String} {t : Tick} (h : ¬ t.symbol = s)
    (earlier : List Tick) : sameSymbol s (earlier ++ [t]) = sameSymbol s earlier := by
  simp [sameSymbol, h]

/-- Every timeframe is listed once, so each aggregator gets the ticks of its symbol as they come. -/
theorem flatMap_share_ingest (s : String) (i : Interval) (ticks : List Tick) :
    (ticks.map Call.ingest).flatMap (Call.share Interval.catalog (s, i)) =
      (sameSymbol s ticks).map .process := by
  have honce : Interval.catalog.count i = 1 := by cases i <;> decide
  induction ticks with
  | nil => rfl
  | cons t rest ih =>
      rw [List.map_cons, List.flatMap_cons, ih, Call.share, honce]
      by_cases h : t.symbol = s
      · simp [sameSymbol, h]
      · simp [sameSymbol, h]

theorem exists_trace_fed (s : String) (i : Interval) (ticks : List Tick) :
    ∃ tr : Aggregator.Trace,
      tr.Follows ((Segmentation.empty : Segmentation i).run ((sameSymbol s ticks).map .process)) ∧
      tr.emitted.map Candle.bucketStart = completedBuckets s i ticks ∧
      tr.state = (fed ticks).held (s, i) := by
  obtain ⟨tr, _, hfollows, hemitted, hheld, _⟩ :=
    exists_trace_run_fresh Interval.catalog (ticks.map .ingest) (s, i)
  rw [flatMap_share_ingest] at hfollows
  refine ⟨tr, hfollows, ?_, hheld.symm⟩
  rw [hemitted]
  rfl

theorem drops_eq_length (s : String) (i : Interval) (ticks : List Tick) :
    drops s i ticks = ((Segmentation.empty : Segmentation i).run
      ((sameSymbol s ticks).map .process)).rejected.length := by
  obtain ⟨tr, hfollows, _, hstate⟩ := exists_trace_fed s i ticks
  rw [← hfollows.dropped_eq, hstate]
  rfl

theorem drops_concat_self (i : Interval) (earlier : List Tick) (t : Tick) :
    drops t.symbol i (earlier ++ [t]) = drops t.symbol i earlier +
      if t.IsLate i (sameSymbol t.symbol earlier) then 1 else 0 := by
  rw [drops_eq_length, drops_eq_length, sameSymbol_concat_self, Segmentation.rejected_run_concat,
    List.length_append]
  split <;> rfl

theorem drops_concat_other {s : String} {t : Tick} (h : ¬ t.symbol = s) (i : Interval)
    (earlier : List Tick) : drops s i (earlier ++ [t]) = drops s i earlier := by
  rw [drops_eq_length, drops_eq_length, sameSymbol_concat_other h]

theorem drops_iff_isLate (i : Interval) (earlier : List Tick) (t : Tick) :
    Drops i earlier t ↔ t.IsLate i (sameSymbol t.symbol earlier) := by
  rw [Drops, drops_concat_self]
  split
  · next hlate => exact iff_of_true rfl hlate
  · next hnot => exact iff_of_false (by omega) hnot

theorem drops_concat_of_not {i : Interval} {earlier : List Tick} {t : Tick}
    (h : ¬ Drops i earlier t) : drops t.symbol i (earlier ++ [t]) = drops t.symbol i earlier := by
  rw [drops_concat_self, if_neg (fun hlate ↦ h ((drops_iff_isLate i earlier t).mpr hlate))]
  rfl

theorem Drops.of_seconds_lt (h : f.seconds < g.seconds) {earlier : List Tick} {t : Tick}
    (hdrops : Drops g earlier t) : Drops f earlier t := by
  rw [drops_iff_isLate] at hdrops ⊢
  exact hdrops.of_seconds_lt h

theorem drops_le_drops (h : f.seconds < g.seconds) (s : String) (ticks : List Tick) :
    drops s g ticks ≤ drops s f ticks := by
  -- Both counts grow at the last tick: if the long one does, so does the short one.
  induction ticks using List.reverseRecOn with
  | nil => exact le_rfl
  | append_singleton earlier t ih =>
      by_cases hsymbol : t.symbol = s
      · subst hsymbol
        by_cases hdrops : Drops g earlier t
        · have hshort : Drops f earlier t := hdrops.of_seconds_lt h
          rw [Drops] at hdrops hshort
          omega
        · rw [drops_concat_of_not hdrops, drops_concat_self]
          omega
      · rw [drops_concat_other hsymbol, drops_concat_other hsymbol]
        exact ih

theorem pairwise_completedBuckets (s : String) (i : Interval) (ticks : List Tick) :
    (completedBuckets s i ticks ++ ((fed ticks).held (s, i)).bucket?.toList).Pairwise (· < ·) := by
  obtain ⟨tr, hfollows, hcompleted, hstate⟩ := exists_trace_fed s i ticks
  have hincreasing := (Segmentation.peaks_run i (sameSymbol s ticks)).increasing
  have hopen : tr.state.bucket?.toList = (((Segmentation.empty : Segmentation i).run
      ((sameSymbol s ticks).map .process)).unfinished.toList).map Block.bucket := by
    cases hcurrent : tr.state.current with
    | none =>
        rw [hfollows.holds.eq_none hcurrent, Aggregator.bucket?, hcurrent]
        rfl
    | some c =>
        obtain ⟨b, hb, hsum⟩ := hfollows.holds.exists_block hcurrent
        rw [hb, Aggregator.bucket?, hcurrent]
        exact congrArg (fun bucket ↦ [bucket]) hsum.bucketStart_eq
  rw [← hcompleted, ← hstate, hopen, Aggregator.Trace.map_bucketStart_of_forall₂ hfollows.emitted,
    ← List.map_append]
  exact List.pairwise_map.mpr hincreasing

/-- Ticks come in, in any order, and nothing is flushed. A tick is dropped for an interval exactly
if its bucket lies before that of the largest timestamp its symbol has had before. If it is dropped
for a long interval then for every shorter one as well, so that drops grow fewer along the catalog;
and under each key the buckets of the completed candles, and then the open one, increase. -/
theorem late_ticks_nested :
    (∀ (earlier : List Tick) (t : Tick) (i : Interval),
      (Drops i earlier t ↔ t.IsLate i (sameSymbol t.symbol earlier)) ∧
      (¬ Drops i earlier t →
        drops t.symbol i (earlier ++ [t]) = drops t.symbol i earlier)) ∧
    (∀ f g : Interval, f.seconds < g.seconds →
      (∀ (earlier : List Tick) (t : Tick), Drops g earlier t → Drops f earlier t) ∧
      ∀ (s : String) (ticks : List Tick), drops s g ticks ≤ drops s f ticks) ∧
    ∀ (s : String) (i : Interval) (ticks : List Tick),
      (completedBuckets s i ticks ++ ((fed ticks).held (s, i)).bucket?.toList).Pairwise (· < ·) :=
  ⟨fun earlier t i ↦ ⟨drops_iff_isLate i earlier t, drops_concat_of_not⟩,
    fun _ _ h ↦ ⟨fun _ _ hdrops ↦ hdrops.of_seconds_lt h, drops_le_drops h⟩,
    pairwise_completedBuckets⟩

/-- Two ticks of one symbol, the second from six minutes earlier, and one of another symbol. -/
def outOfOrder : List Tick :=
  [.whole "A" 99 101 400000 (by decide +kernel), .whole "B" 7 9 30000 (by decide +kernel)]

def sixMinutesEarlier : Tick :=
  .whole "A" 99 101 40000 (by decide +kernel)

/-- The late tick lies in another five minutes, but in the same quarter of an hour. -/
theorem late_ticks_nested_outOfOrder :
    Interval.oneMinute.seconds < Interval.fiveMinutes.seconds ∧
      Drops .fiveMinutes outOfOrder sixMinutesEarlier ∧
      Drops .oneMinute outOfOrder sixMinutesEarlier ∧
      ¬ Drops .fifteenMinutes outOfOrder sixMinutesEarlier ∧
      drops sixMinutesEarlier.symbol .fifteenMinutes (outOfOrder ++ [sixMinutesEarlier]) =
        drops sixMinutesEarlier.symbol .fifteenMinutes outOfOrder := by
  have hlonger : Interval.oneMinute.seconds < Interval.fiveMinutes.seconds := by decide
  obtain ⟨hdrops, hnested, _⟩ := late_ticks_nested
  have hfive : Drops .fiveMinutes outOfOrder sixMinutesEarlier :=
    (hdrops outOfOrder sixMinutesEarlier .fiveMinutes).1.mpr (by decide +kernel)
  obtain ⟨hquarter, hsame⟩ := hdrops outOfOrder sixMinutesEarlier .fifteenMinutes
  have hnot : ¬ sixMinutesEarlier.IsLate .fifteenMinutes
      (sameSymbol sixMinutesEarlier.symbol outOfOrder) := by decide +kernel
  have hkept : ¬ Drops .fifteenMinutes outOfOrder sixMinutesEarlier :=
    fun h ↦ hnot (hquarter.mp h)
  have hone := (hnested .oneMinute .fiveMinutes hlonger).1 outOfOrder sixMinutesEarlier hfive
  exact ⟨hlonger, hfive, hone, hkept, hsame hkept⟩

end Candlestick.Engine
