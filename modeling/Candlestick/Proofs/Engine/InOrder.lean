import Candlestick.Proofs.Aggregator.InOrder
import Candlestick.Proofs.Engine.Projection

/-!
# What is stored after an orderly feed

A feed is orderly when the ticks of each symbol come in the order of their timestamps and none
comes from before the moment of an earlier sweep. Sweeps then never complete a bucket that has
ticks to come. So after a shutdown the store says about the ticks of each symbol what a plain
grouping by bucket says, however the sweeps were placed, and nothing else.
-/

namespace Candlestick.Engine

/-- What may follow a call in an orderly feed. Only ticks and sweeps are part of it. -/
def Call.Before : Call → Call → Prop
  | .ingest t, .ingest u => t.symbol = u.symbol → t.timestamp ≤ u.timestamp
  | .sweep now, .ingest t => now ≤ t.second
  | _, _ => True

instance : DecidableRel Call.Before := by
  intro a b
  unfold Call.Before
  split <;> infer_instance

def Call.feeds : Call → Bool
  | .ingest _ => true
  | .sweep _ => true
  | _ => false

/-- A feed of ticks and sweeps in which nothing comes late. -/
structure Orderly (calls : List Call) : Prop where
  feeds : ∀ call ∈ calls, call.feeds = true
  before : calls.Pairwise Call.Before

instance (calls : List Call) : Decidable (Orderly calls) :=
  decidable_of_iff ((∀ call ∈ calls, call.feeds = true) ∧ calls.Pairwise Call.Before)
    ⟨fun h ↦ ⟨h.1, h.2⟩, fun h ↦ ⟨h.feeds, h.before⟩⟩

variable {intervals : List Interval} {key : String × Interval} {calls : List Call}

theorem mem_share {call : Call} (hcall : call.feeds = true) {c : Aggregator.Call}
    (hc : c ∈ call.share intervals key) :
    (∃ t, call = .ingest t ∧ t.symbol = key.1 ∧ c = .process t) ∨
      ∃ now, call = .sweep now ∧ c = .stale now := by
  cases call with
  | ingest t =>
      rw [Call.share] at hc
      split at hc
      · next h => exact Or.inl ⟨t, rfl, h, List.eq_of_mem_replicate hc⟩
      · cases hc
  | sweep now => exact Or.inr ⟨now, rfl, List.mem_singleton.mp hc⟩
  | shutdown => cases hcall
  | flush other => cases hcall
  | flushStale other now => cases hcall

theorem second_mono {t u : Tick} (h : t.timestamp ≤ u.timestamp) : t.second ≤ u.second := by
  unfold Tick.second
  omega

/-- What one call asks of an aggregator may be followed by what a later one asks. -/
theorem before_of_mem_share {a b : Call} (ha : a.feeds = true) (hb : b.feeds = true)
    (h : a.Before b) {c d : Aggregator.Call} (hc : c ∈ a.share intervals key)
    (hd : d ∈ b.share intervals key) : c.Before d := by
  rcases mem_share ha hc with ⟨t, rfl, ht, rfl⟩ | ⟨now, rfl, rfl⟩
  · rcases mem_share hb hd with ⟨u, rfl, hu, rfl⟩ | ⟨now, rfl, rfl⟩
    · exact second_mono (h (ht.trans hu.symm))
    · trivial
  · rcases mem_share hb hd with ⟨u, rfl, hu, rfl⟩ | ⟨later, rfl, rfl⟩
    · exact h
    · trivial

theorem Orderly.pairwise_shares (h : Orderly calls) (intervals : List Interval)
    (key : String × Interval) :
    (calls.flatMap (Call.share intervals key)).Pairwise Aggregator.Call.Before := by
  refine List.pairwise_flatMap.mpr ⟨?_, ?_⟩
  · intro call hcall
    -- Within a share there are only copies of the same tick.
    refine List.pairwise_of_forall_mem_list ?_
    intro c hc d hd
    have hself : call.Before call := by
      cases call with
      | ingest t => exact fun _ ↦ le_refl _
      | sweep now => trivial
      | shutdown => trivial
      | flush other => trivial
      | flushStale other now => trivial
    exact before_of_mem_share (h.feeds call hcall) (h.feeds call hcall) hself hc hd
  · refine h.before.imp_of_mem ?_
    intro a b ha hb hbefore c hc d hd
    exact before_of_mem_share (h.feeds a ha) (h.feeds b hb) hbefore hc hd

/-- The flush at the end comes after all ticks. -/
theorem Orderly.pairwise_shares_shutdown (h : Orderly calls) (intervals : List Interval)
    (key : String × Interval) :
    ((calls ++ [Call.shutdown]).flatMap (Call.share intervals key)).Pairwise
      Aggregator.Call.Before := by
  rw [List.flatMap_append]
  refine List.pairwise_append.mpr ⟨h.pairwise_shares intervals key, List.pairwise_singleton _ _, ?_⟩
  intro c _ d hd
  rw [List.mem_singleton.mp hd]
  cases c <;> trivial

theorem ticksOf_append_shutdown (symbol : String) (calls : List Call) :
    ticksOf symbol (calls ++ [.shutdown]) = ticksOf symbol calls := by
  simp [ticksOf, Call.tick?]

/-- What is found after an orderly feed and a shutdown. -/
theorem Orderly.get?_store_iff (h : Orderly calls) (key : String × Interval)
    (hcount : intervals.count key.2 = 1) (bucket : Int) (c : Candle) :
    ((fresh intervals).run .none (calls ++ [.shutdown])).store.get?
        ⟨key.1, key.2.label, bucket⟩ = some c ↔
      c.SumsUp bucket
        ((ticksOf key.1 calls).filter fun t ↦ key.2.bucketStart t.second = bucket) := by
  obtain ⟨tr, _, hfollows, _, _, hstore⟩ :=
    exists_trace_run_fresh intervals (calls ++ [.shutdown]) key
  have horder := h.pairwise_shares_shutdown intervals key
  have hdone : ((Segmentation.empty : Segmentation key.2).run
      ((calls ++ [Call.shutdown]).flatMap (Call.share intervals key))).unfinished = none := by
    rw [List.flatMap_append, Segmentation.run_append]
    rfl
  have hticks : ((calls ++ [Call.shutdown]).flatMap (Call.share intervals key)).filterMap
      Aggregator.Call.tick? = ticksOf key.1 calls := by
    rw [filterMap_tick?_shares, hcount, ticksOf_append_shutdown]
    exact List.flatMap_singleton' _
  rw [← Store.get?_only_self, hstore, ← hticks,
    Store.get?_saveAll_empty_iff (Aggregator.Trace.nodup_bucketStart_emitted horder hfollows)]
  exact Aggregator.Trace.mem_emitted_iff horder hfollows hdone c bucket

theorem Orderly.dropped_eq_zero (h : Orderly calls) (intervals : List Interval)
    (key : String × Interval) :
    (((fresh intervals).run .none (calls ++ [.shutdown])).held key).dropped = 0 := by
  obtain ⟨tr, _, hfollows, _, hheld, _⟩ :=
    exists_trace_run_fresh intervals (calls ++ [.shutdown]) key
  rw [hheld, hfollows.dropped_eq,
    Segmentation.rejected_eq_nil (h.pairwise_shares_shutdown intervals key)]
  rfl

/-- The drops of an engine are those of its aggregators. -/
theorem droppedTicks_eq_zero {e : Engine} (h : ∀ key, (e.held key).dropped = 0) :
    e.droppedTicks = 0 := by
  have hvalues : ∀ a ∈ e.pool.values, a.dropped = 0 := by
    intro a ha
    obtain ⟨⟨key, _⟩, hentry, rfl⟩ := List.mem_map.mp ha
    have hkey := h key
    rw [held, Keyed.mem_entries_iff.mp hentry] at hkey
    exact hkey
  unfold droppedTicks
  generalize e.pool.values = values at hvalues
  induction values with
  | nil => rfl
  | cons a rest ih =>
      rw [List.foldl_cons, hvalues a List.mem_cons_self]
      exact ih fun b hb ↦ hvalues b (List.mem_cons_of_mem a hb)

/-- What is found after some saves was saved for a key or was there before. -/
theorem get?_storeLog {s : Store} {saved : List ((String × Interval) × Candle)} {found : CandleKey}
    {c : Candle} (h : (storeLog s saved).get? found = some c) :
    (∃ key : String × Interval, found = ⟨key.1, key.2.label, c.bucketStart⟩) ∨
      s.get? found = some c := by
  induction saved generalizing s with
  | nil => exact Or.inr h
  | cons entry rest ih =>
      rcases ih h with hlater | hnow
      · exact Or.inl hlater
      · rw [Store.get?_save] at hnow
        split at hnow
        · next heq =>
            cases hnow
            exact Or.inl ⟨entry.1, heq.symm⟩
        · exact Or.inr hnow

/-- After an orderly feed over the whole catalog and a shutdown the candle of a symbol, an interval
and a bucket is the summary of the ticks of the symbol in this bucket, and there is one exactly if
there are such ticks. No tick has been dropped, and no other candles are stored. -/
theorem run_orderly_stores_summaries {calls : List Call} (h : Orderly calls) :
    (∀ (s : String) (i : Interval) (bucket : Int) (c : Candle),
      ((fresh Interval.catalog).run .none (calls ++ [.shutdown])).store.get?
          ⟨s, i.label, bucket⟩ = some c ↔
        c.SumsUp bucket ((ticksOf s calls).filter fun t ↦ i.bucketStart t.second = bucket)) ∧
      (∀ found, (((fresh Interval.catalog).run .none
          (calls ++ [.shutdown])).store.get? found).isSome = true ↔
        ∃ (s : String) (i : Interval), ∃ t ∈ ticksOf s calls,
          found = ⟨s, i.label, i.bucketStart t.second⟩) ∧
      (∀ (s : String) (i : Interval), (((fresh Interval.catalog).run .none
        (calls ++ [.shutdown])).held (s, i)).dropped = 0) ∧
      ((fresh Interval.catalog).run .none (calls ++ [.shutdown])).droppedTicks = 0 := by
  have hfound : ∀ (s : String) (i : Interval) (bucket : Int) (c : Candle),
      ((fresh Interval.catalog).run .none (calls ++ [.shutdown])).store.get?
          ⟨s, i.label, bucket⟩ = some c ↔
        c.SumsUp bucket ((ticksOf s calls).filter fun t ↦ i.bucketStart t.second = bucket) := by
    intro s i bucket c
    have hcount : Interval.catalog.count i = 1 := by cases i <;> rfl
    exact h.get?_store_iff (s, i) hcount bucket c
  have hdropped := h.dropped_eq_zero Interval.catalog
  refine ⟨hfound, ?_, fun s i ↦ hdropped (s, i), droppedTicks_eq_zero hdropped⟩
  intro found
  constructor
  · intro hsome
    obtain ⟨c, hc⟩ := Option.isSome_iff_exists.mp hsome
    have hlog := hc
    rw [store_run] at hlog
    rcases get?_storeLog hlog with ⟨⟨s, i⟩, rfl⟩ | hempty
    · have hsum := (hfound s i c.bucketStart c).mp hc
      obtain ⟨t, ht⟩ := List.exists_mem_of_ne_nil _ hsum.ne_nil
      obtain ⟨hmem, hbucket⟩ := List.mem_filter.mp ht
      exact ⟨s, i, t, hmem, by rw [of_decide_eq_true hbucket]⟩
    · cases hempty
  · rintro ⟨s, i, t, ht, rfl⟩
    have hne : ((ticksOf s calls).filter fun u ↦
        i.bucketStart u.second = i.bucketStart t.second) ≠ [] :=
      List.ne_nil_of_mem (List.mem_filter.mpr ⟨ht, decide_eq_true rfl⟩)
    obtain ⟨c, hc⟩ := Candle.exists_sumsUp (Block.bucket_nonneg (.single t)) hne
    exact Option.isSome_iff_exists.mpr ⟨c, (hfound s i _ c).mpr hc⟩

/-- Two symbols, with sweeps in and between the minutes. -/
def quietMinutes : List Call :=
  [.ingest (.whole "A" 97 101 9500 (by decide +kernel)), .sweep 20,
    .ingest (.whole "B" 7 9 20500 (by decide +kernel)),
    .ingest (.whole "A" 100 104 59999 (by decide +kernel)), .sweep 60,
    .ingest (.whole "A" 98 100 60000 (by decide +kernel))]

/-- The first minute holds two ticks of one symbol. -/
theorem run_orderly_stores_summaries_quietMinutes :
    Orderly quietMinutes ∧
      (((ticksOf "A" quietMinutes).filter fun t ↦
        Interval.oneMinute.bucketStart t.second = 0).length = 2) ∧
      ∀ c, ((fresh Interval.catalog).run .none (quietMinutes ++ [.shutdown])).store.get?
          ⟨"A", Interval.oneMinute.label, 0⟩ = some c ↔
        c.SumsUp 0 ((ticksOf "A" quietMinutes).filter fun t ↦
          Interval.oneMinute.bucketStart t.second = 0) := by
  have horderly : Orderly quietMinutes := by decide +kernel
  exact ⟨horderly, by decide +kernel,
    fun c ↦ (run_orderly_stores_summaries horderly).1 "A" .oneMinute 0 c⟩

end Candlestick.Engine
