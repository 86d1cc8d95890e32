import Candlestick.Proofs.Candle.RollUp
import Candlestick.Proofs.Engine.InOrder
import Candlestick.Proofs.Store.Query

/-!
# Agreement of the timeframes

The aggregators of a symbol know nothing of each other. After an orderly feed and a shutdown each
of them has the ticks of every bucket in one candle, and the short buckets within a long one cut
its ticks into pieces (`Orderly.flatMap_query`). So the candle of a longer timeframe is what the
candles of a shorter one make together.
-/

namespace Candlestick.Engine

variable {calls : List Call} {symbol : String}

theorem filed_storeLog {s : Store} (h : s.Filed) (saved : List ((String × Interval) × Candle)) :
    (storeLog s saved).Filed := by
  induction saved generalizing s with
  | nil => exact h
  | cons entry rest ih => exact ih (h.save entry.1.1 entry.1.2.label entry.2)

theorem filed_run (refuses : Refusals) {e : Engine} (h : e.store.Filed) (calls : List Call) :
    (e.run refuses calls).store.Filed := by
  rw [store_run]
  exact filed_storeLog h _

/-- The store after a feed over the whole catalog and a shutdown. -/
def closingStore (calls : List Call) : Store :=
  ((fresh Interval.catalog).run .none (calls ++ [.shutdown])).store

def ticksIn (symbol : String) (i : Interval) (bucket : Int) (calls : List Call) : List Tick :=
  (ticksOf symbol calls).filter fun t ↦ i.bucketStart t.second = bucket

theorem mem_ticksIn {i : Interval} {bucket : Int} {t : Tick} :
    t ∈ ticksIn symbol i bucket calls ↔
      t ∈ ticksOf symbol calls ∧ i.bucketStart t.second = bucket := by
  simp [ticksIn]

theorem filed_closingStore (calls : List Call) : (closingStore calls).Filed :=
  filed_run .none Store.filed_empty _

namespace Orderly

theorem pairwise_ticksOf (h : Orderly calls) (symbol : String) :
    (ticksOf symbol calls).Pairwise fun t u ↦ t.second ≤ u.second := by
  have hall : (calls.filterMap Call.tick?).Pairwise
      fun t u ↦ t.symbol = u.symbol → t.timestamp ≤ u.timestamp := by
    refine List.pairwise_filterMap.mpr (h.before.imp ?_)
    intro a b hbefore t ht u hu
    rw [eq_ingest_of_tick? ht, eq_ingest_of_tick? hu] at hbefore
    exact hbefore
  refine (hall.filter _).imp_of_mem ?_
  intro t u ht hu hle
  have hts : t.symbol = symbol := of_decide_eq_true (List.mem_filter.mp ht).2
  have hus : u.symbol = symbol := of_decide_eq_true (List.mem_filter.mp hu).2
  exact second_mono (hle (hts.trans hus.symm))

theorem get?_closingStore_iff (h : Orderly calls) (symbol : String) (i : Interval) (bucket : Int)
    (c : Candle) :
    (closingStore calls).get? ⟨symbol, i.label, bucket⟩ = some c ↔
      c.SumsUp bucket (ticksIn symbol i bucket calls) := by
  have hcount : Interval.catalog.count i = 1 := by cases i <;> rfl
  exact h.get?_store_iff (symbol, i) hcount bucket c

theorem exists_stored (h : Orderly calls) {t : Tick} (ht : t ∈ ticksOf symbol calls)
    (i : Interval) :
    ∃ c, (closingStore calls).get? ⟨symbol, i.label, i.bucketStart t.second⟩ = some c := by
  obtain ⟨c, hc⟩ := Candle.exists_sumsUp (Block.bucket_nonneg (.single t))
    (List.ne_nil_of_mem (mem_ticksIn.mpr ⟨ht, rfl⟩))
  exact ⟨c, (h.get?_closingStore_iff symbol i _ c).mpr hc⟩

theorem exists_tick (h : Orderly calls) {i : Interval} {bucket : Int} {c : Candle}
    (hc : (closingStore calls).get? ⟨symbol, i.label, bucket⟩ = some c) :
    ∃ t ∈ ticksOf symbol calls, i.bucketStart t.second = bucket := by
  have hsum := (h.get?_closingStore_iff symbol i bucket c).mp hc
  obtain ⟨t, ht⟩ := List.exists_mem_of_ne_nil _ hsum.ne_nil
  exact ⟨t, mem_ticksIn.mp ht⟩

variable {f g : Interval}

/-- The short candles within a long bucket hold the ticks of this bucket, piece by piece. -/
theorem flatMap_query (h : Orderly calls) (hfg : f.seconds < g.seconds) (x : Int) :
    (((closingStore calls).query symbol f.label (g.bucketStart x)
        (g.bucketStart x + g.seconds - 1)).flatMap
          fun d ↦ ticksIn symbol f d.bucketStart calls) =
      ticksIn symbol g (g.bucketStart x) calls := by
  set parts := (closingStore calls).query symbol f.label (g.bucketStart x)
    (g.bucketStart x + g.seconds - 1) with hparts
  have hsorted : (ticksIn symbol g (g.bucketStart x) calls).Pairwise
      fun t u ↦ f.bucketStart t.second ≤ f.bucketStart u.second :=
    ((h.pairwise_ticksOf symbol).filter _).imp fun hle ↦ f.bucketStart_mono hle
  have hgroups : (parts.map Candle.bucketStart).Pairwise (· < ·) :=
    List.pairwise_map.mpr ((filed_closingStore calls).pairwise_query _ _ _ _)
  have hcovered : ∀ t ∈ ticksIn symbol g (g.bucketStart x) calls,
      f.bucketStart t.second ∈ parts.map Candle.bucketStart := by
    intro t ht
    obtain ⟨hmem, hbucket⟩ := mem_ticksIn.mp ht
    obtain ⟨d, hd⟩ := h.exists_stored hmem f
    rw [← Interval.bucketStart_bucketStart hfg] at hbucket
    obtain ⟨hfirst, hlast⟩ := (g.bucketStart_eq_iff _ _).mp hbucket
    have hquery : d ∈ parts :=
      (Store.mem_query_iff d).mpr ⟨_, hfirst, Int.le_sub_one_of_lt hlast, hd⟩
    exact List.mem_map.mpr ⟨d, hquery, filed_closingStore calls _ d hd⟩
  rw [← flatMap_filter_eq_self hgroups hsorted hcovered, List.flatMap_map]
  refine List.flatMap_congr ?_
  intro d hd
  obtain ⟨start, hfirst, hlast, hfound⟩ := (Store.mem_query_iff d).mp hd
  obtain rfl : d.bucketStart = start := filed_closingStore calls _ d hfound
  have hsame : g.bucketStart d.bucketStart = g.bucketStart x :=
    (g.bucketStart_eq_iff _ _).mpr ⟨hfirst, Int.lt_of_le_sub_one hlast⟩
  -- A tick of the short bucket is one of the long bucket already.
  rw [ticksIn, ticksIn, List.filter_filter]
  refine List.filter_congr ?_
  intro t _
  have hlong : f.bucketStart t.second = d.bucketStart →
      g.bucketStart t.second = g.bucketStart x := by
    intro hshort
    rw [← Interval.bucketStart_bucketStart hfg, hshort, hsame]
  simpa using hlong

theorem rollsUp_query (h : Orderly calls) (hfg : f.seconds < g.seconds) {bucket : Int} {c : Candle}
    (hc : (closingStore calls).get? ⟨symbol, g.label, bucket⟩ = some c) :
    c.RollsUp ((closingStore calls).query symbol f.label bucket (bucket + g.seconds - 1)) := by
  have hsum := (h.get?_closingStore_iff symbol g bucket c).mp hc
  obtain ⟨t, _, rfl⟩ := h.exists_tick hc
  rw [← h.flatMap_query hfg] at hsum
  refine hsum.rollsUp fun d hd ↦ ?_
  obtain ⟨start, _, _, hfound⟩ := (Store.mem_query_iff d).mp hd
  obtain rfl : d.bucketStart = start := filed_closingStore calls _ d hfound
  exact (h.get?_closingStore_iff symbol f _ d).mp hfound

theorem existsUnique_bucket (h : Orderly calls) (hfg : f.seconds < g.seconds) {start : Int}
    {d : Candle} (hd : (closingStore calls).get? ⟨symbol, f.label, start⟩ = some d) :
    ∃! bucket, ((closingStore calls).get? ⟨symbol, g.label, bucket⟩).isSome = true ∧
      bucket ≤ start ∧ start < bucket + g.seconds := by
  obtain ⟨t, ht, rfl⟩ := h.exists_tick hd
  obtain ⟨c, hc⟩ := h.exists_stored ht g
  refine ⟨g.bucketStart t.second, ⟨Option.isSome_iff_exists.mpr ⟨c, hc⟩,
    (g.bucketStart_eq_iff _ _).mp (Interval.bucketStart_bucketStart hfg t.second)⟩, ?_⟩
  rintro other ⟨hother, hrange⟩
  obtain ⟨c', hc'⟩ := Option.isSome_iff_exists.mp hother
  obtain ⟨u, _, rfl⟩ := h.exists_tick hc'
  rw [← (g.bucketStart_eq_iff _ _).mpr hrange, Interval.bucketStart_bucketStart hfg]

end Orderly

/-- After an orderly feed and a shutdown every stored candle of a longer timeframe opens, ranges,
closes and counts as the stored candles of a shorter timeframe within its bucket do together, and
there are such candles. Every stored candle of the shorter timeframe lies within exactly one stored
candle of the longer. -/
theorem timeframes_agree_of_orderly {calls : List Call} (h : Orderly calls) {f g : Interval}
    (hfg : f.seconds < g.seconds) (symbol : String) :
    (∀ bucket c, (closingStore calls).get? ⟨symbol, g.label, bucket⟩ = some c →
      c.bucketStart = bucket ∧
        (closingStore calls).query symbol f.label bucket (bucket + g.seconds - 1) ≠ [] ∧
        c.RollsUp
          ((closingStore calls).query symbol f.label bucket (bucket + g.seconds - 1))) ∧
      ∀ start d, (closingStore calls).get? ⟨symbol, f.label, start⟩ = some d →
        d.bucketStart = start ∧
          ∃! bucket, ((closingStore calls).get? ⟨symbol, g.label, bucket⟩).isSome = true ∧
            bucket ≤ start ∧ start < bucket + g.seconds := by
  have hfiled := filed_closingStore calls
  constructor
  · intro bucket c hc
    have hrolls := h.rollsUp_query hfg hc
    exact ⟨hfiled _ c hc, hrolls.ne_nil, hrolls⟩
  · intro start d hd
    exact ⟨hfiled _ d hd, h.existsUnique_bucket hfg hd⟩

/-- The first five minutes of a quiet feed hold two minutes with ticks. -/
theorem timeframes_agree_of_orderly_quietMinutes :
    Orderly quietMinutes ∧ Interval.oneMinute.seconds < Interval.fiveMinutes.seconds ∧
      ((closingStore quietMinutes).query "A" Interval.oneMinute.label 0 299).length = 2 ∧
      ∃ c, (closingStore quietMinutes).get? ⟨"A", Interval.fiveMinutes.label, 0⟩ = some c ∧
        c.volume = 3 ∧
        c.RollsUp ((closingStore quietMinutes).query "A" Interval.oneMinute.label 0 299) := by
  have horderly : Orderly quietMinutes := by decide +kernel
  have hlt : Interval.oneMinute.seconds < Interval.fiveMinutes.seconds := by decide
  have hfound : (((closingStore quietMinutes).get? ⟨"A", Interval.fiveMinutes.label, 0⟩).map
      Candle.volume) = some 3 := by decide +kernel
  obtain ⟨c, hc, hvolume⟩ := Option.map_eq_some_iff.mp hfound
  exact ⟨horderly, hlt, by decide +kernel, c, hc, hvolume,
    ((timeframes_agree_of_orderly horderly hlt "A").1 0 c hc).2.2⟩

end Candlestick.Engine
