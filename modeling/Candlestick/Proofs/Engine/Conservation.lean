import Candlestick.Proofs.Engine.Projection

/-!
# Where the ticks of a symbol are

Every tick is offered to the aggregator of each listed interval, and there it ends up in a candle
or is dropped. A completed candle is stored, but it need not stay: once it has been completed its
bucket may be opened again by a late tick, and the candle that comes of this takes its place. What
is missing from the store is exactly what was taken out in this way (`overwritten`).
-/

namespace Candlestick.Engine

/-- The stored candles of a key that were taken out by later ones in a run of a fresh engine. -/
def overwritten (intervals : List Interval) (calls : List Call) (key : String × Interval) :
    List Candle :=
  Store.replaced key.1 key.2.label .empty (savedAt key (log .none (fresh intervals) calls))

variable {intervals : List Interval} {calls : List Call} {key : String × Interval}

/-- A candle that was taken out had been saved. -/
theorem mem_savedAt_of_mem_overwritten {c : Candle} (h : c ∈ overwritten intervals calls key) :
    c ∈ savedAt key (log .none (fresh intervals) calls) := by
  have hperm := Store.values_saveAll_perm key.1 key.2.label .empty
    (savedAt key (log .none (fresh intervals) calls))
  have hmem := hperm.mem_iff.mp (List.mem_append_right _ h)
  rcases List.mem_append.mp hmem with hempty | hsaved
  · cases hempty
  · exact hsaved

/-- A saved candle has at least one tick. -/
theorem volume_pos_of_mem_savedAt {c : Candle}
    (h : c ∈ savedAt key (log .none (fresh intervals) calls)) : 0 < c.volume := by
  obtain ⟨tr, _, hfollows, hemitted, _⟩ := exists_trace_run_fresh intervals calls key
  rw [← hemitted] at h
  obtain ⟨block, _, hsum⟩ := Aggregator.Trace.exists_mem_of_forall₂ hfollows.emitted h
  exact hsum.volume_pos

theorem sum_overwritten_eq_zero_iff :
    ((overwritten intervals calls key).map Candle.volume).sum = 0 ↔
      ((savedAt key (log .none (fresh intervals) calls)).map Candle.bucketStart).Nodup := by
  have hnil : overwritten intervals calls key = [] ↔
      ((savedAt key (log .none (fresh intervals) calls)).map Candle.bucketStart).Nodup := by
    rw [overwritten, Store.replaced_eq_nil_iff]
    exact and_iff_left fun _ _ ↦ Store.get?_empty _
  rw [← hnil]
  constructor
  · intro hsum
    by_contra hne
    have hpos : 0 < ((overwritten intervals calls key).map Candle.volume).sum := by
      refine List.sum_pos _ ?_ (fun h ↦ hne (List.map_eq_nil_iff.mp h))
      intro volume hvolume
      obtain ⟨c, hc, rfl⟩ := List.mem_map.mp hvolume
      exact volume_pos_of_mem_savedAt (mem_savedAt_of_mem_overwritten hc)
    omega
  · intro h
    rw [h]
    rfl

theorem length_flatMap_replicate {α : Type} (n : Nat) (l : List α) :
    (l.flatMap (List.replicate n)).length = n * l.length := by
  simp [List.length_flatMap, mul_comm]

/-- The account of one key. A tick counts as often as its interval is listed. -/
theorem count_mul_ticks_eq (intervals : List Interval) (calls : List Call)
    (key : String × Interval) :
    ((intervals.count key.2 * (ticksOf key.1 calls).length : Nat) : Int) =
      ((fresh intervals).run .none calls).store.volume key.1 key.2.label +
        (((fresh intervals).run .none calls).held key).openTicks +
        (((fresh intervals).run .none calls).held key).dropped +
        ((overwritten intervals calls key).map Candle.volume).sum := by
  obtain ⟨tr, _, hfollows, hemitted, hheld, hstore⟩ := exists_trace_run_fresh intervals calls key
  have hticks := (Segmentation.run_empty_perm (i := key.2)
    (calls.flatMap (Call.share intervals key))).length_eq
  rw [filterMap_tick?_shares, length_flatMap_replicate] at hticks
  have haccount := hfollows.conservation
  have hvolume := Store.volume_add_replaced hstore
  rw [hticks, hemitted] at haccount
  rw [hemitted] at hvolume
  rw [hheld, overwritten]
  omega

/-- Every tick of a symbol is in a stored candle, in the open one, among the drops, or in a candle
that was taken out of the store again when its bucket was completed once more. The last happens
exactly if some bucket is completed twice. -/
theorem length_ticksOf_eq (hintervals : intervals.Nodup) {i : Interval} (hi : i ∈ intervals)
    (calls : List Call) (s : String) :
    ((ticksOf s calls).length : Int) =
        ((fresh intervals).run .none calls).store.volume s i.label +
          (((fresh intervals).run .none calls).held (s, i)).openTicks +
          (((fresh intervals).run .none calls).held (s, i)).dropped +
          ((overwritten intervals calls (s, i)).map Candle.volume).sum ∧
      (((ticksOf s calls).length : Int) =
          ((fresh intervals).run .none calls).store.volume s i.label +
            (((fresh intervals).run .none calls).held (s, i)).openTicks +
            (((fresh intervals).run .none calls).held (s, i)).dropped ↔
        ((savedAt (s, i) (log .none (fresh intervals) calls)).map Candle.bucketStart).Nodup) := by
  have haccount := count_mul_ticks_eq intervals calls (s, i)
  rw [List.count_eq_one_of_mem hintervals hi, one_mul] at haccount
  dsimp only at haccount
  refine ⟨haccount, ?_⟩
  rw [← sum_overwritten_eq_zero_iff]
  constructor
  · intro hfull
    omega
  · intro hnone
    omega

/-- A minute is swept out and then opened again by a tick that comes late. -/
def reopening : List Call :=
  [.ingest (.whole "A" 99 101 10000 (by decide +kernel)), .sweep 65,
    .ingest (.whole "A" 100 102 20000 (by decide +kernel)), .shutdown]

/-- Of the two ticks only the second is left in the store. -/
theorem length_ticksOf_ne_of_reopening :
    [Interval.oneMinute].Nodup ∧ Interval.oneMinute ∈ [Interval.oneMinute] ∧
      ((ticksOf "A" reopening).length : Int) ≠
        ((fresh [.oneMinute]).run .none reopening).store.volume "A" "1m" +
          (((fresh [.oneMinute]).run .none reopening).held ("A", .oneMinute)).openTicks +
          (((fresh [.oneMinute]).run .none reopening).held ("A", .oneMinute)).dropped := by
  decide +kernel

/-- The first tick is in the candle that was taken out. -/
theorem length_ticksOf_eq_reopening :
    [Interval.oneMinute].Nodup ∧ Interval.oneMinute ∈ [Interval.oneMinute] ∧
      ((overwritten [.oneMinute] reopening ("A", .oneMinute)).map Candle.volume).sum = 1 ∧
      ((ticksOf "A" reopening).length : Int) =
        ((fresh [.oneMinute]).run .none reopening).store.volume "A" "1m" +
          (((fresh [.oneMinute]).run .none reopening).held ("A", .oneMinute)).openTicks +
          (((fresh [.oneMinute]).run .none reopening).held ("A", .oneMinute)).dropped +
          ((overwritten [.oneMinute] reopening ("A", .oneMinute)).map Candle.volume).sum := by
  have hnodup : [Interval.oneMinute].Nodup := by decide
  have hmem : Interval.oneMinute ∈ [Interval.oneMinute] := by decide
  exact ⟨hnodup, hmem, by decide +kernel, (length_ticksOf_eq hnodup hmem reopening "A").1⟩

end Candlestick.Engine
