import Candlestick.Proofs.Aggregator.Simulation

/-!
# Aggregators whose ticks come in order

When ticks come in the order of their seconds, when none comes from before a moment at which the
end of buckets was looked for, and none after a flush, then nothing is rejected and the buckets of
the blocks increase strictly. Each bucket is then completed at most once, and its block holds all
of its ticks, so that the candles of a finished run are the summaries of the ticks bucket by
bucket (`mem_emitted_iff`).
-/

namespace Candlestick

variable {i : Interval}

/-- What may follow a call in an orderly run, no matter what comes between. -/
def Aggregator.Call.Before : Aggregator.Call → Aggregator.Call → Prop
  | .process t, .process u => t.second ≤ u.second
  | .stale now, .process u => now ≤ u.second
  | .flush, .process _ => False
  | _, _ => True

namespace Segmentation

/-- The buckets so far increase and lie before those of the ticks to come; only the unfinished
block may still be added to. -/
structure InOrder (s : Segmentation i) (rest : List Aggregator.Call) : Prop where
  increasing : s.blocks.Pairwise fun a b ↦ a.bucket < b.bucket
  rejected_eq : s.rejected = []
  finished_lt : ∀ t, .process t ∈ rest → ∀ b ∈ s.finished, b.bucket < i.bucketStart t.second
  unfinished_le : ∀ t, .process t ∈ rest → ∀ b ∈ s.unfinished, b.bucket ≤ i.bucketStart t.second

theorem inOrder_empty (calls : List Aggregator.Call) : (empty : Segmentation i).InOrder calls where
  increasing := .nil
  rejected_eq := rfl
  finished_lt := by
    intro t _ b hb
    cases hb
  unfinished_le := by
    intro t _ b hb
    cases hb

theorem InOrder.tail {s : Segmentation i} {call : Aggregator.Call} {rest : List Aggregator.Call}
    (h : s.InOrder (call :: rest)) : s.InOrder rest where
  increasing := h.increasing
  rejected_eq := h.rejected_eq
  finished_lt := fun t ht ↦ h.finished_lt t (List.mem_cons_of_mem call ht)
  unfinished_le := fun t ht ↦ h.unfinished_le t (List.mem_cons_of_mem call ht)

/-- A block can be cut off when all ticks to come lie beyond it. -/
theorem InOrder.cut {s : Segmentation i} {rest : List Aggregator.Call} (h : s.InOrder rest)
    (hended : ∀ t, .process t ∈ rest → ∀ b ∈ s.unfinished, b.bucket < i.bucketStart t.second) :
    s.cut.InOrder rest where
  increasing := by
    rw [blocks_cut]
    exact h.increasing
  rejected_eq := h.rejected_eq
  finished_lt := by
    intro t ht b hb
    rcases List.mem_append.mp hb with hold | hnew
    · exact h.finished_lt t ht b hold
    · exact hended t ht b (Option.mem_toList.mp hnew)
  unfinished_le := by
    intro t _ b hb
    cases hb

/-- A block can be started by a tick that lies beyond all others. -/
theorem InOrder.start {s : Segmentation i} {rest : List Aggregator.Call} (h : s.InOrder rest)
    (hnone : s.unfinished = none) {t : Tick}
    (hbeyond : ∀ b ∈ s.finished, b.bucket < i.bucketStart t.second)
    (hlater : ∀ u, .process u ∈ rest → t.second ≤ u.second) :
    ({ s with unfinished := some (.single t) } : Segmentation i).InOrder rest where
  increasing := by
    have hfinished := h.increasing
    rw [blocks, hnone] at hfinished
    refine List.pairwise_append.mpr ⟨?_, List.pairwise_singleton _ _, ?_⟩
    · simpa using hfinished
    · intro a ha b hb
      cases Option.mem_toList.mp hb
      exact hbeyond a ha
  rejected_eq := h.rejected_eq
  finished_lt := h.finished_lt
  unfinished_le := by
    intro u hu b hb
    cases hb
    exact i.bucketStart_mono (hlater u hu)

theorem InOrder.process {s : Segmentation i} {t : Tick} {rest : List Aggregator.Call}
    (h : s.InOrder (.process t :: rest)) (hlater : ∀ u, .process u ∈ rest → t.second ≤ u.second) :
    (s.step (.process t)).InOrder rest := by
  have hfinished := h.finished_lt t List.mem_cons_self
  cases hs : s.unfinished with
  | none =>
      rw [step_process_of_none hs]
      exact h.tail.start hs hfinished hlater
  | some b =>
      have hle : b.bucket ≤ i.bucketStart t.second := h.unfinished_le t List.mem_cons_self b hs
      rcases eq_or_lt_of_le hle with heq | hlt
      · rw [step_process_of_same hs heq.symm]
        -- The block has grown, its bucket is the same.
        refine ⟨?_, h.rejected_eq, h.tail.finished_lt, ?_⟩
        · have hblocks := h.increasing
          rw [blocks, hs] at hblocks
          obtain ⟨hold, _, hcross⟩ := List.pairwise_append.mp hblocks
          refine List.pairwise_append.mpr ⟨hold, List.pairwise_singleton _ _, ?_⟩
          intro a ha c hc
          cases Option.mem_toList.mp hc
          exact hcross a ha b (by simp)
        · intro u hu c hc
          cases hc
          exact h.tail.unfinished_le u hu b hs
      · rw [step_process_of_newer hs hlt]
        have hcut : s.cut.InOrder rest := by
          refine h.tail.cut ?_
          intro u hu c hc
          rw [hs] at hc
          cases hc
          exact hlt.trans_le (i.bucketStart_mono (hlater u hu))
        have hstart := hcut.start rfl (t := t) ?_ hlater
        · simpa [Segmentation.cut, hs] using hstart
        · intro c hc
          rcases List.mem_append.mp hc with hold | hnew
          · exact hfinished c hold
          · rw [hs] at hnew
            rw [List.mem_singleton.mp hnew]
            exact hlt

theorem InOrder.step {s : Segmentation i} {call : Aggregator.Call} {rest : List Aggregator.Call}
    (h : s.InOrder (call :: rest)) (hbefore : ∀ later ∈ rest, call.Before later) :
    (s.step call).InOrder rest := by
  cases call with
  | process t => exact h.process fun u hu ↦ hbefore _ hu
  | stale now =>
      by_cases hstale : ∃ b ∈ s.unfinished, b.bucket + i.seconds ≤ now
      · rw [show s.step (.stale now) = s.cut from if_pos hstale]
        obtain ⟨b, hb, hended⟩ := hstale
        refine h.tail.cut ?_
        intro t ht c hc
        rw [Option.mem_unique hc hb]
        -- The tick is not from before `now`, hence from after the end of the block.
        have hnow : now ≤ t.second := hbefore _ ht
        have hend := i.lt_bucketStart_add t.second
        omega
      · rw [show s.step (.stale now) = s from if_neg hstale]
        exact h.tail
  | flush =>
      refine h.tail.cut ?_
      intro t ht
      exact (hbefore _ ht).elim

/-- In an orderly run the buckets of the blocks increase and no tick is rejected. -/
theorem run_inOrder {s : Segmentation i} {calls : List Aggregator.Call} (h : s.InOrder calls)
    (hcalls : calls.Pairwise Aggregator.Call.Before) : (s.run calls).InOrder [] := by
  induction calls generalizing s with
  | nil => exact h
  | cons call rest ih =>
      obtain ⟨hbefore, hrest⟩ := List.pairwise_cons.mp hcalls
      exact ih (h.step hbefore) hrest

theorem blocks_increasing {calls : List Aggregator.Call}
    (hcalls : calls.Pairwise Aggregator.Call.Before) :
    ((empty : Segmentation i).run calls).blocks.Pairwise fun a b ↦ a.bucket < b.bucket :=
  (run_inOrder (inOrder_empty calls) hcalls).increasing

theorem rejected_eq_nil {calls : List Aggregator.Call}
    (hcalls : calls.Pairwise Aggregator.Call.Before) :
    ((empty : Segmentation i).run calls).rejected = [] :=
  (run_inOrder (inOrder_empty calls) hcalls).rejected_eq

end Segmentation

theorem Block.filter_ticks (b : Block i) (bucket : Int) :
    (b.ticks.filter fun t ↦ i.bucketStart t.second = bucket) =
      if b.bucket = bucket then b.ticks else [] := by
  split
  · next h =>
      refine List.filter_eq_self.mpr ?_
      intro t ht
      exact decide_eq_true ((Block.bucket_of_mem ht).trans h)
  · next h =>
      refine List.filter_eq_nil_iff.mpr ?_
      intro t ht hbucket
      exact h ((Block.bucket_of_mem ht).symm.trans (of_decide_eq_true hbucket))

/-- Of blocks with increasing buckets each holds all ticks of its bucket. -/
theorem ticks_eq_filter {blocks : List (Block i)}
    (h : blocks.Pairwise fun a b ↦ a.bucket < b.bucket) {b : Block i} (hb : b ∈ blocks) :
    b.ticks = (blocks.flatMap Block.ticks).filter fun t ↦ i.bucketStart t.second = b.bucket := by
  induction blocks with
  | nil => cases hb
  | cons c rest ih =>
      obtain ⟨hlt, hrest⟩ := List.pairwise_cons.mp h
      rw [List.flatMap_cons, List.filter_append, c.filter_ticks]
      rcases List.mem_cons.mp hb with rfl | hmem
      · have hnone : ((rest.flatMap Block.ticks).filter fun t ↦
            i.bucketStart t.second = b.bucket) = [] := by
          refine List.filter_eq_nil_iff.mpr ?_
          intro t ht hbucket
          obtain ⟨d, hd, htd⟩ := List.mem_flatMap.mp ht
          have hsame := (Block.bucket_of_mem htd).symm.trans (of_decide_eq_true hbucket)
          exact absurd hsame (hlt d hd).ne'
        rw [if_pos rfl, hnone, List.append_nil]
      · rw [if_neg (hlt b hmem).ne, List.nil_append]
        exact ih hrest hmem

namespace Aggregator.Trace

variable {tr : Trace} {calls : List Call}

theorem map_bucketStart_of_forall₂ {candles : List Candle} {blocks : List (Block i)}
    (h : List.Forall₂ (fun (c : Candle) b ↦ c.SumsUp b.bucket b.ticks) candles blocks) :
    candles.map Candle.bucketStart = blocks.map Block.bucket := by
  induction h with
  | nil => rfl
  | cons hsum _ ih => rw [List.map_cons, List.map_cons, hsum.bucketStart_eq, ih]

/-- No bucket is completed twice in an orderly run. -/
theorem nodup_bucketStart_emitted (hcalls : calls.Pairwise Call.Before)
    (h : tr.Follows ((Segmentation.empty : Segmentation i).run calls)) :
    (tr.emitted.map Candle.bucketStart).Nodup := by
  have hincreasing := Segmentation.blocks_increasing (i := i) hcalls
  rw [map_bucketStart_of_forall₂ h.emitted]
  refine (List.pairwise_map.mpr ?_ : List.Pairwise _ _)
  exact (List.pairwise_append.mp hincreasing).1.imp fun hlt ↦ hlt.ne

/-- The candles of an orderly run that leaves nothing open are the summaries of all ticks, bucket
by bucket. -/
theorem mem_emitted_iff (hcalls : calls.Pairwise Call.Before)
    (h : tr.Follows ((Segmentation.empty : Segmentation i).run calls))
    (hdone : ((Segmentation.empty : Segmentation i).run calls).unfinished = none)
    (c : Candle) (bucket : Int) :
    c ∈ tr.emitted ∧ c.bucketStart = bucket ↔
      c.SumsUp bucket
        ((calls.filterMap Call.tick?).filter fun t ↦ i.bucketStart t.second = bucket) := by
  have hincreasing := Segmentation.blocks_increasing (i := i) hcalls
  have haccepted := Segmentation.accepted_run_empty (Segmentation.rejected_eq_nil (i := i) hcalls)
  rw [Segmentation.blocks, hdone, Option.toList_none, List.append_nil] at hincreasing
  rw [Segmentation.accepted, Segmentation.blocks, hdone, Option.toList_none,
    List.append_nil] at haccepted
  rw [← haccepted]
  constructor
  · rintro ⟨hc, rfl⟩
    obtain ⟨b, hb, hsum⟩ := exists_mem_of_forall₂ h.emitted hc
    rw [hsum.bucketStart_eq, ← ticks_eq_filter hincreasing hb]
    exact hsum
  · intro hsum
    obtain ⟨t, ht⟩ := List.exists_mem_of_ne_nil _ hsum.ne_nil
    obtain ⟨hmem, hbucket⟩ := List.mem_filter.mp ht
    obtain ⟨b, hb, htb⟩ := List.mem_flatMap.mp hmem
    obtain rfl : b.bucket = bucket :=
      (Block.bucket_of_mem htb).symm.trans (of_decide_eq_true hbucket)
    obtain ⟨d, hd, hd_sum⟩ := exists_mem_of_forall₂ h.emitted.flip hb
    rw [← ticks_eq_filter hincreasing hb] at hsum
    rw [hsum.unique hd_sum]
    exact ⟨hd, hd_sum.bucketStart_eq⟩

end Aggregator.Trace

end Candlestick
