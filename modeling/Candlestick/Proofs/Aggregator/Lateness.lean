import Candlestick.Proofs.Aggregator.Segmentation

/-!
# Which ticks are late

An aggregator compares a tick with its open bucket and remembers nothing else. If nothing but ticks
come in, the open bucket is that of the largest timestamp so far (`peaks_run`), so that a tick is
dropped exactly when its bucket lies before that one. A bucket of a long interval is a function of
the bucket of a short one; a tick that is late for the long interval is late for the short one, too.
-/

namespace Candlestick

/-- The bucket of the tick lies before that of the largest timestamp among the earlier ticks. -/
def Tick.IsLate (i : Interval) (earlier : List Tick) (t : Tick) : Prop :=
  ∃ latest ∈ (earlier.map Tick.timestamp).max?,
    i.bucketStart t.second < i.bucketStart (latest / 1000)

instance (i : Interval) (earlier : List Tick) (t : Tick) : Decidable (t.IsLate i earlier) := by
  unfold Tick.IsLate
  infer_instance

namespace Tick

variable {i : Interval} {earlier : List Tick} {t : Tick}

theorem exists_max?_timestamp {u : Tick} (hu : u ∈ earlier) :
    ∃ latest ∈ (earlier.map timestamp).max?, u.timestamp ≤ latest := by
  cases hmax : (earlier.map timestamp).max? with
  | none =>
      have hnil : earlier = [] := List.map_eq_nil_iff.mp (List.max?_eq_none_iff.mp hmax)
      rw [hnil] at hu
      cases hu
  | some latest =>
      refine ⟨latest, rfl, ?_⟩
      exact (List.max?_eq_some_iff.mp hmax).2 _ (List.mem_map_of_mem hu)

/-- It does not matter which of the earlier ticks is ahead of the bucket. -/
theorem isLate_iff_exists :
    t.IsLate i earlier ↔ ∃ u ∈ earlier, i.bucketStart t.second < i.bucketStart u.second := by
  constructor
  · rintro ⟨latest, hlatest, hlt⟩
    obtain ⟨u, hu, rfl⟩ := List.mem_map.mp (List.max?_eq_some_iff.mp hlatest).1
    exact ⟨u, hu, hlt⟩
  · rintro ⟨u, hu, hlt⟩
    obtain ⟨latest, hlatest, hle⟩ := exists_max?_timestamp hu
    refine ⟨latest, hlatest, hlt.trans_le ?_⟩
    apply i.bucketStart_mono
    exact Int.ediv_le_ediv (by decide) hle

/-- What is late for a long interval is late for a short one. -/
theorem IsLate.of_seconds_lt {f g : Interval} (h : f.seconds < g.seconds)
    (hlate : t.IsLate g earlier) : t.IsLate f earlier := by
  obtain ⟨u, hu, hlt⟩ := isLate_iff_exists.mp hlate
  refine isLate_iff_exists.mpr ⟨u, hu, ?_⟩
  by_contra hnot
  have hmono := g.bucketStart_mono (not_lt.mp hnot)
  rw [Interval.bucketStart_bucketStart h, Interval.bucketStart_bucketStart h] at hmono
  exact hlt.not_ge hmono

end Tick

namespace Segmentation

variable {i : Interval} {s : Segmentation i} {ticks : List Tick}

/-- The unfinished block lies where the ticks so far have got to, the finished ones before it. -/
structure Peaks (s : Segmentation i) (ticks : List Tick) : Prop where
  increasing : s.blocks.Pairwise fun a b ↦ a.bucket < b.bucket
  le_unfinished : ∀ t ∈ ticks, ∃ b ∈ s.unfinished, i.bucketStart t.second ≤ b.bucket
  attained : ∀ b ∈ s.unfinished, ∃ t ∈ ticks, i.bucketStart t.second = b.bucket
  finished_eq_nil : s.unfinished = none → s.finished = []

theorem peaks_empty : (empty : Segmentation i).Peaks [] where
  increasing := .nil
  le_unfinished := by
    intro t ht
    cases ht
  attained := by
    intro b hb
    cases hb
  finished_eq_nil := fun _ ↦ rfl

theorem Peaks.accepts_iff (h : s.Peaks ticks) (t : Tick) : s.Accepts t ↔ ¬ t.IsLate i ticks := by
  rw [Tick.isLate_iff_exists]
  constructor
  · rintro haccepts ⟨u, hu, hlt⟩
    obtain ⟨b, hb, hle⟩ := h.le_unfinished u hu
    exact (hlt.trans_le hle).not_ge (haccepts b hb)
  · intro hnone b hb
    obtain ⟨u, hu, hbucket⟩ := h.attained b hb
    by_contra hnot
    refine hnone ⟨u, hu, ?_⟩
    rw [hbucket]
    exact not_le.mp hnot

/-- A block that is not behind the unfinished one becomes the unfinished one. -/
theorem Peaks.advance {next : Segmentation i} {b : Block i} {t : Tick} (h : s.Peaks ticks)
    (hunfinished : next.unfinished = some b) (hbucket : i.bucketStart t.second = b.bucket)
    (hincreasing : next.blocks.Pairwise fun a b ↦ a.bucket < b.bucket)
    (hle : ∀ c ∈ s.unfinished, c.bucket ≤ b.bucket) : next.Peaks (ticks ++ [t]) where
  increasing := hincreasing
  le_unfinished := by
    intro u hu
    refine ⟨b, hunfinished, ?_⟩
    rcases List.mem_append.mp hu with hold | hnew
    · obtain ⟨c, hc, huc⟩ := h.le_unfinished u hold
      exact huc.trans (hle c hc)
    · rw [List.mem_singleton.mp hnew]
      exact hbucket.le
  attained := by
    intro c hc
    rw [hunfinished] at hc
    cases hc
    exact ⟨t, List.mem_append_right _ List.mem_cons_self, hbucket⟩
  finished_eq_nil := by
    intro hnone
    rw [hunfinished] at hnone
    cases hnone

theorem Peaks.process (h : s.Peaks ticks) (t : Tick) :
    (s.step (.process t)).Peaks (ticks ++ [t]) := by
  have hblocks := h.increasing
  cases hs : s.unfinished with
  | none =>
      rw [step_process_of_none hs]
      refine h.advance (b := .single t) rfl rfl ?_ ?_
      · rw [blocks, h.finished_eq_nil hs]
        exact List.pairwise_singleton _ _
      · intro c hc
        rw [hs] at hc
        cases hc
  | some b =>
      rw [blocks, hs] at hblocks
      obtain ⟨hfinished, _, hbefore⟩ := List.pairwise_append.mp hblocks
      rcases lt_trichotomy (i.bucketStart t.second) b.bucket with hlt | heq | hgt
      · -- A late tick is noted and nothing else changes.
        rw [step_process_of_older hs hlt]
        refine ⟨h.increasing, ?_, ?_, h.finished_eq_nil⟩
        · intro u hu
          rcases List.mem_append.mp hu with hold | hnew
          · exact h.le_unfinished u hold
          · rw [List.mem_singleton.mp hnew]
            exact ⟨b, hs, hlt.le⟩
        · intro c hc
          obtain ⟨u, hu, hbucket⟩ := h.attained c hc
          exact ⟨u, List.mem_append_left _ hu, hbucket⟩
      · rw [step_process_of_same hs heq]
        refine h.advance (b := b.extend t heq) rfl heq ?_ ?_
        · refine List.pairwise_append.mpr ⟨hfinished, List.pairwise_singleton _ _, ?_⟩
          intro a ha c hc
          cases Option.mem_toList.mp hc
          exact hbefore a ha b List.mem_cons_self
        · intro c hc
          rw [hs] at hc
          cases hc
          exact le_rfl
      · rw [step_process_of_newer hs hgt]
        refine h.advance (b := .single t) rfl rfl ?_ ?_
        · refine List.pairwise_append.mpr ⟨hblocks, List.pairwise_singleton _ _, ?_⟩
          intro a ha c hc
          cases Option.mem_toList.mp hc
          rcases List.mem_append.mp ha with hold | hnew
          · exact (hbefore a hold b List.mem_cons_self).trans hgt
          · cases List.mem_singleton.mp hnew
            exact hgt
        · intro c hc
          rw [hs] at hc
          cases hc
          exact hgt.le

theorem peaks_run (i : Interval) (ticks : List Tick) :
    ((empty : Segmentation i).run (ticks.map .process)).Peaks ticks := by
  induction ticks using List.reverseRecOn with
  | nil => exact peaks_empty
  | append_singleton earlier t ih =>
      rw [List.map_append, run_append]
      exact ih.process t

/-- A late tick is rejected, any other is not. -/
theorem rejected_run_concat (i : Interval) (earlier : List Tick) (t : Tick) :
    ((empty : Segmentation i).run ((earlier ++ [t]).map .process)).rejected =
      ((empty : Segmentation i).run (earlier.map .process)).rejected ++
        if t.IsLate i earlier then [t] else [] := by
  have haccepts := (peaks_run i earlier).accepts_iff t
  rw [List.map_append, run_append, List.map_singleton, run_cons, run_nil, step]
  by_cases hlate : t.IsLate i earlier
  · rw [if_neg fun h ↦ haccepts.mp h hlate, if_pos hlate]
    rfl
  · rw [if_pos (haccepts.mpr hlate), if_neg hlate, rejected_accept, List.append_nil]

end Segmentation

end Candlestick
