import Candlestick.Proofs.Aggregator.Trace
import Candlestick.Proofs.Candle.Summary
import Candlestick.Proofs.Interval.Alignment
import Mathlib

/-!
# Cutting the past of an aggregator into blocks

What an aggregator should hand over is said without candles. The ticks taken in so far fall into
blocks, each of one bucket. A tick is accepted when there is no unfinished block or when its own
bucket is not before that of the unfinished block; a newer bucket cuts a block off, and so do the
end of the bucket and a flush. A rejected tick cuts nothing.

Cutting neither loses nor reorders ticks: the accepted ones are those of the blocks, one block
after the other, and together with the rejected ones they are all that came in
(`accepted_append_rejected_perm`).
-/

namespace Candlestick

/-- Ticks of one bucket in the order of their arrival. -/
structure Block (i : Interval) where
  first : Tick
  rest : List Tick
  same : ∀ t ∈ rest, i.bucketStart t.second = i.bucketStart first.second
deriving DecidableEq

namespace Block

variable {i : Interval}

def bucket (b : Block i) : Int :=
  i.bucketStart b.first.second

def ticks (b : Block i) : List Tick :=
  b.first :: b.rest

def single (t : Tick) : Block i :=
  ⟨t, [], by simp⟩

def extend (b : Block i) (t : Tick) (h : i.bucketStart t.second = b.bucket) : Block i where
  first := b.first
  rest := b.rest ++ [t]
  same := by
    intro u hu
    rcases List.mem_append.mp hu with hold | hnew
    · exact b.same u hold
    · rw [List.mem_singleton.mp hnew]
      exact h

@[simp] theorem bucket_single (t : Tick) : (single t : Block i).bucket = i.bucketStart t.second :=
  rfl

@[simp] theorem ticks_single (t : Tick) : (single t : Block i).ticks = [t] :=
  rfl

@[simp] theorem bucket_extend (b : Block i) (t : Tick) (h : i.bucketStart t.second = b.bucket) :
    (b.extend t h).bucket = b.bucket :=
  rfl

@[simp] theorem ticks_extend (b : Block i) (t : Tick) (h : i.bucketStart t.second = b.bucket) :
    (b.extend t h).ticks = b.ticks ++ [t] :=
  rfl

theorem bucket_of_mem {b : Block i} {t : Tick} (h : t ∈ b.ticks) :
    i.bucketStart t.second = b.bucket := by
  rcases List.mem_cons.mp h with rfl | hrest
  · rfl
  · exact b.same t hrest

theorem bucket_nonneg (b : Block i) : 0 ≤ b.bucket := by
  have hpos := b.first.timestamp_pos
  refine i.bucketStart_nonneg ?_
  unfold Tick.second
  omega

end Block

/-- The blocks that have been cut off, oldest first, the one that has not, and the ticks that
were rejected. -/
structure Segmentation (i : Interval) where
  finished : List (Block i)
  unfinished : Option (Block i)
  rejected : List Tick
deriving DecidableEq

namespace Segmentation

variable {i : Interval}

def empty : Segmentation i :=
  ⟨[], none, []⟩

def Accepts (s : Segmentation i) (t : Tick) : Prop :=
  ∀ b ∈ s.unfinished, b.bucket ≤ i.bucketStart t.second

instance (s : Segmentation i) (t : Tick) : Decidable (s.Accepts t) := by
  unfold Accepts
  infer_instance

/-- Finishes the unfinished block. -/
def cut (s : Segmentation i) : Segmentation i :=
  ⟨s.finished ++ s.unfinished.toList, none, s.rejected⟩

/-- Adds an accepted tick to the unfinished block if it is of the same bucket, and starts a block
with it otherwise. -/
def accept (s : Segmentation i) (t : Tick) : Segmentation i :=
  match s.unfinished with
  | none => { s with unfinished := some (.single t) }
  | some b =>
    if h : i.bucketStart t.second = b.bucket then { s with unfinished := some (b.extend t h) }
    else { s.cut with unfinished := some (.single t) }

def reject (s : Segmentation i) (t : Tick) : Segmentation i :=
  { s with rejected := s.rejected ++ [t] }

/-- Finishes the unfinished block if its bucket has ended at the given second. -/
def expire (s : Segmentation i) (now : Int) : Segmentation i :=
  if ∃ b ∈ s.unfinished, b.bucket + i.seconds ≤ now then s.cut else s

def step (s : Segmentation i) : Aggregator.Call → Segmentation i
  | .process t => if s.Accepts t then s.accept t else s.reject t
  | .stale now => s.expire now
  | .flush => s.cut

def run (s : Segmentation i) (calls : List Aggregator.Call) : Segmentation i :=
  calls.foldl step s

/-- All blocks, the unfinished one last. -/
def blocks (s : Segmentation i) : List (Block i) :=
  s.finished ++ s.unfinished.toList

def accepted (s : Segmentation i) : List Tick :=
  s.blocks.flatMap Block.ticks

@[simp] theorem run_nil (s : Segmentation i) : s.run [] = s :=
  rfl

@[simp] theorem run_cons (s : Segmentation i) (call : Aggregator.Call)
    (rest : List Aggregator.Call) : s.run (call :: rest) = (s.step call).run rest :=
  rfl

theorem run_append (s : Segmentation i) (calls rest : List Aggregator.Call) :
    s.run (calls ++ rest) = (s.run calls).run rest :=
  List.foldl_append

/-! ### What a tick does, by its bucket -/

section Process

variable {s : Segmentation i} {b : Block i} {t : Tick}

theorem step_process_of_none (hs : s.unfinished = none) :
    s.step (.process t) = { s with unfinished := some (.single t) } := by
  simp [step, accept, Accepts, hs]

theorem step_process_of_same (hs : s.unfinished = some b)
    (h : i.bucketStart t.second = b.bucket) :
    s.step (.process t) = { s with unfinished := some (b.extend t h) } := by
  simp [step, accept, Accepts, hs, h]

theorem step_process_of_newer (hs : s.unfinished = some b)
    (h : b.bucket < i.bucketStart t.second) :
    s.step (.process t) = ⟨s.finished ++ [b], some (.single t), s.rejected⟩ := by
  simp [step, accept, Accepts, cut, hs, h.le, h.ne']

theorem step_process_of_older (hs : s.unfinished = some b)
    (h : i.bucketStart t.second < b.bucket) :
    s.step (.process t) = { s with rejected := s.rejected ++ [t] } := by
  simp [step, Accepts, reject, hs, h]

end Process

/-! ### Counting ticks -/

@[simp] theorem blocks_cut (s : Segmentation i) : s.cut.blocks = s.blocks := by
  simp [cut, blocks]

@[simp] theorem accepted_cut (s : Segmentation i) : s.cut.accepted = s.accepted := by
  rw [accepted, blocks_cut]
  rfl

theorem accepted_accept (s : Segmentation i) (t : Tick) :
    (s.accept t).accepted = s.accepted ++ [t] := by
  unfold accept
  split
  · next hnone => simp [accepted, blocks, hnone]
  · next b hsome =>
      split
      · simp [accepted, blocks, hsome]
      · simp [accepted, blocks, cut, hsome]

theorem rejected_accept (s : Segmentation i) (t : Tick) :
    (s.accept t).rejected = s.rejected := by
  unfold accept
  split
  · rfl
  · split <;> rfl

/-- A tick is accepted or rejected, and other calls only move the unfinished block. -/
theorem step_cases (s : Segmentation i) (call : Aggregator.Call) :
    (∃ t, call.tick? = some t ∧ (s.step call).accepted = s.accepted ++ [t] ∧
      (s.step call).rejected = s.rejected) ∨
    (∃ t, call.tick? = some t ∧ (s.step call).accepted = s.accepted ∧
      (s.step call).rejected = s.rejected ++ [t]) ∨
    (call.tick? = none ∧ (s.step call).accepted = s.accepted ∧
      (s.step call).rejected = s.rejected) := by
  cases call with
  | process t =>
      by_cases h : s.Accepts t
      · have hstep : s.step (.process t) = s.accept t := if_pos h
        rw [hstep]
        exact Or.inl ⟨t, rfl, s.accepted_accept t, s.rejected_accept t⟩
      · have hstep : s.step (.process t) = s.reject t := if_neg h
        rw [hstep]
        exact Or.inr (Or.inl ⟨t, rfl, rfl, rfl⟩)
  | stale now =>
      have hstep : s.step (.stale now) = s.cut ∨ s.step (.stale now) = s := ite_eq_or_eq _ _ _
      rcases hstep with h | h
      · rw [h]
        exact Or.inr (Or.inr ⟨rfl, s.accepted_cut, rfl⟩)
      · rw [h]
        exact Or.inr (Or.inr ⟨rfl, rfl, rfl⟩)
  | flush => exact Or.inr (Or.inr ⟨rfl, s.accepted_cut, rfl⟩)

theorem step_perm (s : Segmentation i) (call : Aggregator.Call) :
    ((s.step call).accepted ++ (s.step call).rejected).Perm
      (s.accepted ++ s.rejected ++ call.tick?.toList) := by
  rcases s.step_cases call with ⟨t, ht, ha, hr⟩ | ⟨t, ht, ha, hr⟩ | ⟨ht, ha, hr⟩
  · rw [ht, ha, hr, List.append_assoc, List.append_assoc]
    exact List.perm_append_comm.append_left _
  · rw [ht, ha, hr, List.append_assoc]
    exact List.Perm.refl _
  · rw [ht, ha, hr, Option.toList_none, List.append_nil]

/-- No tick is lost and none is counted twice. -/
theorem accepted_append_rejected_perm (s : Segmentation i) (calls : List Aggregator.Call) :
    ((s.run calls).accepted ++ (s.run calls).rejected).Perm
      (s.accepted ++ s.rejected ++ calls.filterMap Aggregator.Call.tick?) := by
  induction calls generalizing s with
  | nil => simp
  | cons call calls ih =>
      rw [run_cons, Aggregator.Call.filterMap_tick?_cons, ← List.append_assoc]
      exact (ih (s.step call)).trans ((s.step_perm call).append_right _)

/-- What has come in since the beginning was accepted or rejected. -/
theorem run_empty_perm (calls : List Aggregator.Call) :
    (((empty : Segmentation i).run calls).accepted ++
      ((empty : Segmentation i).run calls).rejected).Perm
        (calls.filterMap Aggregator.Call.tick?) :=
  accepted_append_rejected_perm empty calls

theorem step_sublist (s : Segmentation i) (call : Aggregator.Call) :
    (s.step call).accepted.Sublist (s.accepted ++ call.tick?.toList) := by
  rcases s.step_cases call with ⟨t, ht, ha, _⟩ | ⟨t, _, ha, _⟩ | ⟨_, ha, _⟩
  · rw [ht, ha]
    exact List.Sublist.refl _
  · rw [ha]
    exact List.sublist_append_left _ _
  · rw [ha]
    exact List.sublist_append_left _ _

/-- The accepted ticks stay in the order of their arrival. -/
theorem accepted_sublist (s : Segmentation i) (calls : List Aggregator.Call) :
    (s.run calls).accepted.Sublist
      (s.accepted ++ calls.filterMap Aggregator.Call.tick?) := by
  induction calls generalizing s with
  | nil => simp
  | cons call calls ih =>
      rw [run_cons, Aggregator.Call.filterMap_tick?_cons, ← List.append_assoc]
      exact (ih (s.step call)).trans ((s.step_sublist call).append (List.Sublist.refl _))

/-- If no tick was rejected then the accepted ones are all, in the order of their arrival. -/
theorem accepted_run_empty {calls : List Aggregator.Call}
    (h : ((empty : Segmentation i).run calls).rejected = []) :
    ((empty : Segmentation i).run calls).accepted = calls.filterMap Aggregator.Call.tick? := by
  have hperm := run_empty_perm (i := i) calls
  rw [h, List.append_nil] at hperm
  exact (accepted_sublist empty calls).eq_of_length hperm.length_eq

end Segmentation

end Candlestick
