import Candlestick.Proofs.Aggregator.Due
import Candlestick.Proofs.Engine.Pool
import Candlestick.Proofs.Engine.Projection

/-!
# Sweeps and ticks in either order

A tick that is not older than the clock of a sweep belongs to a bucket that the sweep leaves alone.
Made right before or right after such a tick, the sweep adds nothing to what the tick does to an
aggregator (`step_stale_process`, `step_process_stale`): the candle that the one would complete is
completed by the other. Runs of an engine that ask the same of every aggregator, up to this, end
with the same aggregators and the same stored candles (`Sound.matches_run`). So among ticks that are
not older than its clock the moment of a sweep does not show.
-/

namespace Candlestick

/-! ## One aggregator -/

namespace Aggregator

variable {a : Aggregator} {t : Tick} {now : Int}

theorem answer_stale_of_le (h : ∀ c ∈ a.current, a.interval.bucketStart now ≤ c.bucketStart) :
    a.answer (.stale now) = .ok ⟨none, a⟩ := by
  cases hcurrent : a.current with
  | none => exact answer_of_current_none hcurrent rfl
  | some c =>
      have hle := h c hcurrent
      simp [answer, flushStale, hcurrent, hle, quietly]

theorem process_eq_complete {c : OpenCandle} (hcurrent : a.current = some c)
    (hended : c.bucketStart < a.interval.bucketStart t.second) :
    a.process t = a.complete c (some (.start (a.interval.bucketStart t.second) t.mid)) := by
  simp only [process, hcurrent, hended.ne', hended, if_false, if_true]

/-- After a tick nothing is open that began before the bucket of the tick. -/
theorem bucketStart_le_of_process {move : Move} (h : a.process t = .ok move) :
    move.next.interval = a.interval ∧
      ∀ c ∈ move.next.current, a.interval.bucketStart t.second ≤ c.bucketStart := by
  cases hcurrent : a.current with
  | none =>
      simp only [process, hcurrent, quietly, Except.ok.injEq] at h
      subst h
      exact ⟨rfl, fun c hc ↦ (congrArg OpenCandle.bucketStart (Option.some.inj hc)).le⟩
  | some o =>
      rcases lt_trichotomy (a.interval.bucketStart t.second) o.bucketStart with hlt | heq | hgt
      · have hnot : ¬ o.bucketStart < a.interval.bucketStart t.second := hlt.not_gt
        simp only [process, hcurrent, hlt.ne, hnot, if_false, quietly, Except.ok.injEq] at h
        subst h
        refine ⟨rfl, fun c hc ↦ ?_⟩
        obtain rfl : o = c := Option.some.inj hc
        exact hlt.le
      · simp only [process, hcurrent, heq, if_true, quietly, Except.ok.injEq] at h
        subst h
        refine ⟨rfl, fun c hc ↦ ?_⟩
        obtain rfl : o.add t.mid = c := Option.some.inj hc
        exact heq.le
      · rw [process_eq_complete hcurrent hgt, complete] at h
        cases hclose : o.close with
        | error fault =>
            rw [hclose] at h
            cases h
        | ok candle =>
            rw [hclose] at h
            cases h
            exact ⟨rfl, fun c hc ↦ (congrArg OpenCandle.bucketStart (Option.some.inj hc)).le⟩

namespace Trace

variable (tr : Trace)

theorem step_of_quiet {call : Call} (h : tr.state.answer call = .ok ⟨none, tr.state⟩) :
    tr.step call = .ok tr := by
  rw [step_of_answer h]
  simp

theorem step_process_stale (h : now ≤ t.second) :
    (tr.step (.process t) >>= fun reached ↦ reached.step (.stale now)) =
      tr.step (.process t) := by
  cases hmove : tr.state.process t with
  | error fault =>
      have hstep : tr.step (.process t) = .error fault := by
        rw [step, answer, hmove]
        rfl
      rw [hstep]
      rfl
  | ok move =>
      obtain ⟨hinterval, hopen⟩ := bucketStart_le_of_process hmove
      have hstep : tr.step (.process t) = _ := step_of_answer hmove
      have hquiet : move.next.answer (.stale now) = .ok ⟨none, move.next⟩ := by
        refine answer_stale_of_le fun c hc ↦ ?_
        rw [hinterval]
        exact (tr.state.interval.bucketStart_mono h).trans (hopen c hc)
      rw [hstep]
      exact step_of_quiet ⟨_, move.next⟩ hquiet

theorem step_stale_process (h : now ≤ t.second) :
    (tr.step (.stale now) >>= fun reached ↦ reached.step (.process t)) =
      tr.step (.process t) := by
  by_cases hquiet : ∀ c ∈ tr.state.current, tr.state.interval.bucketStart now ≤ c.bucketStart
  · rw [tr.step_of_quiet (answer_stale_of_le hquiet)]
    rfl
  · push Not at hquiet
    obtain ⟨c, (hcurrent : tr.state.current = some c), hended⟩ := hquiet
    -- The sweep completes the candle that the tick would complete before it opens the next one.
    have hprocess : tr.state.answer (.process t) = _ :=
      process_eq_complete hcurrent (hended.trans_le (tr.state.interval.bucketStart_mono h))
    have hstale : tr.state.answer (.stale now) = tr.state.complete c none := by
      simp only [answer, flushStale, hcurrent, hended.not_ge, if_false]
    rw [step, step, hprocess, hstale, complete, complete]
    cases c.close with
    | error fault => rfl
    | ok candle =>
        have hopened : (⟨tr.emitted ++ [candle], { tr.state with current := none }⟩ : Trace).step
            (.process t) = _ := step_of_answer rfl
        exact hopened.trans (by simp)

/-- A sweep can be made ahead of the ticks that are not older than its clock. -/
theorem run_append_stale {calls : List Call}
    (h : ∀ call ∈ calls, ∃ t : Tick, call = .process t ∧ now ≤ t.second) (rest : List Call) :
    tr.run (calls ++ .stale now :: rest) = tr.run (.stale now :: (calls ++ rest)) := by
  induction calls generalizing tr with
  | nil => rfl
  | cons call calls ih =>
      obtain ⟨⟨t, rfl, ht⟩, hcalls⟩ := List.forall_mem_cons.mp h
      calc
        tr.run (.process t :: (calls ++ .stale now :: rest)) =
            tr.step (.process t) >>= fun reached ↦ reached.run (.stale now :: (calls ++ rest)) :=
          bind_congr fun reached ↦ ih reached hcalls
        _ = (tr.step (.process t) >>= fun reached ↦ reached.step (.stale now)) >>=
            fun reached ↦ reached.run (calls ++ rest) := (bind_assoc _ _ _).symm
        _ = (tr.step (.stale now) >>= fun reached ↦ reached.step (.process t)) >>=
            fun reached ↦ reached.run (calls ++ rest) := by
          rw [tr.step_process_stale ht, tr.step_stale_process ht]
        _ = tr.run (.stale now :: .process t :: (calls ++ rest)) := bind_assoc _ _ _

end Trace

end Aggregator

namespace Engine

/-! ## Runs that ask the same of every aggregator -/

/-- Engines with the same aggregators, each in the same state, and the same stored candles. -/
structure Matches (e f : Engine) : Prop where
  intervals_eq : e.intervals = f.intervals
  pool_eq : ∀ key, e.pool.get? key = f.pool.get? key
  store_eq : ∀ found, e.store.get? found = f.store.get? found

/-- What is stored depends on the saves for each key and their order, not on how the saves for
different keys are interleaved. -/
theorem get?_storeLog_congr (s : Store) {saved others : List ((String × Interval) × Candle)}
    (h : ∀ key, savedAt key saved = savedAt key others) (found : CandleKey) :
    (storeLog s saved).get? found = (storeLog s others).get? found := by
  obtain ⟨symbol, label, start⟩ := found
  by_cases hlabel : ∃ i : Interval, i.label = label
  · obtain ⟨i, rfl⟩ := hlabel
    have honly : (storeLog s saved).only symbol i.label =
        (storeLog s others).only symbol i.label := by
      rw [only_storeLog (symbol, i), only_storeLog (symbol, i), h]
    rw [← Store.get?_only_self, honly, Store.get?_only_self]
  · have hother : ∀ entries : List ((String × Interval) × Candle), ∀ entry ∈ entries,
        Store.keyOf entry.1.1 entry.1.2.label entry.2 ≠ ⟨symbol, label, start⟩ :=
      fun _ entry _ heq ↦ hlabel ⟨entry.1.2, congrArg CandleKey.label heq⟩
    rw [get?_storeLog_of_forall_ne (hother saved), get?_storeLog_of_forall_ne (hother others)]

/-- Runs in which every aggregator comes to the same, with the same candles on the way, and that
create the same aggregators. -/
theorem Sound.matches_run {e : Engine} (h : e.Sound) {calls others : List Call}
    (hshares : ∀ key (tr : Aggregator.Trace), tr.run (calls.flatMap (Call.share e.intervals key)) =
      tr.run (others.flatMap (Call.share e.intervals key)))
    (hcreates : ∀ key, calls.any (Call.creates e.intervals key) =
      others.any (Call.creates e.intervals key)) :
    (e.run .none calls).Matches (e.run .none others) := by
  have hsame : ∀ key, savedAt key (log .none e calls) = savedAt key (log .none e others) ∧
      (e.run .none calls).held key = (e.run .none others).held key := by
    intro key
    have hstate : (⟨[], e.held key⟩ : Aggregator.Trace).state = e.held key := rfl
    have hrun := h.trace_run hstate calls
    rw [hshares, h.trace_run hstate others] at hrun
    have htrace := Except.ok.inj hrun
    simpa using (Aggregator.Trace.mk.inj htrace.symm)
  refine ⟨?_, ?_, ?_⟩
  · rw [intervals_run, intervals_run]
  · intro key
    have hkeys : key ∈ (e.run .none calls).pool.keys ↔ key ∈ (e.run .none others).pool.keys := by
      rw [h.mem_keys_run, h.mem_keys_run, hcreates]
    have hcalls : (e.run .none calls).pool.get? key = _ := aggregator?_eq_ite _ key
    have hothers : (e.run .none others).pool.get? key = _ := aggregator?_eq_ite _ key
    rw [hcalls, hothers, (hsame key).2]
    simp only [hkeys]
  · intro found
    rw [store_run, store_run]
    exact get?_storeLog_congr e.store (fun key ↦ (hsame key).1) found

theorem Sound.sweep_returns {e : Engine} (h : e.Sound) (now : Int) :
    ∃ completed, e.sweep .none now = ((e.perform .none (.sweep now)).1, .ok completed) := by
  have hreturns := h.perform_returns (.sweep now)
  cases hresult : (e.sweep .none now).2 with
  | error fault =>
      rw [Engine.perform, Prod.map_snd, hresult] at hreturns
      cases hreturns
  | ok completed => exact ⟨completed, Prod.ext rfl hresult⟩

/-! ## One sweep among ticks -/

section Sweep

variable {ticks before after : List Tick} {now : Int}

/-- Ticks before a sweep and ticks after it. -/
def Call.around (before : List Tick) (now : Int) (after : List Tick) : List Call :=
  before.map .ingest ++ .sweep now :: after.map .ingest

/-- Of ticks an aggregator is asked nothing but to take them in. -/
theorem eq_process_of_mem_shares {intervals : List Interval} {key : String × Interval}
    {c : Aggregator.Call} (hc : c ∈ (ticks.map Call.ingest).flatMap (Call.share intervals key)) :
    ∃ t ∈ ticks, c = .process t := by
  obtain ⟨call, hcall, hshare⟩ := List.mem_flatMap.mp hc
  obtain ⟨t, ht, rfl⟩ := List.mem_map.mp hcall
  rw [Call.share] at hshare
  split at hshare
  · exact ⟨t, ht, List.eq_of_mem_replicate hshare⟩
  · cases hshare

theorem flatMap_share_around (intervals : List Interval) (key : String × Interval) :
    (Call.around before now after).flatMap (Call.share intervals key) =
      (before.map Call.ingest).flatMap (Call.share intervals key) ++
        .stale now :: (after.map Call.ingest).flatMap (Call.share intervals key) := by
  simp [Call.around, Call.share]

theorem any_creates_around (intervals : List Interval) (key : String × Interval) :
    (Call.around before now after).any (Call.creates intervals key) =
      ((before ++ after).map Call.ingest).any (Call.creates intervals key) := by
  simp [Call.around, Call.creates]

/-- For no aggregator does it matter which of the ticks come before the sweep. -/
theorem run_share_around (h : ∀ t ∈ before, now ≤ t.second) (intervals : List Interval)
    (key : String × Interval) (tr : Aggregator.Trace) :
    tr.run ((Call.around before now after).flatMap (Call.share intervals key)) =
      tr.run ((Call.around [] now (before ++ after)).flatMap (Call.share intervals key)) := by
  rw [flatMap_share_around, flatMap_share_around, List.map_append, List.flatMap_append]
  refine tr.run_append_stale ?_ _
  intro c hc
  obtain ⟨t, ht, rfl⟩ := eq_process_of_mem_shares hc
  exact ⟨t, rfl, h t ht⟩

theorem Sound.matches_around {e : Engine} (h : e.Sound) {earlier later : List Tick}
    (heq : before ++ after = earlier ++ later) (hbefore : ∀ t ∈ before, now ≤ t.second)
    (hearlier : ∀ t ∈ earlier, now ≤ t.second) :
    (e.run .none (Call.around before now after)).Matches
      (e.run .none (Call.around earlier now later)) := by
  apply h.matches_run
  · intro key tr
    rw [run_share_around hbefore, run_share_around hearlier, heq]
  · intro key
    rw [any_creates_around, any_creates_around, heq]

/-- A sweep commutes with a tick that is not older than its clock: in either order both calls
return, and the same aggregators in the same states and the same stored candles come out. So among
any ticks that are not older than its clock a sweep may be made at any moment. -/
theorem sweep_commutes {e : Engine} (h : e.Reachable) (now : Int) :
    (∀ t : Tick, now ≤ t.second →
      ∃ taken swept swept' taken' count count',
        e.ingest .none t = (taken, .ok ()) ∧ taken.sweep .none now = (swept, .ok count) ∧
        e.sweep .none now = (swept', .ok count') ∧ swept'.ingest .none t = (taken', .ok ()) ∧
        swept.Matches taken') ∧
    ∀ before after earlier later : List Tick, before ++ after = earlier ++ later →
      (∀ t ∈ before ++ after, now ≤ t.second) →
      (e.run .none (Call.around before now after)).Matches
        (e.run .none (Call.around earlier now later)) := by
  have hsound := h.sound
  constructor
  · intro t ht
    have htaken := hsound.perform_returns (.ingest t)
    obtain ⟨count, hswept⟩ := (hsound.perform .none (.ingest t)).sweep_returns now
    obtain ⟨count', hswept'⟩ := hsound.sweep_returns now
    have htaken' := (hsound.perform .none (.sweep now)).perform_returns (.ingest t)
    have hmatches : (e.run .none (Call.around [t] now [])).Matches
        (e.run .none (Call.around [] now [t])) :=
      hsound.matches_around rfl (List.forall_mem_singleton.mpr ht) (List.forall_mem_nil _)
    exact ⟨_, _, _, _, count, count', Prod.ext rfl htaken, hswept, hswept', Prod.ext rfl htaken',
      hmatches⟩
  · intro before after earlier later heq hticks
    refine hsound.matches_around heq (fun t ht ↦ hticks t (List.mem_append_left _ ht)) ?_
    intro t ht
    rw [heq] at hticks
    exact hticks t (List.mem_append_left _ ht)

/-- A symbol with a minute and five minutes open, and a late tick dropped. -/
def lateTick : Engine :=
  (fresh [.oneMinute, .fiveMinutes]).run .none
    [.ingest (.whole "A" 61 63 299000 (by decide +kernel)),
      .ingest (.whole "A" 33 35 181000 (by decide +kernel))]

/-- Both candles are completed by whichever comes first, the sweep or the tick. -/
theorem sweep_commutes_lateTick :
    lateTick.Reachable ∧ (lateTick.sweep .none 300).2 = .ok 2 ∧
      (lateTick.run .none (Call.around [.whole "A" 71 73 301000 (by decide +kernel)] 300
        [.whole "B" 15 17 300500 (by decide +kernel)])).Matches
        (lateTick.run .none (Call.around [] 300 [.whole "A" 71 73 301000 (by decide +kernel),
          .whole "B" 15 17 300500 (by decide +kernel)])) := by
  have hreachable : lateTick.Reachable := (Reachable.fresh _).run .none _
  have hticks : ∀ t ∈ [Tick.whole "A" 71 73 301000 (by decide +kernel),
      .whole "B" 15 17 300500 (by decide +kernel)], (300 : Int) ≤ t.second := by
    decide +kernel
  exact ⟨hreachable, by decide +kernel,
    (sweep_commutes hreachable 300).2 [_] [_] [] [_, _] rfl hticks⟩

end Sweep

end Engine

end Candlestick
