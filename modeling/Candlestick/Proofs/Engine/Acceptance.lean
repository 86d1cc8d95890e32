import Candlestick.Proofs.Engine.Interruption
import Candlestick.Proofs.Engine.Projection

/-!
# What has been taken in when saves are refused

A tick whose call returns has been taken in by the aggregator of every listed interval. One whose
call ended with a fault may have been taken in by some of them. Seen from one key, the saved
candles, the open one and the drops account for all ticks of the first kind and for nothing besides
but ticks of the second (`exists_account`).
-/

namespace Candlestick.Engine

def carriedOutIn (refuses : Refusals) : Engine → List Call → List Visit
  | _, [] => []
  | e, call :: rest =>
    carriedOut refuses (e.visits call) e ++ carriedOutIn refuses (e.perform refuses call).1 rest

/-- The calls of a run that returned, or those that ended with a fault. -/
def ended (returned : Bool) (refuses : Refusals) : Engine → List Call → List Call
  | _, [] => []
  | e, call :: rest =>
    (if (e.perform refuses call).2.isOk = returned then [call] else []) ++
      ended returned refuses (e.perform refuses call).1 rest

variable {refuses : Refusals} {e : Engine} {key : String × Interval}

theorem ticksOf_append (symbol : String) (calls rest : List Call) :
    ticksOf symbol (calls ++ rest) = ticksOf symbol calls ++ ticksOf symbol rest := by
  rw [ticksOf, List.filterMap_append, List.filter_append]
  rfl

theorem ticksOf_ingest (symbol : String) (t : Tick) :
    ticksOf symbol [.ingest t] = if t.symbol = symbol then [t] else [] := by
  by_cases h : t.symbol = symbol <;> simp [ticksOf, Call.tick?, h]

theorem asked_append (key : String × Interval) (visits rest : List Visit) :
    asked key (visits ++ rest) = asked key visits ++ asked key rest := by
  rw [asked, List.filter_append, List.map_append]
  rfl

theorem carriedOut_sublist (refuses : Refusals) (visits : List Visit) (e : Engine) :
    (carriedOut refuses visits e).Sublist visits := by
  induction visits generalizing e with
  | nil => exact List.Sublist.refl _
  | cons v rest ih =>
      cases hattend : e.attend refuses v with
      | mk reached result =>
          cases result with
          | error fault =>
              rw [carriedOut_cons_error hattend]
              exact List.nil_sublist _
          | ok candle =>
              rw [carriedOut_cons_ok hattend]
              exact (ih reached).cons_cons v

/-! ## One call -/

theorem tick?_of_mem_visits {call : Call} {v : Visit} (hcall : call.tick? = none)
    (hv : v ∈ e.visits call) : v.call.tick? = none := by
  cases call with
  | ingest t => cases hcall
  | sweep now =>
      obtain ⟨_, _, rfl⟩ := List.mem_map.mp hv
      rfl
  | shutdown =>
      obtain ⟨_, _, rfl⟩ := List.mem_map.mp hv
      rfl
  | flush other =>
      rw [visits] at hv
      split at hv
      · rw [List.mem_singleton.mp hv]
        rfl
      · cases hv
  | flushStale other now =>
      rw [visits] at hv
      split at hv
      · rw [List.mem_singleton.mp hv]
        rfl
      · cases hv

theorem filterMap_tick?_asked (e : Engine) (key : String × Interval) (call : Call) :
    (asked key (e.visits call)).filterMap Aggregator.Call.tick? =
      (ticksOf key.1 [call]).flatMap (List.replicate (e.intervals.count key.2)) := by
  cases hcall : call.tick? with
  | some t =>
      cases call with
      | ingest t => rw [asked_ingest, filterMap_tick?_share]
      | sweep now => cases hcall
      | shutdown => cases hcall
      | flush other => cases hcall
      | flushStale other now => cases hcall
  | none =>
      have hticks : ticksOf key.1 [call] = [] := by
        simp [ticksOf, hcall]
      rw [hticks]
      refine List.filterMap_eq_nil_iff.mpr ?_
      intro c hc
      obtain ⟨v, hv, rfl⟩ := List.mem_map.mp hc
      exact tick?_of_mem_visits hcall (List.mem_filter.mp hv).1

theorem fault_eq_none_of_isOk {call : Call} (h : (e.perform refuses call).2.isOk = true) :
    (attendAll refuses (e.visits call) e).fault? = none := by
  rw [perform_eq_attendAll, Outcome.result] at h
  cases hfault : (attendAll refuses (e.visits call) e).fault? with
  | none => rfl
  | some fault =>
      rw [hfault] at h
      cases h

/-! ## Runs -/

theorem ended_append (returned : Bool) (refuses : Refusals) (e : Engine) (calls rest : List Call) :
    ended returned refuses e (calls ++ rest) =
      ended returned refuses e calls ++ ended returned refuses (e.run refuses calls) rest := by
  induction calls generalizing e with
  | nil => rfl
  | cons call others ih =>
      rw [List.cons_append, ended, ended, ih, List.append_assoc]
      rfl

theorem ended_ingest_ok {e : Engine} {t : Tick} (h : (e.ingest refuses t).2 = .ok ()) :
    ended true refuses e [.ingest t] = [.ingest t] := by
  rw [ended, perform, h]
  rfl

theorem ended_ingest_error {e : Engine} {t : Tick} {fault : Fault}
    (h : (e.ingest refuses t).2 = .error fault) : ended true refuses e [.ingest t] = [] := by
  rw [ended, perform, h]
  rfl

theorem Sound.trace_carriedOutIn (h : e.Sound) (refuses : Refusals) {tr : Aggregator.Trace}
    (hstate : tr.state = e.held key) (calls : List Call) :
    tr.run (asked key (carriedOutIn refuses e calls)) =
      .ok ⟨tr.emitted ++ savedAt key (log refuses e calls), (e.run refuses calls).held key⟩ := by
  induction calls generalizing e tr with
  | nil =>
      obtain ⟨emitted, state⟩ := tr
      obtain rfl : state = e.held key := hstate
      simp [carriedOutIn, asked, log, savedAt]
  | cons call rest ih =>
      have hnow := h.trace_carriedOut refuses hstate (e.visits call)
      rw [carriedOutIn, asked_append, Aggregator.Trace.run_append hnow, log, run_cons,
        savedAt_append, ← List.append_assoc, engine_perform]
      exact ih (h.attendAll refuses _) rfl

/-- What the aggregator of a key has taken in: every tick whose call returned, as often as the
interval is listed, and no more than that of those whose call did not. -/
theorem exists_others (refuses : Refusals) (e : Engine) (key : String × Interval)
    (calls : List Call) :
    ∃ others : List Tick,
      ((asked key (carriedOutIn refuses e calls)).filterMap Aggregator.Call.tick?).Perm
        ((ticksOf key.1 (ended true refuses e calls)).flatMap
          (List.replicate (e.intervals.count key.2)) ++ others) ∧
      others.Sublist ((ticksOf key.1 (ended false refuses e calls)).flatMap
        (List.replicate (e.intervals.count key.2))) := by
  induction calls generalizing e with
  | nil => exact ⟨[], List.Perm.refl _, List.Sublist.refl _⟩
  | cons call rest ih =>
      obtain ⟨others, hperm, hsub⟩ := ih (e.perform refuses call).1
      have hnow := filterMap_tick?_asked e key call
      rw [intervals_perform] at hperm hsub
      rw [carriedOutIn, asked_append, List.filterMap_append, ended, ended]
      cases hok : (e.perform refuses call).2.isOk with
      | true =>
          have hall := carriedOut_eq_self (fault_eq_none_of_isOk hok)
          refine ⟨others, ?_, ?_⟩
          · rw [if_pos rfl, ticksOf_append, List.flatMap_append, hall, hnow, List.append_assoc]
            exact hperm.append_left _
          · rw [if_neg (by simp), List.nil_append]
            exact hsub
      | false =>
          -- What has been done of the call before the fault is some of what it had to do.
          have hpart : ((asked key (carriedOut refuses (e.visits call) e)).filterMap
              Aggregator.Call.tick?).Sublist ((ticksOf key.1 [call]).flatMap
                (List.replicate (e.intervals.count key.2))) := by
            rw [← hnow]
            exact (((carriedOut_sublist refuses _ e).filter _).map _).filterMap _
          refine ⟨(asked key (carriedOut refuses (e.visits call) e)).filterMap
            Aggregator.Call.tick? ++ others, ?_, ?_⟩
          · rw [if_neg (by simp), List.nil_append]
            refine (hperm.append_left _).trans ?_
            rw [← List.append_assoc, ← List.append_assoc]
            exact List.perm_append_comm.append_right _
          · rw [if_pos rfl, ticksOf_append, List.flatMap_append]
            exact hpart.append hsub

/-- The account of one key in a run with refusals. -/
theorem exists_account (intervals : List Interval) (refuses : Refusals) (calls : List Call)
    (key : String × Interval) :
    ∃ (blocks : List (Block key.2)) (unfinished : Option (Block key.2))
        (rejected others : List Tick),
      List.Forall₂ (fun (c : Candle) b ↦ c.SumsUp b.bucket b.ticks)
        (savedAt key (log refuses (fresh intervals) calls)) blocks ∧
      (((fresh intervals).run refuses calls).held key).Holds unfinished ∧
      (((fresh intervals).run refuses calls).held key).dropped = rejected.length ∧
      ((blocks ++ unfinished.toList).flatMap Block.ticks ++ rejected).Perm
        ((ticksOf key.1 (ended true refuses (fresh intervals) calls)).flatMap
          (List.replicate (intervals.count key.2)) ++ others) ∧
      others.Sublist ((ticksOf key.1 (ended false refuses (fresh intervals) calls)).flatMap
        (List.replicate (intervals.count key.2))) := by
  have hstate : (Aggregator.Trace.fresh key.2).state = (fresh intervals).held key := rfl
  have hrun := (sound_fresh intervals).trace_carriedOutIn refuses hstate calls
  obtain ⟨final, hfinal, hfollows⟩ :=
    Aggregator.Trace.run_of_follows (Aggregator.Trace.follows_fresh key.2)
      (asked key (carriedOutIn refuses (fresh intervals) calls))
  obtain rfl := Except.ok.inj (hrun.symm.trans hfinal)
  obtain ⟨others, htaken, hothers⟩ := exists_others refuses (fresh intervals) key calls
  have hblocks := Segmentation.run_empty_perm (i := key.2)
    (asked key (carriedOutIn refuses (fresh intervals) calls))
  refine ⟨_, _, _, others, hfollows.emitted, hfollows.holds, hfollows.dropped_eq, ?_, hothers⟩
  exact hblocks.trans htaken

end Candlestick.Engine
