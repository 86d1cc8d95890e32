import Candlestick.Proofs.Aggregator.Due
import Candlestick.Proofs.Engine.Interruption
import Candlestick.Proofs.Engine.Projection

/-!
# Sweeps and shutdowns that are repeated

A sweep or a shutdown asks every aggregator for the candle that is due. One that has been cut short
can be made again, as often as it takes until it is no more. The aggregators that had been asked
before the refusal have nothing due any more, so the next attempt goes on where the last one
stopped. In the end the engine is the one that a single call without refusals leaves
(`Sound.run_retries`), and every candle that was due has been saved once.
-/

namespace Candlestick.Engine

/-- What a call asks of all aggregators. -/
def Call.round? : Call → Option Aggregator.Call
  | .sweep now => some (.stale now)
  | .shutdown => some .flush
  | _ => none

/-- The call returns when it is made once more after it has been made `n` times, and not before. -/
def ReturnsAfter (refuses : Refusals) (call : Call) : Nat → Engine → Prop
  | 0, e => (e.perform refuses call).2 = .ok ()
  | n + 1, e =>
    (e.perform refuses call).2 ≠ .ok () ∧ ReturnsAfter refuses call n (e.perform refuses call).1

instance decidableReturnsAfter (refuses : Refusals) (call : Call) :
    ∀ n e, Decidable (ReturnsAfter refuses call n e)
  | 0, e => inferInstanceAs (Decidable ((e.perform refuses call).2 = .ok ()))
  | n + 1, e =>
    have := decidableReturnsAfter refuses call n (e.perform refuses call).1
    inferInstanceAs (Decidable (_ ∧ _))

/-- Engines that differ in nothing but the number of saves tried. -/
structure Agrees (e f : Engine) : Prop where
  intervals_eq : e.intervals = f.intervals
  pool_eq : e.pool = f.pool
  store_eq : e.store = f.store

/-! ## The number of saves tried -/

section Agrees

variable {e f : Engine}

theorem Agrees.refl (e : Engine) : e.Agrees e :=
  ⟨rfl, rfl, rfl⟩

theorem Agrees.trans {g : Engine} (h : e.Agrees f) (hfg : f.Agrees g) : e.Agrees g :=
  ⟨h.intervals_eq.trans hfg.intervals_eq, h.pool_eq.trans hfg.pool_eq,
    h.store_eq.trans hfg.store_eq⟩

theorem countAttempt_agrees (e : Engine) : e.countAttempt.Agrees e :=
  ⟨rfl, rfl, rfl⟩

theorem Agrees.held_eq (h : e.Agrees f) (key : String × Interval) : e.held key = f.held key := by
  rw [held, held, h.pool_eq]

theorem Agrees.ensure (h : e.Agrees f) (key : String × Interval) :
    (e.ensure key).Agrees (f.ensure key) := by
  obtain ⟨intervals, pool, store, attempts⟩ := e
  obtain ⟨_, _, _, _⟩ := f
  obtain ⟨rfl, rfl, rfl⟩ := h
  unfold Engine.ensure
  dsimp only
  split <;> exact ⟨rfl, rfl, rfl⟩

/-- Without refusals the number of saves tried makes no difference. -/
theorem Agrees.attend (h : e.Agrees f) (v : Visit) :
    (e.attend .none v).1.Agrees (f.attend .none v).1 ∧
      (e.attend .none v).2 = (f.attend .none v).2 := by
  have hensure := h.ensure v.key
  cases hanswer : (e.held v.key).answer v.call with
  | error fault =>
      have hanswer' := hanswer
      rw [h.held_eq] at hanswer'
      rw [attend_error hanswer, attend_error hanswer']
      exact ⟨hensure, rfl⟩
  | ok move =>
      obtain ⟨completed, next⟩ := move
      have hanswer' := hanswer
      rw [h.held_eq] at hanswer'
      cases completed with
      | none =>
          rw [attend_quiet hanswer, attend_quiet hanswer', hensure.pool_eq]
          exact ⟨⟨hensure.intervals_eq, rfl, hensure.store_eq⟩, rfl⟩
      | some candle =>
          rw [attend_saved hanswer rfl, attend_saved hanswer' rfl, hensure.pool_eq, h.store_eq]
          exact ⟨⟨hensure.intervals_eq, rfl, rfl⟩, rfl⟩

theorem Agrees.attendAll (h : e.Agrees f) (visits : List Visit) :
    (Engine.attendAll .none visits e).engine.Agrees (Engine.attendAll .none visits f).engine ∧
      (Engine.attendAll .none visits e).saved = (Engine.attendAll .none visits f).saved := by
  induction visits generalizing e f with
  | nil => exact ⟨h, rfl⟩
  | cons v rest ih =>
      obtain ⟨hreached, hresult⟩ := h.attend v
      cases he : e.attend .none v with
      | mk reached result =>
          cases hf : f.attend .none v with
          | mk other result' =>
              rw [he, hf] at hreached hresult
              obtain rfl : result = result' := hresult
              cases result with
              | error fault =>
                  rw [attendAll_cons_error he, attendAll_cons_error hf]
                  exact ⟨hreached, rfl⟩
              | ok candle =>
                  obtain ⟨hengine, hsaved⟩ := ih hreached
                  rw [attendAll_cons_ok he, attendAll_cons_ok hf, hsaved]
                  exact ⟨hengine, rfl⟩

end Agrees

/-! ## Asking every aggregator -/

section Rounds

variable {e : Engine} {call : Call} {c : Aggregator.Call}

theorem visits_of_round? (hcall : call.round? = some c) :
    e.visits call = e.pool.keys.map fun key ↦ ⟨key, c⟩ := by
  cases call <;> cases hcall <;> rfl

theorem tick?_of_round? (hcall : call.round? = some c) : c.tick? = none := by
  cases call <;> cases hcall <;> rfl

theorem share_of_round? (hcall : call.round? = some c) (intervals : List Interval)
    (key : String × Interval) : call.share intervals key = [c] := by
  cases call <;> cases hcall <;> rfl

theorem keys_attendAll {refuses : Refusals} {keys : List (String × Interval)}
    (h : ∀ key ∈ keys, key ∈ e.pool.keys) :
    (attendAll refuses (keys.map fun key ↦ ⟨key, c⟩) e).engine.pool.keys = e.pool.keys := by
  induction keys generalizing e with
  | nil => rfl
  | cons key rest ih =>
      have hkeys : (e.attend refuses ⟨key, c⟩).1.pool.keys = e.pool.keys :=
        keys_attend_of_mem (h key List.mem_cons_self)
      rw [List.map_cons]
      cases hattend : e.attend refuses ⟨key, c⟩ with
      | mk reached result =>
          rw [hattend] at hkeys
          cases result with
          | error fault =>
              rw [attendAll_cons_error hattend]
              exact hkeys
          | ok candle =>
              rw [attendAll_cons_ok hattend]
              have hrest : ∀ other ∈ rest, other ∈ reached.pool.keys := by
                intro other hother
                rw [hkeys]
                exact h other (List.mem_cons_of_mem key hother)
              exact (ih hrest).trans hkeys

theorem Sound.attend_of_due_none (h : e.Sound) (refuses : Refusals) (hc : c.tick? = none)
    {key : String × Interval} (hkey : key ∈ e.pool.keys) (hdue : (e.held key).due c = none) :
    e.attend refuses ⟨key, c⟩ = (e, .ok none) := by
  obtain ⟨past, hholds⟩ := h key
  have hanswer := hholds.answer_of_due_none hc hdue
  have hput : e.pool.put key (e.held key) = e.pool := by
    obtain ⟨a, ha⟩ := Keyed.mem_keys_iff.mp hkey
    have hheld : e.held key = a := by
      rw [held, ha]
      rfl
    rw [hheld]
    exact Keyed.put_self ha
  have hattend : e.attend refuses ⟨key, c⟩ =
      ({ e.ensure key with pool := (e.ensure key).pool.put key (e.held key) }, .ok none) :=
    attend_quiet hanswer
  rw [hattend, ensure_of_mem e key hkey, hput]

theorem Sound.attendAll_of_due_none (h : e.Sound) (refuses : Refusals) (hc : c.tick? = none)
    {keys : List (String × Interval)}
    (hkeys : ∀ key ∈ keys, key ∈ e.pool.keys ∧ (e.held key).due c = none) :
    Engine.attendAll refuses (keys.map fun key ↦ ⟨key, c⟩) e = ⟨e, [], none⟩ := by
  induction keys with
  | nil => rfl
  | cons key rest ih =>
      obtain ⟨⟨hmem, hdue⟩, hrest⟩ := List.forall_mem_cons.mp hkeys
      have hattend := h.attend_of_due_none refuses hc hmem hdue
      rw [List.map_cons, attendAll_cons_ok hattend, ih hrest]
      rfl

/-- The aggregators that are asked have handed over what was due. -/
theorem Sound.held_attendAll (h : e.Sound) (hc : c.tick? = none)
    (keys : List (String × Interval)) (query : String × Interval) :
    (Engine.attendAll .none (keys.map fun key ↦ ⟨key, c⟩) e).engine.held query =
      if query ∈ keys then (e.held query).settled c else e.held query := by
  induction keys generalizing e with
  | nil => rfl
  | cons key rest ih =>
      obtain ⟨move, hanswer, hresult, hheld⟩ := h.attend_none ⟨key, c⟩
      obtain ⟨past, hholds⟩ := h key
      obtain ⟨completed, hsettled, _⟩ := hholds.answer_due hc
      obtain rfl : move = ⟨completed, (e.held key).settled c⟩ :=
        Except.ok.inj (hanswer.symm.trans hsettled)
      have hattend : e.attend .none ⟨key, c⟩ = ((e.attend .none ⟨key, c⟩).1, .ok completed) :=
        Prod.ext rfl hresult
      rw [List.map_cons, attendAll_cons_ok hattend, ih (h.attend .none ⟨key, c⟩), hheld query]
      by_cases hkey : key = query
      · subst hkey
        have htwice : ((e.held key).settled c).settled c = (e.held key).settled c :=
          Aggregator.settled_of_none (Aggregator.due_settled _ c)
        simp [htwice]
      · have hkey' : ¬ query = key := fun heq ↦ hkey heq.symm
        simp [hkey, hkey']

/-- A round without refusals: every candle that is due is saved, and nothing else happens. -/
theorem Sound.perform_round (h : e.Sound) (hcall : call.round? = some c)
    (key : String × Interval) :
    List.Forall₂ (fun candle d ↦ OpenCandle.close d = .ok candle)
        (savedAt key (e.saves .none call)) ((e.held key).due c).toList ∧
      (e.perform .none call).1.held key = (e.held key).settled c := by
  have hc := tick?_of_round? hcall
  have hrow := visits_of_round? (e := e) hcall
  rw [saves, engine_perform, hrow, h.held_attendAll hc e.pool.keys key]
  by_cases hkey : key ∈ e.pool.keys
  · refine ⟨?_, if_pos hkey⟩
    obtain ⟨past, hholds⟩ := h key
    obtain ⟨completed, hanswer, hclosed⟩ := hholds.answer_due hc
    -- Seen from this key the round is a single call.
    have hstate : (⟨[], e.held key⟩ : Aggregator.Trace).state = e.held key := rfl
    have htrace := h.trace_attendAll hstate (e.visits call)
    rw [asked_of_mem hkey, share_of_round? hcall,
      Aggregator.Trace.run_cons (Aggregator.Trace.step_of_answer hanswer),
      Aggregator.Trace.run_nil, hrow] at htrace
    have hsaved : completed.toList = savedAt key (Engine.attendAll .none
        (e.pool.keys.map fun key ↦ ⟨key, c⟩) e).saved := by
      have hemitted := congrArg Aggregator.Trace.emitted (Except.ok.inj htrace)
      simpa using hemitted
    rw [← hsaved]
    exact Aggregator.forall₂_toList_of_rel hclosed
  · have hfresh := held_eq_fresh hkey
    have hdue : (e.held key).due c = none := by
      rw [hfresh]
      exact Aggregator.due_of_current_none rfl c
    have hnothing : savedAt key (Engine.attendAll .none
        (e.pool.keys.map fun key ↦ ⟨key, c⟩) e).saved = [] := by
      refine List.map_eq_nil_iff.mpr (List.filter_eq_nil_iff.mpr ?_)
      intro entry hentry heq
      have hvisited := mem_keys_of_mem_saved hentry
      rw [of_decide_eq_true heq] at hvisited
      simp [hkey] at hvisited
    rw [hnothing, hdue, if_neg hkey]
    exact ⟨.nil, (Aggregator.settled_of_none hdue).symm⟩

/-- A round without refusals stores each candle that is due. -/
theorem Sound.get?_store_round (h : e.Sound) (hcall : call.round? = some c)
    {key : String × Interval} {d : OpenCandle} (hdue : (e.held key).due c = some d) :
    ∃ candle, (e.perform .none call).1.store.get? ⟨key.1, key.2.label, d.bucketStart⟩ =
      some candle ∧ d.ClosesTo candle := by
  obtain ⟨hsaved, _⟩ := h.perform_round hcall key
  rw [hdue] at hsaved
  obtain ⟨candle, rest, hclose, hrest, hone⟩ := List.forall₂_cons_right_iff.mp hsaved
  cases hrest
  have hcloses := OpenCandle.closesTo_of_close hclose
  refine ⟨candle, ?_, hcloses⟩
  rw [engine_perform, store_attendAll, ← Store.get?_only_self, only_storeLog, ← saves, hone,
    ← hcloses.1, Store.saveAll_cons, Store.saveAll_nil, Store.get?_save]
  exact if_pos rfl

end Rounds

/-! ## Calls that are repeated -/

section Retries

variable {refuses : Refusals} {e : Engine} {call : Call} {c : Aggregator.Call}

/-- A round that was cut short and is made again comes out as if it had not been cut. -/
theorem Interruption.perform_again (h : e.Sound) (hcall : call.round? = some c)
    (i : Interruption refuses e (e.visits call)) :
    (i.reached.countAttempt.perform .none call).1.Agrees (e.perform .none call).1 ∧
      e.saves .none call =
        (attendAll .none i.made e).saved ++ i.reached.countAttempt.saves .none call := by
  have hc := tick?_of_round? hcall
  have hsound : i.reached.countAttempt.Sound := h.attendAll .none i.made
  obtain ⟨asked, others, hkeys, hmade, _⟩ :=
    List.map_eq_append_iff.mp ((visits_of_round? hcall).symm.trans i.visits_eq)
  have hasked : ∀ key ∈ asked, key ∈ e.pool.keys := by
    intro key hkey
    rw [hkeys]
    exact List.mem_append_left _ hkey
  have hpool : i.reached.pool.keys = e.pool.keys := by
    rw [reached, ← hmade]
    exact keys_attendAll hasked
  have hvisits : i.reached.countAttempt.visits call = e.visits call := by
    have hrow := visits_of_round? (e := i.reached.countAttempt) hcall
    rw [pool_countAttempt, hpool] at hrow
    exact hrow.trans (visits_of_round? hcall).symm
  -- Those that were asked before the refusal have nothing due the second time.
  have hidle : attendAll .none i.made i.reached.countAttempt =
      ⟨i.reached.countAttempt, [], none⟩ := by
    rw [← hmade]
    refine hsound.attendAll_of_due_none .none hc ?_
    intro key hkey
    refine ⟨?_, ?_⟩
    · rw [pool_countAttempt, hpool]
      exact hasked key hkey
    · rw [held_countAttempt, reached, ← hmade, h.held_attendAll hc asked key, if_pos hkey]
      exact Aggregator.due_settled _ c
  have hquiet : (attendAll .none i.made i.reached.countAttempt).fault? = none := by
    rw [hidle]
  have hagain := attendAll_append hquiet (i.failing :: i.skipped)
  have hfirst := attendAll_append i.unfailing (i.failing :: i.skipped)
  rw [hidle, ← i.visits_eq] at hagain
  rw [← i.visits_eq] at hfirst
  obtain ⟨hengine, hsaved⟩ :=
    (countAttempt_agrees i.reached).attendAll (i.failing :: i.skipped)
  rw [engine_perform, engine_perform, saves, saves, hvisits, hagain, hfirst]
  refine ⟨hengine, ?_⟩
  rw [List.nil_append, hsaved]
  rfl

/-- However often a round is cut short, once it returns the engine is the one that a round without
refusals leaves, and the saves are the same, in the same order. -/
theorem Sound.run_retries (h : e.Sound) (hcall : call.round? = some c) {n : Nat}
    (hreturns : e.ReturnsAfter refuses call n) :
    (e.run refuses (List.replicate (n + 1) call)).Agrees (e.perform .none call).1 ∧
      log refuses e (List.replicate (n + 1) call) = e.saves .none call := by
  induction n generalizing e with
  | zero =>
      have hok : (e.perform refuses call).2 = .ok () := hreturns
      rcases h.perform_eq_or_interrupted refuses call with ⟨heq, _, hsaves, _⟩ | ⟨i, hcut, _⟩
      · refine ⟨?_, ?_⟩
        · rw [List.replicate_one, run_cons, heq]
          exact Agrees.refl _
        · rw [List.replicate_one, log, log, List.append_nil]
          exact hsaves
      · rw [hcut] at hok
        cases hok
  | succ n ih =>
      obtain ⟨hfails, hlater⟩ := hreturns
      rcases h.perform_eq_or_interrupted refuses call with ⟨_, hok, _⟩ | ⟨i, hcut, hsaved⟩
      · exact absurd hok hfails
      · -- The attempts that are left start from what the first one has reached.
        rw [hcut] at hlater
        have hsound : i.reached.countAttempt.Sound := Sound.attendAll h Refusals.none i.made
        obtain ⟨hrest, hlog⟩ := ih hsound hlater
        obtain ⟨hagrees, hsaves⟩ := i.perform_again h hcall
        refine ⟨?_, ?_⟩
        · rw [List.replicate_succ, run_cons, hcut]
          exact hrest.trans hagrees
        · rw [List.replicate_succ, log, hcut, hlog, hsaved, hsaves]

/-- Each failure uses up a refusal, so when there are no more refusals the call returns. -/
theorem Sound.exists_returnsAfter (h : e.Sound) (call : Call) {bound : Nat}
    (hrefuses : ∀ n, bound < n → refuses n = false) : ∃ n, e.ReturnsAfter refuses call n := by
  generalize hleft : bound - e.attempts = left
  induction left using Nat.strong_induction_on generalizing e with
  | _ left ih =>
      rcases h.perform_eq_or_interrupted refuses call with ⟨_, hok, _⟩ | ⟨i, hcut, _⟩
      · exact ⟨0, hok⟩
      · have hbefore : e.attempts ≤ i.reached.attempts := attempts_le_attendAll .none i.made e
        have hbound : i.reached.attempts + 1 ≤ bound := by
          by_contra hbeyond
          have hrefused : refuses (i.reached.attempts + 1) = true := i.refused
          rw [hrefuses _ (Nat.not_le.mp hbeyond)] at hrefused
          cases hrefused
        have hless : bound - i.reached.countAttempt.attempts < left := by
          have hcount : i.reached.countAttempt.attempts = i.reached.attempts + 1 := rfl
          omega
        have hsound : i.reached.countAttempt.Sound := Sound.attendAll h Refusals.none i.made
        obtain ⟨n, hn⟩ := ih _ hless hsound rfl
        refine ⟨n + 1, ?_, ?_⟩
        · rw [hcut]
          intro hok
          cases hok
        · rw [hcut]
          exact hn

end Retries

/-- A sweep or a shutdown that is repeated until it returns leaves every aggregator and the store as
a single one leaves them that meets no refusals. Over all the attempts each candle that was due has
been saved exactly once, as it was, and nothing else has been saved. If the refusals come to an end,
so do the attempts. -/
theorem run_retries_eq_perform {e : Engine} (h : e.Reachable) {call : Call} {c : Aggregator.Call}
    (hcall : call.round? = some c) (refuses : Refusals) :
    (e.perform .none call).2 = .ok () ∧
    (∀ n, e.ReturnsAfter refuses call n →
      (e.run refuses (List.replicate (n + 1) call)).Agrees (e.perform .none call).1 ∧
        ∀ key,
          List.Forall₂ (fun candle d ↦ OpenCandle.close d = .ok candle)
            (savedAt key (log refuses e (List.replicate (n + 1) call)))
            ((e.held key).due c).toList ∧
          (e.run refuses (List.replicate (n + 1) call)).held key = (e.held key).settled c) ∧
    ((∃ bound, ∀ n, bound < n → refuses n = false) → ∃ n, e.ReturnsAfter refuses call n) := by
  have hsound := h.sound
  refine ⟨?_, ?_, ?_⟩
  · rcases hsound.perform_eq_or_interrupted .none call with ⟨_, hok, _⟩ | ⟨i, _⟩
    · exact hok
    · have hrefused := i.refused
      cases hrefused
  · intro n hreturns
    obtain ⟨hagrees, hlog⟩ := hsound.run_retries hcall hreturns
    refine ⟨hagrees, ?_⟩
    intro key
    obtain ⟨hsaved, hheld⟩ := hsound.perform_round hcall key
    rw [hlog, hagrees.held_eq]
    exact ⟨hsaved, hheld⟩
  · rintro ⟨bound, hrefuses⟩
    exact hsound.exists_returnsAfter call hrefuses

/-- Two symbols with an open minute. -/
def twoSymbols : Engine :=
  (fresh [.oneMinute]).run .none [.ingest (.whole "A" 51 53 8200 (by decide +kernel)),
    .ingest (.whole "B" 11 13 20700 (by decide +kernel))]

/-- The second symbol is refused twice, the third shutdown returns. -/
theorem run_retries_eq_perform_twoSymbols :
    twoSymbols.Reachable ∧ Call.shutdown.round? = some .flush ∧
      twoSymbols.ReturnsAfter (fun n ↦ n == 2 || n == 3) .shutdown 2 ∧
      (twoSymbols.run (fun n ↦ n == 2 || n == 3) (List.replicate 3 .shutdown)).Agrees
        (twoSymbols.perform .none .shutdown).1 := by
  have hreachable : twoSymbols.Reachable := (Reachable.fresh _).run .none _
  have hreturns : twoSymbols.ReturnsAfter (fun n ↦ n == 2 || n == 3) .shutdown 2 :=
    by decide +kernel
  have hretries := run_retries_eq_perform hreachable (rfl : Call.shutdown.round? = some .flush)
    (fun n ↦ n == 2 || n == 3)
  exact ⟨hreachable, rfl, hreturns, (hretries.2.1 2 hreturns).1⟩

end Candlestick.Engine
