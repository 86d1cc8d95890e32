import Candlestick.Proofs.Engine.Acceptance
import Candlestick.Proofs.Engine.Retry
import Candlestick.Sweeper

/-!
# What a stop leaves open

A sweeper passes ticks and sweeps on to its engine, and it has the engine shut down when it is
stopped, but only once until it is started again. If the shutdown returns then every candle has been
completed and every tick is accounted for. Ticks that come in afterwards are not drained by stopping
once more, so their candles stay open. Nothing is said here of a shutdown that has been cut short.
-/

namespace Candlestick.Engine

variable {refuses : Refusals} {e : Engine} {key : String × Interval}

theorem Sound.current_eq_none_of_shutdown (h : e.Sound)
    (hok : (e.perform refuses .shutdown).2 = .ok ()) (key : String × Interval) :
    ((e.perform refuses .shutdown).1.held key).current = none := by
  rcases h.perform_eq_or_interrupted refuses .shutdown with ⟨heq, _⟩ | ⟨i, hcut, _⟩
  · obtain ⟨_, hheld⟩ := h.perform_round (rfl : Call.shutdown.round? = some .flush) key
    rw [heq, hheld]
    exact Aggregator.current_settled_flush _
  · rw [hcut] at hok
    cases hok

/-- Only a tick opens a candle. -/
theorem current_attendAll (hnone : (e.held key).current = none) {visits : List Visit}
    (hvisits : ∀ v ∈ visits, v.key = key → v.call.tick? = none) :
    ((attendAll refuses visits e).engine.held key).current = none := by
  induction visits generalizing e with
  | nil => exact hnone
  | cons v rest ih =>
      obtain ⟨hv, hrest⟩ := List.forall_mem_cons.mp hvisits
      have hreached : ((e.attend refuses v).1.held key).current = none := by
        rcases held_attend refuses e v with ⟨_, _, hheld⟩ | ⟨move, hanswer, _, hheld⟩
        · rw [hheld key]
          exact hnone
        · rw [hheld key]
          split
          · next heq =>
              subst heq
              rw [Aggregator.answer_of_current_none hnone (hv rfl)] at hanswer
              cases hanswer
              exact hnone
          · exact hnone
      cases hattend : e.attend refuses v with
      | mk reached result =>
          rw [hattend] at hreached
          cases result with
          | error fault =>
              rw [attendAll_cons_error hattend]
              exact hreached
          | ok candle =>
              rw [attendAll_cons_ok hattend]
              exact ih hreached hrest

theorem current_run (hnone : (e.held key).current = none) {calls : List Call}
    (hcalls : ∀ t, .ingest t ∈ calls → t.symbol ≠ key.1) :
    ((e.run refuses calls).held key).current = none := by
  induction calls generalizing e with
  | nil => exact hnone
  | cons call rest ih =>
      rw [run_cons, engine_perform]
      refine ih (current_attendAll hnone ?_) fun t ht ↦ hcalls t (List.mem_cons_of_mem call ht)
      rintro v hv rfl
      cases hcall : call.tick? with
      | none => exact tick?_of_mem_visits hcall hv
      | some t =>
          obtain rfl := eq_ingest_of_tick? hcall
          exact absurd (symbol_of_mem_visits_ingest hv).symm (hcalls t List.mem_cons_self)

end Candlestick.Engine

namespace Candlestick.Sweeper

/-- What a sweeper and its engine are asked to do. Periodic sweeps are among the sweeps. -/
inductive Call where
  | ingest (t : Tick)
  | sweepNow (now : Int)
  | start
  | stop
deriving DecidableEq

def perform (refuses : Refusals) (state : Sweeper × Engine) :
    Call → (Sweeper × Engine) × Except Engine.Fault Unit
  | .ingest t =>
    let (reached, result) := state.2.ingest refuses t
    ((state.1, reached), result)
  | .sweepNow now =>
    let (sweeper, reached, result) := state.1.sweepNow refuses state.2 now
    ((sweeper, reached), result.map fun _ ↦ ())
  | .start => ((state.1.start, state.2), .ok ())
  | .stop =>
    let (sweeper, reached, result) := state.1.stop refuses state.2
    ((sweeper, reached), result)

/-- A sweeper and its engine after several calls, whichever of them ended with a fault. -/
def run (refuses : Refusals) (state : Sweeper × Engine) (calls : List Call) : Sweeper × Engine :=
  calls.foldl (fun state call ↦ (perform refuses state call).1) state

def Call.stopped (before : Bool) : Call → Bool
  | .start => false
  | .stop => true
  | _ => before

/-- Whether there has been a stop, and no start since. -/
def stopped (calls : List Call) : Bool :=
  calls.foldl Call.stopped false

/-- What the engine is asked to do in a call. -/
def Call.passedOn (stopped : Bool) : Call → List Engine.Call
  | .ingest t => [.ingest t]
  | .sweepNow now => [.sweep now]
  | .start => []
  | .stop => if stopped then [] else [.shutdown]

def passedOn : Bool → List Call → List Engine.Call
  | _, [] => []
  | before, call :: rest => call.passedOn before ++ passedOn (call.stopped before) rest

variable {refuses : Refusals} {s : Sweeper} {e : Engine}

theorem run_append (refuses : Refusals) (state : Sweeper × Engine) (calls rest : List Call) :
    run refuses state (calls ++ rest) = run refuses (run refuses state calls) rest :=
  List.foldl_append

/-! ## What a call does to the sweeper and to the engine -/

/-- The two flags of a sweeper agree with each other and with its past. -/
structure Fits (s : Sweeper) (stopped : Bool) : Prop where
  drained_eq : s.drained = stopped
  not_both : s.running = true → s.drained = false

theorem fits_of_make? {period : Double} (h : make? period = some s) : s.Fits false := by
  unfold make? at h
  split at h
  · cases h
  · cases h
    exact ⟨rfl, fun hrunning ↦ nomatch hrunning⟩

theorem Fits.perform {before : Bool} (h : s.Fits before) (refuses : Refusals) (e : Engine)
    (call : Call) :
    (Sweeper.perform refuses (s, e) call).1.1.Fits (call.stopped before) ∧
      (Sweeper.perform refuses (s, e) call).1.2 = e.run refuses (call.passedOn before) := by
  obtain ⟨rfl, hboth⟩ := h
  cases call with
  | ingest t => exact ⟨⟨rfl, hboth⟩, rfl⟩
  | sweepNow now =>
      have hengine : e.run refuses [.sweep now] = (e.sweep refuses now).1 := rfl
      rw [Call.passedOn, hengine]
      unfold Sweeper.perform sweepNow
      dsimp only
      cases e.sweep refuses now with
      | mk reached result => cases result <;> exact ⟨⟨rfl, hboth⟩, rfl⟩
  | start =>
      refine ⟨?_, rfl⟩
      unfold Sweeper.perform start
      dsimp only
      split
      · next hrunning => exact ⟨hboth hrunning, hboth⟩
      · exact ⟨rfl, fun _ ↦ rfl⟩
  | stop =>
      unfold Sweeper.perform stop
      cases hdrained : s.drained with
      | true => exact ⟨⟨rfl, fun hrunning ↦ nomatch hrunning⟩, rfl⟩
      | false => exact ⟨⟨rfl, fun hrunning ↦ nomatch hrunning⟩, rfl⟩

theorem Fits.run {before : Bool} (h : s.Fits before) (refuses : Refusals) (e : Engine)
    (calls : List Call) :
    (Sweeper.run refuses (s, e) calls).1.Fits (calls.foldl Call.stopped before) ∧
      (Sweeper.run refuses (s, e) calls).2 = e.run refuses (passedOn before calls) := by
  induction calls generalizing s e before with
  | nil => exact ⟨h, rfl⟩
  | cons call rest ih =>
      obtain ⟨hfits, hengine⟩ := h.perform refuses e call
      obtain ⟨hlater, hfinal⟩ := ih hfits (Sweeper.perform refuses (s, e) call).1.2
      refine ⟨hlater, hfinal.trans ?_⟩
      rw [passedOn, Engine.run, Engine.run, List.foldl_append, hengine]
      rfl

/-! ## Stops -/

theorem Fits.perform_stop (h : s.Fits false) (refuses : Refusals) (e : Engine) :
    (Sweeper.perform refuses (s, e) .stop).2 = (e.perform refuses .shutdown).2 := by
  unfold Sweeper.perform stop
  rw [h.drained_eq]
  rfl

/-- A stop that is not due changes nothing. -/
theorem Fits.perform_stop_again (h : s.Fits true) (refuses : Refusals) (e : Engine) :
    Sweeper.perform refuses (s, e) .stop = ((s, e), .ok ()) := by
  obtain ⟨period, running, drained, sweeps, swept⟩ := s
  obtain ⟨hdrained, hboth⟩ := h
  obtain rfl : drained = true := hdrained
  cases running with
  | false => rfl
  | true => cases hboth rfl

theorem Fits.current_eq_none_of_stop_returns (h : s.Fits false) (hsound : e.Sound)
    (hreturns : (Sweeper.perform refuses (s, e) .stop).2 = .ok ()) (key : String × Interval) :
    ((Sweeper.perform refuses (s, e) .stop).1.2.held key).current = none := by
  have hshutdown := (h.perform_stop refuses e).symm.trans hreturns
  rw [(h.perform refuses e .stop).2]
  exact hsound.current_eq_none_of_shutdown hshutdown key

theorem foldl_stopped_of_not_mem {calls : List Call} (h : .start ∉ calls) :
    calls.foldl Call.stopped true = true := by
  induction calls with
  | nil => rfl
  | cons call rest ih =>
      rw [List.mem_cons, not_or] at h
      obtain ⟨hcall, hrest⟩ := h
      have hstopped : call.stopped true = true := by
        cases call with
        | start => exact absurd rfl hcall
        | ingest t => rfl
        | sweepNow now => rfl
        | stop => rfl
      rw [List.foldl_cons, hstopped]
      exact ih hrest

/-- As long as it is not started, a stopped sweeper passes on nothing but ticks and sweeps. -/
theorem mem_passedOn_of_stopped {calls : List Call} (h : .start ∉ calls) {t : Tick}
    (ht : .ingest t ∈ passedOn true calls) : .ingest t ∈ calls := by
  induction calls with
  | nil => cases ht
  | cons call rest ih =>
      rw [List.mem_cons, not_or] at h
      obtain ⟨hcall, hrest⟩ := h
      rw [passedOn] at ht
      cases call with
      | start => exact absurd rfl hcall
      | ingest u =>
          rcases List.mem_cons.mp ht with heq | hlater
          · cases heq
            exact List.mem_cons_self
          · exact List.mem_cons_of_mem _ (ih hrest hlater)
      | sweepNow now =>
          rcases List.mem_cons.mp ht with heq | hlater
          · cases heq
          · exact List.mem_cons_of_mem _ (ih hrest hlater)
      | stop => exact List.mem_cons_of_mem _ (ih hrest ht)

/-- When a stop that is due returns, nothing is open. Every tick that came in before is in a saved
candle or among the drops, as often as its interval is listed, or its call had ended with a fault.
Until the sweeper is started again, stopping once more changes nothing, and nothing is open but for
symbols with ticks that came in after the first stop. -/
theorem drained_of_stop_returns {period : Double} (hs : make? period = some s)
    (intervals : List Interval) (refuses : Refusals) {before after : List Call}
    (hdue : stopped before = false) (hafter : .start ∉ after)
    (hreturns : (perform refuses (run refuses (s, .fresh intervals) before) .stop).2 = .ok ()) :
    (∀ key : String × Interval, (∀ t, .ingest t ∈ after → t.symbol ≠ key.1) →
      ((run refuses (s, .fresh intervals) (before ++ .stop :: after)).2.held key).current = none) ∧
    (∀ key : String × Interval, ∃ (blocks : List (Block key.2)) (rejected others : List Tick),
      List.Forall₂ (fun (c : Candle) b ↦ c.SumsUp b.bucket b.ticks)
        (Engine.savedAt key (Engine.log refuses (.fresh intervals)
          (passedOn false (before ++ [.stop])))) blocks ∧
      ((run refuses (s, .fresh intervals) (before ++ [.stop])).2.held key).dropped =
        rejected.length ∧
      (blocks.flatMap Block.ticks ++ rejected).Perm
        ((Engine.ticksOf key.1 (Engine.ended true refuses (.fresh intervals)
          (passedOn false (before ++ [.stop])))).flatMap
            (List.replicate (intervals.count key.2)) ++ others) ∧
      others.Sublist ((Engine.ticksOf key.1 (Engine.ended false refuses (.fresh intervals)
        (passedOn false (before ++ [.stop])))).flatMap
          (List.replicate (intervals.count key.2)))) ∧
    perform refuses (run refuses (s, .fresh intervals) (before ++ .stop :: after)) .stop =
      (run refuses (s, .fresh intervals) (before ++ .stop :: after), .ok ()) := by
  have hfresh := fits_of_make? hs
  obtain ⟨hfits, hengine⟩ := hfresh.run refuses (.fresh intervals) before
  have hfits : (run refuses (s, .fresh intervals) before).1.Fits false := hdue ▸ hfits
  have hsound : (run refuses (s, .fresh intervals) before).2.Sound := by
    rw [hengine]
    exact (Engine.sound_fresh intervals).run refuses _
  have hclosed : ∀ key : String × Interval,
      ((run refuses (s, .fresh intervals) (before ++ [.stop])).2.held key).current = none := by
    intro key
    rw [run_append]
    exact hfits.current_eq_none_of_stop_returns hsound hreturns key
  have hstopped : (run refuses (s, .fresh intervals) (before ++ [.stop])).1.Fits true := by
    rw [run_append]
    exact (hfits.perform refuses _ .stop).1
  obtain ⟨hfinal, hlater⟩ := hstopped.run refuses
    (run refuses (s, .fresh intervals) (before ++ [.stop])).2 after
  have hsplit : run refuses (s, .fresh intervals) (before ++ .stop :: after) =
      run refuses (run refuses (s, .fresh intervals) (before ++ [.stop])) after := by
    rw [← run_append, List.append_assoc]
    rfl
  refine ⟨?_, ?_, ?_⟩
  · intro key hkey
    rw [hsplit, hlater]
    exact Engine.current_run (hclosed key) fun t ht ↦ hkey t (mem_passedOn_of_stopped hafter ht)
  · intro key
    have hrun := (hfresh.run refuses (.fresh intervals) (before ++ [.stop])).2
    obtain ⟨blocks, unfinished, rejected, others, hsaved, hholds, hdropped, hperm, hothers⟩ :=
      Engine.exists_account intervals refuses (passedOn false (before ++ [.stop])) key
    rw [← hrun] at hholds hdropped
    obtain rfl := hholds.eq_none (hclosed key)
    rw [Option.toList_none, List.append_nil] at hperm
    exact ⟨blocks, rejected, others, hsaved, hdropped, hperm, hothers⟩
  · rw [hsplit]
    rw [foldl_stopped_of_not_mem hafter] at hfinal
    exact hfinal.perform_stop_again refuses _

def everySecond : Sweeper :=
  ⟨.ofUnits Double.one, false, false, 0, 0⟩

/-- The second tick ends the minute of the first, but the candle is refused. -/
def refusedRollover : List Call :=
  [.start, .ingest (.whole "A" 61 63 10000 (by decide +kernel)),
    .ingest (.whole "A" 100 102 70000 (by decide +kernel)), .sweepNow 30]

def otherSymbol : List Call :=
  [.ingest (.whole "B" 7 9 80000 (by decide +kernel)), .sweepNow 200]

/-- The stop completes the candle that was refused before. -/
theorem drained_of_stop_returns_refusedRollover :
    make? (.ofUnits Double.one) = some everySecond ∧ stopped refusedRollover = false ∧
      .start ∉ otherSymbol ∧
      (perform (· == 1) (run (· == 1) (everySecond, .fresh [.oneMinute, .oneHour])
        refusedRollover) .stop).2 = .ok () ∧
      ((run (· == 1) (everySecond, .fresh [.oneMinute, .oneHour])
        (refusedRollover ++ .stop :: otherSymbol)).2.held ("A", .oneMinute)).current = none := by
  have hmake : make? (.ofUnits Double.one) = some everySecond := by decide +kernel
  have hdue : stopped refusedRollover = false := rfl
  have hafter : Call.start ∉ otherSymbol := by decide +kernel
  have hreturns : (perform (· == 1) (run (· == 1) (everySecond, .fresh [.oneMinute, .oneHour])
      refusedRollover) .stop).2 = .ok () := by
    decide +kernel
  have hdrained := drained_of_stop_returns hmake [.oneMinute, .oneHour] (· == 1) hdue hafter
    hreturns
  refine ⟨hmake, hdue, hafter, hreturns, hdrained.1 ("A", .oneMinute) ?_⟩
  intro t ht
  rcases List.mem_cons.mp ht with htick | hsweep
  · rw [Call.ingest.inj htick]
    decide +kernel
  · cases List.mem_singleton.mp hsweep

/-- A tick that comes in between two stops, with no start in between and no refusals. -/
def tickBetweenStops : List Call :=
  [.start, .stop, .ingest (.whole "A" 21 23 10000 (by decide +kernel))]

/-- The second stop returns and leaves the candle of the tick open. -/
theorem open_after_second_stop :
    make? (.ofUnits Double.one) = some everySecond ∧
      (perform .none (run .none (everySecond, .fresh [.oneMinute]) tickBetweenStops) .stop).2 =
        .ok () ∧
      ((perform .none (run .none (everySecond, .fresh [.oneMinute])
        tickBetweenStops) .stop).1.2.held ("A", .oneMinute)).current ≠ none := by
  decide +kernel

end Candlestick.Sweeper
