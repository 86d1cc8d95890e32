import Candlestick.Proofs.Engine.Soundness

/-!
# An engine is the product of its aggregators

Seen from one key, a run of the engine is a run of a single aggregator. Of each call that aggregator
gets its share, no matter what the call does elsewhere, and of the saves that the engine makes those
under its key are the candles it hands over. Calls made before it came into being are no part of
this: its share begins with the tick that creates it (`Call.shares`).
-/

namespace Candlestick.Engine

/-- What the aggregator of a key is asked in a call. -/
def Call.share (intervals : List Interval) (key : String × Interval) :
    Call → List Aggregator.Call
  | .ingest t =>
    if t.symbol = key.1 then List.replicate (intervals.count key.2) (.process t) else []
  | .sweep now => [.stale now]
  | .shutdown => [.flush]
  | .flush other => if other = key then [.flush] else []
  | .flushStale other now => if other = key then [.stale now] else []

/-- Whether the aggregator of a key exists after a call, however things were before. -/
def Call.creates (intervals : List Interval) (key : String × Interval) : Call → Bool
  | .ingest t => t.symbol = key.1 ∧ key.2 ∈ intervals
  | _ => false

/-- What the aggregator of a key is asked in a run, from its creation on. -/
def Call.shares (intervals : List Interval) (key : String × Interval) (calls : List Call) :
    List Aggregator.Call :=
  (calls.dropWhile fun call ↦ !call.creates intervals key).flatMap (share intervals key)

/-- Whether a call has to do with a symbol. Sweeps and shutdowns have to do with all. -/
def Call.concerns (symbol : String) : Call → Bool
  | .ingest t => t.symbol = symbol
  | .sweep _ => true
  | .shutdown => true
  | .flush key => key.1 = symbol
  | .flushStale key _ => key.1 = symbol

def Call.tick? : Call → Option Tick
  | .ingest t => some t
  | _ => none

theorem eq_ingest_of_tick? {call : Call} {t : Tick} (h : call.tick? = some t) :
    call = .ingest t := by
  cases call with
  | ingest u => exact congrArg Call.ingest (Option.some.inj h)
  | sweep now => cases h
  | shutdown => cases h
  | flush other => cases h
  | flushStale other now => cases h

/-- The ticks of a symbol that come in. -/
def ticksOf (symbol : String) (calls : List Call) : List Tick :=
  (calls.filterMap Call.tick?).filter fun t ↦ t.symbol = symbol

def savedAt (key : String × Interval) (saved : List ((String × Interval) × Candle)) :
    List Candle :=
  (saved.filter fun entry ↦ entry.1 = key).map Prod.snd

/-- What a key is asked in a row of visits. -/
def asked (key : String × Interval) (visits : List Visit) : List Aggregator.Call :=
  (visits.filter fun v ↦ v.key = key).map Visit.call

/-- The visits of a row that are carried out, which are those before the first fault. -/
def carriedOut (refuses : Refusals) : List Visit → Engine → List Visit
  | [], _ => []
  | v :: rest, e =>
    match e.attend refuses v with
    | (_, .error _) => []
    | (reached, .ok _) => v :: carriedOut refuses rest reached

/-! ## Rows of visits, seen from one key -/

section Rows

variable {e : Engine}

theorem asked_cons_self {key : String × Interval} {v : Visit} (h : v.key = key)
    (rest : List Visit) : asked key (v :: rest) = v.call :: asked key rest := by
  simp [asked, h]

theorem asked_cons_other {key : String × Interval} {v : Visit} (h : ¬ v.key = key)
    (rest : List Visit) : asked key (v :: rest) = asked key rest := by
  simp [asked, h]

theorem savedAt_append (key : String × Interval)
    (saved later : List ((String × Interval) × Candle)) :
    savedAt key (saved ++ later) = savedAt key saved ++ savedAt key later := by
  simp [savedAt]

theorem savedAt_map_self (key : String × Interval) (candles : List Candle) :
    savedAt key (candles.map (key, ·)) = candles := by
  simp [savedAt, List.filter_map, Function.comp_def]

theorem savedAt_map_other {key other : String × Interval} (h : ¬ other = key)
    (candles : List Candle) : savedAt key (candles.map (other, ·)) = [] := by
  simp [savedAt, List.filter_map, Function.comp_def, h]

theorem carriedOut_cons_error {refuses : Refusals} {reached : Engine} {v : Visit} {fault : Fault}
    (h : e.attend refuses v = (reached, .error fault)) (rest : List Visit) :
    carriedOut refuses (v :: rest) e = [] := by
  rw [carriedOut, h]

theorem carriedOut_cons_ok {refuses : Refusals} {reached : Engine} {v : Visit}
    {candle : Option Candle} (h : e.attend refuses v = (reached, .ok candle))
    (rest : List Visit) :
    carriedOut refuses (v :: rest) e = v :: carriedOut refuses rest reached := by
  rw [carriedOut, h]

theorem carriedOut_eq_self {refuses : Refusals} {visits : List Visit}
    (h : (attendAll refuses visits e).fault? = none) : carriedOut refuses visits e = visits := by
  induction visits generalizing e with
  | nil => rfl
  | cons v rest ih =>
      cases hattend : e.attend refuses v with
      | mk reached result =>
          cases result with
          | error fault =>
              rw [attendAll_cons_error hattend] at h
              cases h
          | ok candle =>
              rw [attendAll_cons_ok hattend] at h
              rw [carriedOut_cons_ok hattend, ih h]

/-- What a row of visits does at a key is what the visits that are carried out ask of its
aggregator. -/
theorem Sound.trace_carriedOut (h : e.Sound) (refuses : Refusals) {key : String × Interval}
    {tr : Aggregator.Trace} (hstate : tr.state = e.held key) (visits : List Visit) :
    tr.run (asked key (carriedOut refuses visits e)) =
      .ok ⟨tr.emitted ++ savedAt key (Engine.attendAll refuses visits e).saved,
        (Engine.attendAll refuses visits e).engine.held key⟩ := by
  induction visits generalizing e tr with
  | nil =>
      obtain ⟨emitted, state⟩ := tr
      obtain rfl : state = e.held key := hstate
      simp [carriedOut, asked, savedAt, Engine.attendAll]
  | cons v rest ih =>
      rcases held_attend refuses e v with ⟨fault, hresult, hheld⟩ | ⟨move, hanswer, hresult, hheld⟩
      · have hattend : e.attend refuses v = ((e.attend refuses v).1, .error fault) :=
          Prod.ext rfl hresult
        obtain ⟨emitted, state⟩ := tr
        obtain rfl : state = e.held key := hstate
        rw [carriedOut_cons_error hattend, attendAll_cons_error hattend, hheld key]
        simp [asked, savedAt]
      · have hattend : e.attend refuses v = ((e.attend refuses v).1, .ok move.completed) :=
          Prod.ext rfl hresult
        rw [carriedOut_cons_ok hattend, attendAll_cons_ok hattend, savedAt_append,
          ← List.append_assoc]
        by_cases hkey : v.key = key
        · subst hkey
          rw [← hstate] at hanswer
          have hstep := Aggregator.Trace.step_of_answer hanswer
          rw [asked_cons_self rfl, Aggregator.Trace.run_cons hstep, savedAt_map_self]
          refine ih (h.attend refuses v) ?_
          rw [hheld v.key, if_pos rfl]
        -- A visit to another key moves the engine on and leaves the trace where it is.
        · rw [asked_cons_other hkey, savedAt_map_other hkey, List.append_nil]
          refine ih (h.attend refuses v) ?_
          rw [hheld key, if_neg hkey]
          exact hstate

/-- If every save is taken, all visits are carried out. -/
theorem Sound.trace_attendAll (h : e.Sound) {key : String × Interval} {tr : Aggregator.Trace}
    (hstate : tr.state = e.held key) (visits : List Visit) :
    tr.run (asked key visits) =
      .ok ⟨tr.emitted ++ savedAt key (Engine.attendAll .none visits e).saved,
        (Engine.attendAll .none visits e).engine.held key⟩ := by
  have htrace := h.trace_carriedOut .none hstate visits
  rw [carriedOut_eq_self (h.fault_attendAll visits)] at htrace
  exact htrace

end Rows

/-! ## Calls, seen from one key -/

section Calls

variable {e : Engine} {key : String × Interval} {call : Call}

theorem asked_row (key : String × Interval) (keys : List (String × Interval))
    (call : Aggregator.Call) :
    asked key (keys.map fun other ↦ ⟨other, call⟩) = List.replicate (keys.count key) call := by
  induction keys with
  | nil => rfl
  | cons other rest ih =>
      rw [List.map_cons]
      by_cases h : other = key
      · rw [asked_cons_self h, ih, h, List.count_cons_self, List.replicate_succ]
      · rw [asked_cons_other h, ih, List.count_cons_of_ne h]

theorem asked_ingest (e : Engine) (key : String × Interval) (t : Tick) :
    asked key (e.visits (.ingest t)) = (Call.ingest t).share e.intervals key := by
  have hrow : e.visits (.ingest t) =
      (e.intervals.map (t.symbol, ·)).map fun other ↦ ⟨other, .process t⟩ := by
    simp [visits]
  rw [hrow, asked_row, Call.share]
  split
  · next h =>
      obtain ⟨symbol, i⟩ := key
      obtain rfl : t.symbol = symbol := h
      rw [List.count_map_of_injective e.intervals _ (Prod.mk_right_injective t.symbol)]
  · next h =>
      have habsent : key ∉ e.intervals.map (t.symbol, ·) := by
        intro hmem
        obtain ⟨i, _, rfl⟩ := List.mem_map.mp hmem
        exact h rfl
      rw [List.count_eq_zero_of_not_mem habsent]
      rfl

theorem asked_single (hkey : key ∈ e.pool.keys) (other : String × Interval)
    (call : Aggregator.Call) :
    asked key (if other ∈ e.pool.keys then [⟨other, call⟩] else []) =
      if other = key then [call] else [] := by
  by_cases h : other = key
  · subst h
    simp [asked, hkey]
  · rw [if_neg h]
    split <;> simp [asked, h]

/-- An aggregator that exists is asked all of its share. -/
theorem asked_of_mem (hkey : key ∈ e.pool.keys) (call : Call) :
    asked key (e.visits call) = call.share e.intervals key := by
  have honce : e.pool.keys.count key = 1 := List.count_eq_one_of_mem e.pool.nodup hkey
  cases call with
  | ingest t => exact asked_ingest e key t
  | sweep now =>
      rw [visits, asked_row, honce]
      rfl
  | shutdown =>
      rw [visits, asked_row, honce]
      rfl
  | flush other => exact asked_single hkey other .flush
  | flushStale other now => exact asked_single hkey other (.stale now)

theorem mem_keys_single {other : String × Interval} {c : Aggregator.Call}
    (h : key ∈ (if other ∈ e.pool.keys then [(⟨other, c⟩ : Visit)] else []).map Visit.key) :
    key ∈ e.pool.keys := by
  split at h
  · next hother =>
      rw [List.mem_singleton.mp h]
      exact hother
  · cases h

/-- A call visits no other keys than those that exist and those that it creates. -/
theorem mem_visits_or_mem_keys_iff (e : Engine) (key : String × Interval) (call : Call) :
    (key ∈ (e.visits call).map Visit.key ∨ key ∈ e.pool.keys) ↔
      (call.creates e.intervals key = true ∨ key ∈ e.pool.keys) := by
  obtain ⟨symbol, i⟩ := key
  cases call with
  | ingest t => simp [visits, Call.creates, and_comm]
  | sweep now => simp [visits, Call.creates]
  | shutdown => simp [visits, Call.creates]
  | flush other =>
      simp only [visits, Call.creates, Bool.false_eq_true, false_or, or_iff_right_iff_imp]
      exact mem_keys_single
  | flushStale other now =>
      simp only [visits, Call.creates, Bool.false_eq_true, false_or, or_iff_right_iff_imp]
      exact mem_keys_single

theorem tick?_of_mem_share {intervals : List Interval}
    (hcreates : call.creates intervals key = false) {c : Aggregator.Call}
    (hc : c ∈ call.share intervals key) : c.tick? = none := by
  cases call with
  | ingest t =>
      rw [Call.share] at hc
      split at hc
      · next h =>
          have habsent : key.2 ∉ intervals := by simpa [Call.creates, h] using hcreates
          rw [List.count_eq_zero_of_not_mem habsent] at hc
          cases hc
      · cases hc
  | sweep now =>
      rw [List.mem_singleton.mp hc]
      rfl
  | shutdown =>
      rw [List.mem_singleton.mp hc]
      rfl
  | flush other =>
      rw [Call.share] at hc
      split at hc
      · rw [List.mem_singleton.mp hc]
        rfl
      · cases hc
  | flushStale other now =>
      rw [Call.share] at hc
      split at hc
      · rw [List.mem_singleton.mp hc]
        rfl
      · cases hc

theorem filterMap_tick?_share (intervals : List Interval) (key : String × Interval)
    (call : Call) :
    (call.share intervals key).filterMap Aggregator.Call.tick? =
      (ticksOf key.1 [call]).flatMap (List.replicate (intervals.count key.2)) := by
  cases call with
  | ingest t =>
      have hcopies : ∀ n, (List.replicate n (Aggregator.Call.process t)).filterMap
          Aggregator.Call.tick? = List.replicate n t :=
        fun n ↦ List.filterMap_replicate_of_some rfl
      by_cases h : t.symbol = key.1 <;> simp [Call.share, ticksOf, Call.tick?, h, hcopies]
  | sweep now => rfl
  | shutdown => rfl
  | flush other =>
      rw [Call.share]
      split <;> rfl
  | flushStale other now =>
      rw [Call.share]
      split <;> rfl

theorem ticksOf_cons (symbol : String) (call : Call) (rest : List Call) :
    ticksOf symbol (call :: rest) = ticksOf symbol [call] ++ ticksOf symbol rest := by
  have hsplit : (call :: rest).filterMap Call.tick? =
      [call].filterMap Call.tick? ++ rest.filterMap Call.tick? :=
    List.filterMap_append (l := [call])
  rw [ticksOf, hsplit, List.filter_append]
  rfl

/-- The aggregator of a key is given the ticks of the symbol, as often as the interval is listed. -/
theorem filterMap_tick?_shares (intervals : List Interval) (key : String × Interval)
    (calls : List Call) :
    (calls.flatMap (Call.share intervals key)).filterMap Aggregator.Call.tick? =
      (ticksOf key.1 calls).flatMap (List.replicate (intervals.count key.2)) := by
  induction calls with
  | nil => rfl
  | cons call rest ih =>
      rw [List.flatMap_cons, List.filterMap_append, ih, filterMap_tick?_share,
        ticksOf_cons key.1 call rest, List.flatMap_append]

/-- Calls without ticks do nothing to an aggregator that has seen nothing. -/
theorem run_idle {tr : Aggregator.Trace} {i : Interval} (hstate : tr.state = .fresh i)
    {calls : List Aggregator.Call} (h : ∀ c ∈ calls, c.tick? = none) : tr.run calls = .ok tr := by
  induction calls with
  | nil => rfl
  | cons c rest ih =>
      have hquiet : tr.state.answer c = .ok ⟨none, tr.state⟩ := by
        rw [hstate]
        cases c with
        | process t => cases h (.process t) List.mem_cons_self
        | stale now => rfl
        | flush => rfl
      rw [Aggregator.Trace.run_cons (Aggregator.Trace.step_of_answer hquiet), Option.toList_none,
        List.append_nil]
      exact ih fun other hother ↦ h other (List.mem_cons_of_mem c hother)

/-- What the engine leaves out of a share, because the aggregator does not exist yet, would not
have done anything. -/
theorem run_asked {tr : Aggregator.Trace} (hstate : tr.state = e.held key) (call : Call) :
    tr.run (asked key (e.visits call)) = tr.run (call.share e.intervals key) := by
  by_cases hkey : key ∈ e.pool.keys
  · rw [asked_of_mem hkey]
  · cases hcreates : call.creates e.intervals key with
    | true =>
        cases call with
        | ingest t => rw [asked_ingest]
        | sweep now => cases hcreates
        | shutdown => cases hcreates
        | flush other => cases hcreates
        | flushStale other now => cases hcreates
    | false =>
        -- The engine asks nothing here, and a share without ticks asks nothing of consequence.
        have hnot : ¬ (key ∈ (e.visits call).map Visit.key ∨ key ∈ e.pool.keys) := by
          rw [mem_visits_or_mem_keys_iff, hcreates]
          simpa using hkey
        have hnothing : asked key (e.visits call) = [] := by
          rw [asked, List.map_eq_nil_iff, List.filter_eq_nil_iff]
          intro v hv hself
          exact hnot (Or.inl (List.mem_map.mpr ⟨v, hv, of_decide_eq_true hself⟩))
        rw [held_eq_fresh hkey] at hstate
        rw [hnothing, run_idle hstate fun c hc ↦ tick?_of_mem_share hcreates hc]
        rfl

end Calls

/-! ## Runs, seen from one key -/

section Runs

variable {e : Engine}

/-- A run of the engine is, at each key, the run of one aggregator on its shares. -/
theorem Sound.trace_run (h : e.Sound) {key : String × Interval} {tr : Aggregator.Trace}
    (hstate : tr.state = e.held key) (calls : List Call) :
    tr.run (calls.flatMap (Call.share e.intervals key)) =
      .ok ⟨tr.emitted ++ savedAt key (log .none e calls), (e.run .none calls).held key⟩ := by
  induction calls generalizing e tr with
  | nil =>
      obtain ⟨emitted, state⟩ := tr
      obtain rfl : state = e.held key := hstate
      simp [log, savedAt]
  | cons call rest ih =>
      have hnow := h.trace_attendAll hstate (e.visits call)
      rw [run_asked hstate] at hnow
      rw [List.flatMap_cons, Aggregator.Trace.run_append hnow, log, run_cons, savedAt_append,
        ← List.append_assoc, ← intervals_perform .none e call, engine_perform]
      exact ih (h.attendAll .none _) rfl

/-- The aggregators of a run are those that existed and those that its ticks created. -/
theorem Sound.mem_keys_run (h : e.Sound) (calls : List Call) (key : String × Interval) :
    key ∈ (e.run .none calls).pool.keys ↔
      calls.any (Call.creates e.intervals key) = true ∨ key ∈ e.pool.keys := by
  induction calls generalizing e with
  | nil => simp
  | cons call rest ih =>
      have hkeys := mem_keys_attendAll (e.visits call) (h.fault_attendAll _) key
      rw [mem_visits_or_mem_keys_iff, ← engine_perform] at hkeys
      rw [run_cons, ih (h.perform .none call), hkeys, intervals_perform, List.any_cons,
        Bool.or_eq_true]
      tauto

/-- The part of the store that belongs to a key is written by the saves for this key. -/
theorem only_storeLog (key : String × Interval) (s : Store)
    (saved : List ((String × Interval) × Candle)) :
    (storeLog s saved).only key.1 key.2.label =
      Store.saveAll key.1 key.2.label (s.only key.1 key.2.label) (savedAt key saved) := by
  induction saved generalizing s with
  | nil => rfl
  | cons entry rest ih =>
      obtain ⟨other, candle⟩ := entry
      have hlater : storeLog s ((other, candle) :: rest) =
          storeLog (s.save other.1 other.2.label candle) rest := rfl
      rw [hlater, ih]
      by_cases h : other = key
      · subst h
        rw [Store.only_save_self]
        simp [savedAt]
      · have hother : ¬ (other.1 = key.1 ∧ other.2.label = key.2.label) := fun heq ↦
          h (Prod.ext heq.1 (Interval.label_injective heq.2))
        rw [Store.only_save_other s candle hother]
        simp [savedAt, h]

theorem run_shares {tr : Aggregator.Trace} {i : Interval} (hstate : tr.state = .fresh i)
    (intervals : List Interval) (key : String × Interval) (calls : List Call) :
    tr.run (Call.shares intervals key calls) =
      tr.run (calls.flatMap (Call.share intervals key)) := by
  induction calls with
  | nil => rfl
  | cons call rest ih =>
      unfold Call.shares at ih ⊢
      cases hcreates : call.creates intervals key with
      | true => rw [List.dropWhile_cons_of_neg (by simp [hcreates])]
      | false =>
          have hidle := run_idle hstate fun c hc ↦ tick?_of_mem_share hcreates hc
          rw [List.dropWhile_cons_of_pos (by simp [hcreates]), List.flatMap_cons,
            Aggregator.Trace.run_append hidle, ih]

/-- What has become of a key in a run of a fresh engine. -/
theorem exists_trace_run_fresh (intervals : List Interval) (calls : List Call)
    (key : String × Interval) :
    ∃ tr : Aggregator.Trace,
      (Aggregator.Trace.fresh key.2).run (calls.flatMap (Call.share intervals key)) = .ok tr ∧
      tr.Follows ((Segmentation.empty : Segmentation key.2).run
        (calls.flatMap (Call.share intervals key))) ∧
      tr.emitted = savedAt key (log .none (fresh intervals) calls) ∧
      ((fresh intervals).run .none calls).held key = tr.state ∧
      ((fresh intervals).run .none calls).store.only key.1 key.2.label =
        Store.saveAll key.1 key.2.label .empty tr.emitted := by
  have hstate : (Aggregator.Trace.fresh key.2).state = (fresh intervals).held key := rfl
  have hrun := (sound_fresh intervals).trace_run hstate calls
  obtain ⟨final, hfinal, hfollows⟩ :=
    Aggregator.Trace.run_of_follows (Aggregator.Trace.follows_fresh key.2)
      (calls.flatMap (Call.share intervals key))
  refine ⟨_, hrun, ?_, rfl, rfl, ?_⟩
  · cases hrun.symm.trans hfinal
    exact hfollows
  · rw [store_run, only_storeLog]
    rfl

end Runs

/-! ## Independence -/

theorem share_of_not_concerns (intervals : List Interval) {key : String × Interval} {call : Call}
    (h : call.concerns key.1 = false) :
    call.share intervals key = [] ∧ call.creates intervals key = false := by
  cases call with
  | ingest t =>
      have hsymbol : ¬ t.symbol = key.1 := of_decide_eq_false h
      simp [Call.share, Call.creates, hsymbol]
  | sweep now => cases h
  | shutdown => cases h
  | flush other =>
      have hkey : ¬ other = key := by
        rintro rfl
        exact of_decide_eq_false h rfl
      exact ⟨if_neg hkey, rfl⟩
  | flushStale other now =>
      have hkey : ¬ other = key := by
        rintro rfl
        exact of_decide_eq_false h rfl
      exact ⟨if_neg hkey, rfl⟩

/-- The shares of a key come from the calls that concern its symbol. -/
theorem shares_filter (intervals : List Interval) (key : String × Interval) (calls : List Call) :
    (calls.filter (Call.concerns key.1)).flatMap (Call.share intervals key) =
        calls.flatMap (Call.share intervals key) ∧
      (calls.filter (Call.concerns key.1)).any (Call.creates intervals key) =
        calls.any (Call.creates intervals key) := by
  induction calls with
  | nil => exact ⟨rfl, rfl⟩
  | cons call rest ih =>
      cases h : call.concerns key.1 with
      | true =>
          rw [List.filter_cons_of_pos h, List.flatMap_cons, List.flatMap_cons, List.any_cons,
            List.any_cons, ih.1, ih.2]
          exact ⟨rfl, rfl⟩
      | false =>
          obtain ⟨hshare, hcreates⟩ := share_of_not_concerns intervals h
          rw [List.filter_cons_of_neg (by simp [h]), List.flatMap_cons, List.any_cons, hshare,
            hcreates]
          exact ih

theorem aggregator?_run_fresh (intervals : List Interval) (calls : List Call) (s : String)
    (i : Interval) :
    ((fresh intervals).run .none calls).aggregator? s i =
      if calls.any (Call.creates intervals (s, i)) = true then
        some (((fresh intervals).run .none calls).held (s, i))
      else none := by
  have hkeys := (sound_fresh intervals).mem_keys_run calls (s, i)
  have hnone : (s, i) ∉ (fresh intervals).pool.keys := List.not_mem_nil
  simp only [hnone, or_false] at hkeys
  rw [aggregator?_eq_ite _ (s, i)]
  simp only [hkeys]
  rfl

/-- What has become of a symbol depends on nothing but the calls that concern it. -/
theorem run_fresh_eq_of_filter_eq {intervals : List Interval} {calls others : List Call}
    {s : String} (h : others.filter (Call.concerns s) = calls.filter (Call.concerns s))
    (i : Interval) :
    ((fresh intervals).run .none others).aggregator? s i =
        ((fresh intervals).run .none calls).aggregator? s i ∧
      ((fresh intervals).run .none others).store.only s i.label =
        ((fresh intervals).run .none calls).store.only s i.label := by
  obtain ⟨hshares, hcreates⟩ := shares_filter intervals (s, i) calls
  obtain ⟨hshares', hcreates'⟩ := shares_filter intervals (s, i) others
  obtain ⟨tr, hrun, _, _, hheld, hstore⟩ := exists_trace_run_fresh intervals calls (s, i)
  obtain ⟨tr', hrun', _, _, hheld', hstore'⟩ := exists_trace_run_fresh intervals others (s, i)
  dsimp only at hshares hshares' hcreates hcreates'
  rw [← hshares', h, hshares, hrun] at hrun'
  cases hrun'
  rw [aggregator?_run_fresh, aggregator?_run_fresh, ← hcreates, ← hcreates', h, hheld, hheld']
  exact ⟨rfl, hstore'.trans hstore.symm⟩

/-- An engine is the product of its aggregators. At each key its state and the stored candles are
those of one aggregator that is given the ticks of the symbol, as often as the interval is listed,
every sweep since its creation, every shutdown and its own flushes. So they do not change when
calls that concern other symbols are left out, added or made at other times. -/
theorem run_fresh_eq_product (intervals : List Interval) (calls : List Call) (s : String)
    (i : Interval) :
    (∃ tr : Aggregator.Trace,
      (Aggregator.Trace.fresh i).run (Call.shares intervals (s, i) calls) = .ok tr ∧
      ((fresh intervals).run .none calls).aggregator? s i =
        (if calls.any (Call.creates intervals (s, i)) = true then some tr.state else none) ∧
      ((fresh intervals).run .none calls).store.only s i.label =
        Store.saveAll s i.label .empty tr.emitted) ∧
    ∀ others : List Call, others.filter (Call.concerns s) = calls.filter (Call.concerns s) →
      ((fresh intervals).run .none others).aggregator? s i =
          ((fresh intervals).run .none calls).aggregator? s i ∧
        ((fresh intervals).run .none others).store.only s i.label =
          ((fresh intervals).run .none calls).store.only s i.label := by
  refine ⟨?_, fun others h ↦ run_fresh_eq_of_filter_eq h i⟩
  obtain ⟨tr, hrun, _, _, hheld, hstore⟩ := exists_trace_run_fresh intervals calls (s, i)
  refine ⟨tr, ?_, ?_, hstore⟩
  · rw [run_shares rfl]
    exact hrun
  · rw [aggregator?_run_fresh, hheld]

/-- Two symbols in either order. -/
theorem run_fresh_eq_product_swap :
    ((fresh [.oneMinute]).run .none [.ingest (.whole "B" 7 9 5000 (by decide +kernel)),
        .ingest (.whole "A" 1 3 10000 (by decide +kernel)), .shutdown]).aggregator? "A" .oneMinute =
      ((fresh [.oneMinute]).run .none [.ingest (.whole "A" 1 3 10000 (by decide +kernel)),
        .ingest (.whole "B" 7 9 5000 (by decide +kernel)), .shutdown]).aggregator? "A" .oneMinute :=
  ((run_fresh_eq_product [.oneMinute] [.ingest (.whole "A" 1 3 10000 (by decide +kernel)),
    .ingest (.whole "B" 7 9 5000 (by decide +kernel)), .shutdown] "A" .oneMinute).2
      [.ingest (.whole "B" 7 9 5000 (by decide +kernel)),
        .ingest (.whole "A" 1 3 10000 (by decide +kernel)), .shutdown] (by decide +kernel)).1

end Candlestick.Engine
