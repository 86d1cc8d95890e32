import Candlestick.Engine.Basic
import Candlestick.Proofs.Aggregator.Trace
import Candlestick.Proofs.Store.Saves

/-!
# Calls of an engine as rows of visits

Every call of an engine comes down to visits: in a fixed order some aggregators are each asked for
one thing. A tick visits the aggregators of the listed intervals, which come into being if need be;
a sweep and a shutdown visit all there are. `perform_eq_attendAll` says that a call is the row of
its visits, up to the first fault. What is true of one visit is then true of all calls, and a visit
touches nothing but the aggregator of its key and the candles stored for it.

`attend_error`, `attend_quiet`, `attend_refused` and `attend_saved` are all that can come of a
visit. The rows also keep a record of the saves that were made, and that record is the whole of
what happened to the store (`store_attendAll`).
-/

namespace Candlestick.Engine

/-- What an engine is asked to do. The last two go to a single aggregator. -/
inductive Call where
  | ingest (t : Tick)
  | sweep (now : Int)
  | shutdown
  | flush (key : String × Interval)
  | flushStale (key : String × Interval) (now : Int)
deriving DecidableEq

/-- Carries a call out. The results of calls are not compared, only how they end. -/
def perform (refuses : Refusals) (e : Engine) : Call → Engine × Except Fault Unit
  | .ingest t => e.ingest refuses t
  | .sweep now => Prod.map id (Except.map fun _ ↦ ()) (e.sweep refuses now)
  | .shutdown => Prod.map id (Except.map fun _ ↦ ()) (e.shutdown refuses)
  | .flush key => Prod.map id (Except.map fun _ ↦ ()) (e.visit refuses Aggregator.flush key)
  | .flushStale key now =>
    Prod.map id (Except.map fun _ ↦ ()) (e.visit refuses (Aggregator.flushStale now) key)

/-- The engine after several calls. A call that ends with a fault does not keep the next one from
being made. -/
def run (refuses : Refusals) (e : Engine) (calls : List Call) : Engine :=
  calls.foldl (fun e call ↦ (e.perform refuses call).1) e

@[simp] theorem run_nil (refuses : Refusals) (e : Engine) : e.run refuses [] = e :=
  rfl

@[simp] theorem run_cons (refuses : Refusals) (e : Engine) (call : Call) (rest : List Call) :
    e.run refuses (call :: rest) = (e.perform refuses call).1.run refuses rest :=
  rfl

theorem run_append (refuses : Refusals) (e : Engine) (calls rest : List Call) :
    e.run refuses (calls ++ rest) = (e.run refuses calls).run refuses rest :=
  List.foldl_append

/-- One aggregator's part in a call. -/
structure Visit where
  key : String × Interval
  call : Aggregator.Call
deriving DecidableEq

def visits (e : Engine) : Call → List Visit
  | .ingest t => e.intervals.map fun i ↦ ⟨(t.symbol, i), .process t⟩
  | .sweep now => e.pool.keys.map fun key ↦ ⟨key, .stale now⟩
  | .shutdown => e.pool.keys.map fun key ↦ ⟨key, .flush⟩
  | .flush key => if key ∈ e.pool.keys then [⟨key, .flush⟩] else []
  | .flushStale key now => if key ∈ e.pool.keys then [⟨key, .stale now⟩] else []

def attend (refuses : Refusals) (e : Engine) (v : Visit) : Engine × Except Fault (Option Candle) :=
  (e.ensure v.key).visit refuses (·.answer v.call) v.key

/-- What has come of a row of visits: the engine reached, the saves made on the way, and the fault
that ended it early, if there was one. -/
structure Outcome where
  engine : Engine
  saved : List ((String × Interval) × Candle)
  fault? : Option Fault

def Outcome.result (o : Outcome) : Except Fault Unit :=
  match o.fault? with
  | none => .ok ()
  | some fault => .error fault

/-- Makes several visits up to the first fault. -/
def attendAll (refuses : Refusals) : List Visit → Engine → Outcome
  | [], e => ⟨e, [], none⟩
  | v :: rest, e =>
    match e.attend refuses v with
    | (reached, .error fault) => ⟨reached, [], some fault⟩
    | (reached, .ok candle) =>
      let later := attendAll refuses rest reached
      { later with saved := candle.toList.map (v.key, ·) ++ later.saved }

def saves (refuses : Refusals) (e : Engine) (call : Call) : List ((String × Interval) × Candle) :=
  (attendAll refuses (e.visits call) e).saved

def log (refuses : Refusals) : Engine → List Call → List ((String × Interval) × Candle)
  | _, [] => []
  | e, call :: rest => e.saves refuses call ++ log refuses (e.perform refuses call).1 rest

/-! ## Looking an aggregator up -/

/-- The aggregator of a key; one that has not come into being has seen nothing. -/
def held (e : Engine) (key : String × Interval) : Aggregator :=
  (e.pool.get? key).getD (.fresh key.2)

section Ensure

variable (e : Engine) (key : String × Interval)

theorem get?_ensure (query : String × Interval) :
    (e.ensure key).pool.get? query =
      if key = query then some (e.held key) else e.pool.get? query := by
  unfold ensure held
  split
  · next a hsome =>
      split
      · next heq => rw [← heq, hsome]; rfl
      · rfl
  · next hnone =>
      rw [hnone]
      exact Keyed.get?_put _ _ _ _

@[simp] theorem store_ensure : (e.ensure key).store = e.store := by
  unfold ensure
  split <;> rfl

@[simp] theorem intervals_ensure : (e.ensure key).intervals = e.intervals := by
  unfold ensure
  split <;> rfl

@[simp] theorem attempts_ensure : (e.ensure key).attempts = e.attempts := by
  unfold ensure
  split <;> rfl

theorem ensure_of_mem (h : key ∈ e.pool.keys) : e.ensure key = e := by
  obtain ⟨a, ha⟩ := Keyed.mem_keys_iff.mp h
  unfold ensure
  rw [ha]

theorem mem_keys_ensure (query : String × Interval) :
    query ∈ (e.ensure key).pool.keys ↔ key = query ∨ query ∈ e.pool.keys := by
  rw [Keyed.mem_keys_iff, Keyed.mem_keys_iff, get?_ensure]
  by_cases h : key = query <;> simp [h]

end Ensure

/-! ## What can come of a visit -/

section Attend

variable {refuses : Refusals} {e : Engine} {v : Visit} {candle : Candle} {next : Aggregator}

theorem attend_eq_carryOut :
    e.attend refuses v =
      (e.ensure v.key).carryOut refuses v.key ((e.held v.key).answer v.call) := by
  unfold attend visit
  rw [get?_ensure, if_pos rfl]

theorem attend_error {fault : Candle.Fault}
    (h : (e.held v.key).answer v.call = .error fault) :
    e.attend refuses v = (e.ensure v.key, .error (.invalidCandle fault)) := by
  rw [attend_eq_carryOut, h]
  rfl

theorem attend_quiet (h : (e.held v.key).answer v.call = .ok ⟨none, next⟩) :
    e.attend refuses v =
      ({ e.ensure v.key with pool := (e.ensure v.key).pool.put v.key next }, .ok none) := by
  rw [attend_eq_carryOut, h]
  rfl

theorem attend_refused (h : (e.held v.key).answer v.call = .ok ⟨some candle, next⟩)
    (hrefused : refuses (e.attempts + 1) = true) :
    e.attend refuses v = ((e.ensure v.key).countAttempt, .error .saveRefused) := by
  rw [attend_eq_carryOut, h]
  simp [carryOut, save, hrefused]

theorem attend_saved (h : (e.held v.key).answer v.call = .ok ⟨some candle, next⟩)
    (haccepted : refuses (e.attempts + 1) = false) :
    e.attend refuses v =
      ({ (e.ensure v.key).countAttempt with
          store := e.store.save v.key.1 v.key.2.label candle
          pool := (e.ensure v.key).pool.put v.key next }, .ok (some candle)) := by
  rw [attend_eq_carryOut, h]
  simp [carryOut, save, haccepted, countAttempt]

/-- All that can come of a visit, whether saves are refused or not. -/
theorem attend_cases (refuses : Refusals) (e : Engine) (v : Visit) :
    (∃ fault, (e.held v.key).answer v.call = .error fault ∧
      e.attend refuses v = (e.ensure v.key, .error (.invalidCandle fault))) ∨
    (∃ next, (e.held v.key).answer v.call = .ok ⟨none, next⟩ ∧ e.attend refuses v =
      ({ e.ensure v.key with pool := (e.ensure v.key).pool.put v.key next }, .ok none)) ∨
    (∃ candle next, (e.held v.key).answer v.call = .ok ⟨some candle, next⟩ ∧
      refuses (e.attempts + 1) = true ∧
      e.attend refuses v = ((e.ensure v.key).countAttempt, .error .saveRefused)) ∨
    (∃ candle next, (e.held v.key).answer v.call = .ok ⟨some candle, next⟩ ∧
      refuses (e.attempts + 1) = false ∧ e.attend refuses v =
        ({ (e.ensure v.key).countAttempt with
            store := e.store.save v.key.1 v.key.2.label candle
            pool := (e.ensure v.key).pool.put v.key next }, .ok (some candle))) := by
  cases h : (e.held v.key).answer v.call with
  | error fault => exact Or.inl ⟨fault, rfl, attend_error h⟩
  | ok move =>
      obtain ⟨completed, next⟩ := move
      cases completed with
      | none => exact Or.inr (Or.inl ⟨next, rfl, attend_quiet h⟩)
      | some candle =>
          cases hr : refuses (e.attempts + 1) with
          | true => exact Or.inr (Or.inr (Or.inl ⟨candle, next, rfl, rfl, attend_refused h hr⟩))
          | false => exact Or.inr (Or.inr (Or.inr ⟨candle, next, rfl, rfl, attend_saved h hr⟩))

/-- Aggregators that have come into being stay. -/
theorem mem_keys_attend (refuses : Refusals) (e : Engine) (v : Visit)
    (query : String × Interval) :
    query ∈ (e.attend refuses v).1.pool.keys ↔ v.key = query ∨ query ∈ e.pool.keys := by
  have hput : ∀ a : Aggregator, query ∈ ((e.ensure v.key).pool.put v.key a).keys ↔
      query ∈ (e.ensure v.key).pool.keys := by
    intro a
    have hself : v.key ∈ (e.ensure v.key).pool.keys := (mem_keys_ensure e v.key _).mpr (Or.inl rfl)
    rw [Keyed.keys_put, if_pos hself]
  rw [← mem_keys_ensure]
  rcases attend_cases refuses e v with ⟨fault, _, h⟩ | ⟨next, _, h⟩ | ⟨candle, next, _, _, h⟩ |
    ⟨candle, next, _, _, h⟩
  · rw [h]
  · rw [h]
    exact hput next
  · rw [h]
    rfl
  · rw [h]
    exact hput next

theorem intervals_attend (refuses : Refusals) (e : Engine) (v : Visit) :
    (e.attend refuses v).1.intervals = e.intervals := by
  rcases attend_cases refuses e v with ⟨fault, _, h⟩ | ⟨next, _, h⟩ | ⟨candle, next, _, _, h⟩ |
    ⟨candle, next, _, _, h⟩ <;> rw [h] <;> exact intervals_ensure e v.key

end Attend

/-! ## Rows of visits -/

section AttendAll

variable {refuses : Refusals}

/-- The store after several saves. -/
def storeLog (s : Store) (saved : List ((String × Interval) × Candle)) : Store :=
  saved.foldl (fun s entry ↦ s.save entry.1.1 entry.1.2.label entry.2) s

theorem storeLog_append (s : Store) (saved later : List ((String × Interval) × Candle)) :
    storeLog s (saved ++ later) = storeLog (storeLog s saved) later :=
  List.foldl_append

theorem attendAll_cons_error {e reached : Engine} {v : Visit} {fault : Fault}
    (h : e.attend refuses v = (reached, .error fault)) (rest : List Visit) :
    attendAll refuses (v :: rest) e = ⟨reached, [], some fault⟩ := by
  rw [attendAll, h]

theorem attendAll_cons_ok {e reached : Engine} {v : Visit} {candle : Option Candle}
    (h : e.attend refuses v = (reached, .ok candle)) (rest : List Visit) :
    attendAll refuses (v :: rest) e =
      { attendAll refuses rest reached with
        saved := candle.toList.map (v.key, ·) ++ (attendAll refuses rest reached).saved } := by
  rw [attendAll, h]

/-- What no visit of a row can end, the row cannot end. -/
theorem attendAll_invariant {motive : Engine → Prop} {visits : List Visit}
    (hstep : ∀ v ∈ visits, ∀ e, motive e → motive (e.attend refuses v).1) {e : Engine}
    (h : motive e) : motive (attendAll refuses visits e).engine := by
  induction visits generalizing e with
  | nil => exact h
  | cons v rest ih =>
      have hreached := hstep v List.mem_cons_self e h
      have hrest : ∀ u ∈ rest, ∀ e, motive e → motive (e.attend refuses u).1 :=
        fun u hu ↦ hstep u (List.mem_cons_of_mem v hu)
      cases hattend : e.attend refuses v with
      | mk reached result =>
          rw [hattend] at hreached
          cases result with
          | error fault =>
              rw [attendAll_cons_error hattend]
              exact hreached
          | ok candle =>
              rw [attendAll_cons_ok hattend]
              exact ih hrest hreached

/-- The record of saves is all that has happened to the store. -/
theorem store_attendAll (visits : List Visit) (e : Engine) :
    (attendAll refuses visits e).engine.store =
      storeLog e.store (attendAll refuses visits e).saved := by
  induction visits generalizing e with
  | nil => rfl
  | cons v rest ih =>
      rcases attend_cases refuses e v with ⟨fault, _, h⟩ | ⟨next, _, h⟩ |
        ⟨candle, next, _, _, h⟩ | ⟨candle, next, _, _, h⟩
      · rw [attendAll_cons_error h]
        exact store_ensure e v.key
      · rw [attendAll_cons_ok h]
        refine (ih _).trans ?_
        rw [store_ensure]
        rfl
      · rw [attendAll_cons_error h]
        exact store_ensure e v.key
      · rw [attendAll_cons_ok h]
        exact ih _

end AttendAll

/-! ## Calls are rows of visits -/

/-- Visiting aggregators that exist is the same as making the visits of a row, and the candles that
are counted are those that were saved. -/
theorem visitEach_eq (refuses : Refusals) (call : Aggregator.Call)
    (keys : List (String × Interval)) (e : Engine) (h : ∀ key ∈ keys, key ∈ e.pool.keys) :
    let outcome := attendAll refuses (keys.map fun key ↦ ⟨key, call⟩) e
    visitEach refuses (·.answer call) keys e =
      (outcome.engine, outcome.result.map fun _ ↦ outcome.saved.length) := by
  induction keys generalizing e with
  | nil => rfl
  | cons key rest ih =>
      have hvisit : e.attend refuses ⟨key, call⟩ = e.visit refuses (·.answer call) key := by
        rw [attend, ensure_of_mem e key (h key List.mem_cons_self)]
      -- Aggregators stay, so the ones still to be visited exist after this visit as well.
      have hkeys : ∀ other ∈ rest, other ∈ (e.visit refuses (·.answer call) key).1.pool.keys := by
        intro other hother
        rw [← hvisit]
        have hold := h other (List.mem_cons_of_mem key hother)
        exact (mem_keys_attend refuses e _ other).mpr (Or.inr hold)
      rw [List.map_cons, visitEach]
      cases hresult : e.visit refuses (·.answer call) key with
      | mk reached result =>
          rw [hresult] at hvisit hkeys
          cases result with
          | error fault =>
              rw [attendAll_cons_error hvisit]
              rfl
          | ok candle =>
              rw [attendAll_cons_ok hvisit]
              dsimp only
              rw [ih reached hkeys]
              generalize attendAll refuses (rest.map fun key ↦ ⟨key, call⟩) reached = later
              obtain ⟨engine, saved, fault?⟩ := later
              cases fault? with
              | some fault => rfl
              | none =>
                  cases candle <;> simp [Outcome.result, Except.map]

theorem visitEach_eq_attendAll (refuses : Refusals) (call : Aggregator.Call)
    (keys : List (String × Interval)) (e : Engine) (h : ∀ key ∈ keys, key ∈ e.pool.keys) :
    Prod.map id (Except.map fun _ ↦ ()) (visitEach refuses (·.answer call) keys e) =
      ((attendAll refuses (keys.map fun key ↦ ⟨key, call⟩) e).engine,
        (attendAll refuses (keys.map fun key ↦ ⟨key, call⟩) e).result) := by
  rw [visitEach_eq refuses call keys e h, Prod.map_apply]
  generalize (attendAll refuses (keys.map fun key ↦ ⟨key, call⟩) e).result = result
  cases result <;> rfl

theorem offer_eq_attendAll (refuses : Refusals) (t : Tick) (intervals : List Interval)
    (e : Engine) :
    offer refuses t intervals e =
      ((attendAll refuses (intervals.map fun i ↦ ⟨(t.symbol, i), .process t⟩) e).engine,
        (attendAll refuses (intervals.map fun i ↦ ⟨(t.symbol, i), .process t⟩) e).result) := by
  induction intervals generalizing e with
  | nil => rfl
  | cons i rest ih =>
      rw [List.map_cons, offer]
      cases hresult : e.attend refuses ⟨(t.symbol, i), .process t⟩ with
      | mk reached result =>
          have hvisit : (e.ensure (t.symbol, i)).visit refuses (·.process t) (t.symbol, i) =
              (reached, result) := hresult
          rw [hvisit]
          cases result with
          | error fault =>
              rw [attendAll_cons_error hresult]
              rfl
          | ok candle =>
              rw [attendAll_cons_ok hresult]
              exact ih reached

theorem visit_eq_attendAll (refuses : Refusals) (call : Aggregator.Call)
    (key : String × Interval) (e : Engine) :
    Prod.map id (Except.map fun _ ↦ ()) (e.visit refuses (·.answer call) key) =
      ((attendAll refuses (if key ∈ e.pool.keys then [⟨key, call⟩] else []) e).engine,
        (attendAll refuses (if key ∈ e.pool.keys then [⟨key, call⟩] else []) e).result) := by
  by_cases hkey : key ∈ e.pool.keys
  · rw [if_pos hkey]
    cases hresult : e.attend refuses ⟨key, call⟩ with
    | mk reached result =>
        have hvisit : e.visit refuses (·.answer call) key = (reached, result) := by
          rw [← hresult, attend, ensure_of_mem e key hkey]
        rw [hvisit]
        cases result with
        | error fault =>
            rw [attendAll_cons_error hresult]
            rfl
        | ok candle =>
            rw [attendAll_cons_ok hresult]
            rfl
  · rw [if_neg hkey, visit, Keyed.get?_eq_none_iff.mpr hkey]
    rfl

/-- A call is the row of its visits. -/
theorem perform_eq_attendAll (refuses : Refusals) (e : Engine) (call : Call) :
    e.perform refuses call =
      ((attendAll refuses (e.visits call) e).engine,
        (attendAll refuses (e.visits call) e).result) := by
  cases call with
  | ingest t => exact offer_eq_attendAll refuses t e.intervals e
  | sweep now => exact visitEach_eq_attendAll refuses (.stale now) e.pool.keys e fun _ h ↦ h
  | shutdown => exact visitEach_eq_attendAll refuses .flush e.pool.keys e fun _ h ↦ h
  | flush key => exact visit_eq_attendAll refuses .flush key e
  | flushStale key now => exact visit_eq_attendAll refuses (.stale now) key e

theorem engine_perform (refuses : Refusals) (e : Engine) (call : Call) :
    (e.perform refuses call).1 = (attendAll refuses (e.visits call) e).engine := by
  rw [perform_eq_attendAll]

/-- What no visit can end, a run cannot end. -/
theorem run_invariant {refuses : Refusals} {motive : Engine → Prop}
    (hstep : ∀ e v, motive e → motive (e.attend refuses v).1) (calls : List Call) {e : Engine}
    (h : motive e) : motive (e.run refuses calls) := by
  induction calls generalizing e with
  | nil => exact h
  | cons call rest ih =>
      rw [run_cons, engine_perform]
      exact ih (attendAll_invariant (fun v _ e ↦ hstep e v) h)

theorem intervals_perform (refuses : Refusals) (e : Engine) (call : Call) :
    (e.perform refuses call).1.intervals = e.intervals := by
  rw [engine_perform]
  refine attendAll_invariant (motive := fun reached ↦ reached.intervals = e.intervals) ?_ rfl
  intro v _ reached h
  exact (intervals_attend refuses reached v).trans h

/-- The store after a run holds what the record of saves says. -/
theorem store_run (refuses : Refusals) (e : Engine) (calls : List Call) :
    (e.run refuses calls).store = storeLog e.store (log refuses e calls) := by
  induction calls generalizing e with
  | nil => rfl
  | cons call rest ih =>
      rw [run_cons, ih, log, storeLog_append, saves, engine_perform, store_attendAll]

end Candlestick.Engine
