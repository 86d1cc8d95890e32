import Candlestick.Proofs.Double.Overflow
import Candlestick.Proofs.Engine.Pool
import Candlestick.Proofs.Walk.Rounds

/-!
# When a round returns

As long as no save is refused, two things can cut a round short: a blank symbol, for which there
are no ticks, and a price that becomes infinite (`returns_round_iff`). The second one does not
happen while twice each price is finite and no step is longer than the price itself
(`staysFinite_of_bounded`). A round that returns has made all symbols of the walk active
(`mem_activeSymbols_round`).
-/

namespace Candlestick.Walk

/- It does not matter here which numbers these are. -/
attribute [local irreducible] lowestPrice Double.one Double.unity

variable {σ : Type} {draw : σ → Double × σ} {refuses : Refusals} {now : Int} {w : Walk σ}
  {e : Engine}

/-- Where the steps of several entries lead, with one number drawn for each. -/
def targets (draw : σ → Double × σ) : List (String × Double) → σ → List (String × Double)
  | [], _ => []
  | (symbol, price) :: rest, noise =>
    (symbol, stepFrom price (draw noise).1) :: targets draw rest (draw noise).2

/-- The next round leads to finite prices only. -/
def StaysFinite (draw : σ → Double × σ) (w : Walk σ) : Prop :=
  ∀ target ∈ targets draw w.prices.entries w.noise, target.2.isFinite = true

theorem map_fst_targets (draw : σ → Double × σ) (entries : List (String × Double)) (noise : σ) :
    (targets draw entries noise).map Prod.fst = entries.map Prod.fst := by
  induction entries generalizing noise with
  | nil => rfl
  | cons entry rest ih => exact congrArg (entry.1 :: ·) (ih (draw noise).2)

theorem exists_tickAround_iff {symbol : String} {price size : Double} (hnow : 0 < now) :
    (∃ t, tickAround symbol (stepFrom price size) now = .ok t) ↔
      Symbol.isBlank symbol = false ∧ (stepFrom price size).isFinite = true := by
  constructor
  · rintro ⟨t, htick⟩
    exact ⟨symbol_of_tickAround htick ▸ t.symbol_not_blank, isFinite_of_tickAround htick⟩
  · rintro ⟨hsymbol, hfinite⟩
    exact exists_tickAround hsymbol hnow (lowestPrice_le_stepFrom hfinite) hfinite

theorem steps_cons_of_ok {symbol : String} {price : Double} {rest : List (String × Double)}
    {moved : Walk σ} {reached : Engine} {t : Tick}
    (h : w.step draw refuses now e symbol price = (moved, reached, .ok t)) :
    (∃ ticks, (w.steps draw refuses now ((symbol, price) :: rest) e).2.2 = .ok ticks) ↔
      ∃ ticks, (moved.steps draw refuses now rest reached).2.2 = .ok ticks := by
  rw [steps, h]
  dsimp only
  constructor
  · rintro ⟨_, hticks⟩
    obtain ⟨later, hlater, _⟩ := exists_of_map_eq_ok hticks
    exact ⟨later, hlater⟩
  · rintro ⟨later, hlater⟩
    exact ⟨t :: later, by rw [hlater, Except.map]⟩

theorem returns_steps_iff (hsound : e.Sound) (hnow : 0 < now) {entries : List (String × Double)} :
    (∃ ticks, (w.steps draw .none now entries e).2.2 = .ok ticks) ↔
      ∀ target ∈ targets draw entries w.noise,
        Symbol.isBlank target.1 = false ∧ target.2.isFinite = true := by
  induction entries generalizing w e with
  | nil => exact iff_of_true ⟨[], rfl⟩ (List.forall_mem_nil _)
  | cons entry rest ih =>
      obtain ⟨symbol, price⟩ := entry
      obtain ⟨size, noise, hdraw, hcases⟩ := step_cases draw .none now w e symbol price
      rw [targets, hdraw, List.forall_mem_cons, ← exists_tickAround_iff hnow]
      rcases hcases with ⟨fault, htick, hstep⟩ | ⟨t, htick, ⟨fault, hingest, _⟩ | ⟨_, hstep⟩⟩
      · refine iff_of_false ?_ ?_
        · rintro ⟨_, hticks⟩
          rw [steps, hstep] at hticks
          cases hticks
        · rintro ⟨⟨_, htick'⟩, _⟩
          rw [htick] at htick'
          cases htick'
      · have hreturns := hsound.perform_returns (.ingest t)
        rw [Engine.perform, hingest] at hreturns
        cases hreturns
      · rw [steps_cons_of_ok hstep, and_iff_right ⟨t, htick⟩]
        exact ih (hsound.perform .none (.ingest t))

/-- If no save is refused, a round returns unless there is a blank symbol or a price becomes
infinite. -/
theorem returns_round_iff (hsound : e.Sound) (hnow : 0 < now) :
    (∃ ticks, (w.round draw .none now e).2.2 = .ok ticks) ↔
      (∀ symbol ∈ w.prices.keys, Symbol.isBlank symbol = false) ∧ w.StaysFinite draw := by
  have hsymbols : (∀ symbol ∈ w.prices.keys, Symbol.isBlank symbol = false) ↔
      ∀ target ∈ targets draw w.prices.entries w.noise, Symbol.isBlank target.1 = false := by
    rw [Keyed.keys, ← map_fst_targets draw _ w.noise]
    exact List.forall_mem_map
  rw [round, returns_steps_iff hsound hnow, hsymbols, StaysFinite]
  exact forall₂_and

/-- Wherever it is made and whatever is refused, a round with a blank symbol does not return. -/
theorem not_blank_of_returns {ticks : List Tick}
    (h : (w.round draw refuses now e).2.2 = .ok ticks) :
    ∀ symbol ∈ w.prices.keys, Symbol.isBlank symbol = false := by
  obtain ⟨hsymbols, _⟩ := engine_steps_of_ok h
  rw [Keyed.keys, ← hsymbols]
  intro symbol hsymbol
  obtain ⟨t, _, rfl⟩ := List.mem_map.mp hsymbol
  exact t.symbol_not_blank

theorem isFinite_of_mem_targets {entries : List (String × Double)} {noise : σ}
    (hdraw : ∀ noise, Double.finite true Double.unity ≤ (draw noise).1 ∧
      (draw noise).1 ≤ Double.finite false Double.unity)
    (hprices : ∀ entry ∈ entries, (entry.2 + entry.2).isFinite = true) :
    ∀ target ∈ targets draw entries noise, target.2.isFinite = true := by
  induction entries generalizing noise with
  | nil => exact List.forall_mem_nil _
  | cons entry rest ih =>
      obtain ⟨hprice, hrest⟩ := List.forall_mem_cons.mp hprices
      obtain ⟨hlow, hhigh⟩ := hdraw noise
      exact List.forall_mem_cons.mpr ⟨isFinite_stepFrom hprice hlow hhigh, ih hrest⟩

/-- Steps between minus one and one do not lead to infinity as long as twice each price is
finite. -/
theorem staysFinite_of_bounded
    (hdraw : ∀ noise, Double.finite true Double.unity ≤ (draw noise).1 ∧
      (draw noise).1 ≤ Double.finite false Double.unity)
    (hprices : ∀ price ∈ w.prices.values, (price + price).isFinite = true) :
    w.StaysFinite draw :=
  isFinite_of_mem_targets hdraw fun _ hentry ↦ hprices _ (List.mem_map_of_mem hentry)

/-- A round that returns has made every symbol of the walk active. -/
theorem mem_activeSymbols_round {intervals : List Interval} {calls : List Engine.Call}
    {ticks : List Tick} (hintervals : intervals ≠ [])
    (hengine : e = (Engine.fresh intervals).run refuses calls)
    (h : (w.round draw refuses now e).2.2 = .ok ticks) :
    ∀ symbol ∈ w.prices.keys, symbol ∈ (w.round draw refuses now e).2.1.activeSymbols := by
  obtain ⟨hsymbols, _, hreached⟩ := engine_steps_of_ok h
  obtain ⟨i, hi⟩ := List.exists_mem_of_ne_nil _ hintervals
  intro symbol hsymbol
  rw [Keyed.keys, ← hsymbols] at hsymbol
  obtain ⟨t, ht, rfl⟩ := List.mem_map.mp hsymbol
  rw [round, hreached, hengine, ← Engine.run_append, Engine.mem_activeSymbols_iff]
  refine ⟨i, (Engine.mem_keys_run_fresh_iff intervals refuses _ _).mpr ⟨?_, hi⟩⟩
  refine List.mem_map_of_mem (List.mem_filterMap.mpr ⟨.ingest t, ?_, rfl⟩)
  exact List.mem_append_right _ (List.mem_map_of_mem ht)

/-- What a round of a walk of the given symbols comes to. -/
structure RoundLaw (draw : σ → Double × σ) (symbols : List String) (w : Walk σ) (e : Engine)
    (now : Int) : Prop where
  returns_iff : (∃ ticks, (w.round draw .none now e).2.2 = .ok ticks) ↔
    (∀ symbol ∈ symbols, Symbol.isBlank symbol = false) ∧ w.StaysFinite draw
  symbols_eq : ∀ ticks, (w.round draw .none now e).2.2 = .ok ticks →
    ticks.map Tick.symbol = symbols.eraseDups ∧ ∀ t ∈ ticks, t.timestamp = now
  active : ∀ ticks, (w.round draw .none now e).2.2 = .ok ticks →
    ∀ symbol ∈ symbols, symbol ∈ (w.round draw .none now e).2.1.activeSymbols
  finite_of_bounded : (∀ noise, Double.finite true Double.unity ≤ (draw noise).1 ∧
    (draw noise).1 ≤ Double.finite false Double.unity) →
      (∀ price ∈ w.prices.values, (price + price).isFinite = true) → w.StaysFinite draw

theorem roundLaw_of_keys {intervals : List Interval} {calls : List Engine.Call}
    {symbols : List String} (draw : σ → Double × σ) (hkeys : w.prices.keys = symbols.eraseDups)
    (hintervals : intervals ≠ []) (hengine : e = (Engine.fresh intervals).run .none calls)
    (hnow : 0 < now) : RoundLaw draw symbols w e now := by
  have hsound : e.Sound := hengine ▸ (Engine.sound_fresh intervals).run .none calls
  have hmem : ∀ symbol, symbol ∈ w.prices.keys ↔ symbol ∈ symbols := by
    intro symbol
    rw [hkeys, List.mem_eraseDups]
  constructor
  · simp only [returns_round_iff hsound hnow, hmem]
  · intro ticks h
    obtain ⟨hsymbols, htimes, _⟩ := engine_steps_of_ok h
    exact ⟨hsymbols.trans hkeys, htimes⟩
  · intro ticks h symbol hsymbol
    exact mem_activeSymbols_round hintervals hengine h symbol ((hmem symbol).mpr hsymbol)
  · exact staysFinite_of_bounded

/-- By its rounds a walk changes none of its symbols, and the engine is only fed. -/
theorem keys_rounds_and_run (draw : σ → Double × σ) (c : Course σ) (moments : List Int) :
    (c.rounds draw .none moments).walk.prices.keys = c.walk.prices.keys ∧
      ∃ calls, (c.rounds draw .none moments).engine = c.engine.run .none calls := by
  induction moments generalizing c with
  | nil => exact ⟨rfl, [], rfl⟩
  | cons now later ih =>
      obtain ⟨hkeys, calls, hcalls, _⟩ := keys_round_and_leadsTo draw now c.walk c.engine
      obtain ⟨hlater, others, hothers⟩ := ih (c.round draw .none now)
      refine ⟨hlater.trans hkeys, calls ++ others, ?_⟩
      rw [Engine.run_append, ← hcalls]
      exact hothers

/-! ## The run of a walk -/

theorem period_round (draw : σ → Double × σ) (refuses : Refusals) (now : Int) (w : Walk σ)
    (e : Engine) : (w.round draw refuses now e).1.period = w.period := by
  refine steps_invariant (motive := fun walked _ ↦ walked.period = w.period) ?_ rfl
  rintro ⟨symbol, price⟩ _ walked reached h
  obtain ⟨_, _, _, ⟨_, _, hstep⟩ | ⟨_, _, ⟨_, _, hstep⟩ | ⟨_, hstep⟩⟩⟩ :=
    step_cases draw refuses now walked reached symbol price
  all_goals
    rw [hstep]
    exact h

/-- A walk that is started runs on if it was running, or if its first round returns and there is
such a period to wait for. -/
theorem running_start_iff (hpos : 0 < w.period) :
    (w.start draw refuses now e).1.running = true ↔ w.running = true ∨
      (∃ ticks, (w.round draw refuses now e).2.2 = .ok ticks) ∧ w.period < Period.bound := by
  rw [start]
  split
  · next hrunning => exact iff_of_true hrunning (Or.inl hrunning)
  · next hrunning =>
      rw [or_iff_right hrunning, ← isOk_iff_exists, ← Period.isSome_seconds?_iff hpos,
        ← period_round draw refuses now w e]
      exact Bool.and_eq_true_iff

end Candlestick.Walk
