import Candlestick.Proofs.Engine.Symbols
import Candlestick.Proofs.Tick
import Candlestick.Walk

/-!
# The symbols of a walk

A walk keeps its symbols, and its ticks come under them as they are spelled. Whatever numbers are
drawn and wherever a round is cut short, the engine has taken in ticks of the walk and nothing else.
-/

namespace Candlestick.Walk

variable {σ : Type} {draw : σ → Double × σ} {now : Int}

theorem symbol_of_tickAround {symbol : String} {price : Double} {t : Tick}
    (h : tickAround symbol price now = .ok t) : t.symbol = symbol :=
  (Tick.make_eq_ok_iff.mp h).1

theorem keys_setPrice (w : Walk σ) {symbol : String} (h : symbol ∈ w.prices.keys)
    (price : Double) : (w.setPrice symbol price).prices.keys = w.prices.keys := by
  rw [setPrice, Keyed.keys_put, if_pos h]

/-- What one step can do: the tick is taken in, or the walk is left with the prices it had. -/
theorem step_cases (draw : σ → Double × σ) (refuses : Refusals) (now : Int) (w : Walk σ)
    (e : Engine) (symbol : String) (price : Double) :
    ∃ size noise, draw w.noise = (size, noise) ∧
      ((∃ fault, tickAround symbol (stepFrom price size) now = .error fault ∧
        w.step draw refuses now e symbol price =
          ({ w with noise }, e, .error (.invalidTick fault))) ∨
      ∃ t, tickAround symbol (stepFrom price size) now = .ok t ∧
        ((∃ fault, (e.ingest refuses t).2 = .error fault ∧
          w.step draw refuses now e symbol price =
            ({ w with noise }, (e.ingest refuses t).1, .error (.engine fault))) ∨
        ((e.ingest refuses t).2 = .ok () ∧ w.step draw refuses now e symbol price =
          ({ { w with noise }.setPrice symbol (stepFrom price size) with events := w.events + 1 },
            (e.ingest refuses t).1, .ok t)))) := by
  refine ⟨(draw w.noise).1, (draw w.noise).2, rfl, ?_⟩
  simp only [step]
  cases htick : tickAround symbol (stepFrom price (draw w.noise).1) now with
  | error fault => exact Or.inl ⟨fault, rfl, rfl⟩
  | ok t =>
      refine Or.inr ⟨t, rfl, ?_⟩
      cases hingest : e.ingest refuses t with
      | mk reached result =>
          cases result with
          | error fault => exact Or.inl ⟨fault, rfl, by simp only [hingest]⟩
          | ok taken => exact Or.inr ⟨rfl, by simp only [hingest]⟩

theorem keys_step (refuses : Refusals) (w : Walk σ) (e : Engine) {symbol : String}
    (h : symbol ∈ w.prices.keys) (price : Double) :
    (w.step draw refuses now e symbol price).1.prices.keys = w.prices.keys := by
  obtain ⟨size, noise, _, ⟨fault, _, hstep⟩ | ⟨t, _, ⟨fault, _, hstep⟩ | ⟨_, hstep⟩⟩⟩ :=
    step_cases draw refuses now w e symbol price
  · rw [hstep]
  · rw [hstep]
  · rw [hstep]
    exact keys_setPrice { w with noise } h _

theorem leadsTo_step (w : Walk σ) (e : Engine) (symbol : String) (price : Double) :
    Engine.LeadsTo (fun t ↦ t.symbol = symbol) e (w.step draw .none now e symbol price).2.1 := by
  obtain ⟨size, noise, _, ⟨fault, _, hstep⟩ | ⟨t, htick, ⟨fault, _, hstep⟩ | ⟨_, hstep⟩⟩⟩ :=
    step_cases draw .none now w e symbol price
  · rw [hstep]
    exact .refl _ e
  · rw [hstep]
    exact .ingest (symbol_of_tickAround htick) e
  · rw [hstep]
    exact .ingest (symbol_of_tickAround htick) e

/-- What no step of a round can end, the round cannot end. -/
theorem steps_invariant {refuses : Refusals} {motive : Walk σ → Engine → Prop}
    {entries : List (String × Double)}
    (hstep : ∀ entry ∈ entries, ∀ w e, motive w e →
      motive (w.step draw refuses now e entry.1 entry.2).1
        (w.step draw refuses now e entry.1 entry.2).2.1)
    {w : Walk σ} {e : Engine} (h : motive w e) :
    motive (w.steps draw refuses now entries e).1 (w.steps draw refuses now entries e).2.1 := by
  induction entries generalizing w e with
  | nil => exact h
  | cons entry rest ih =>
      obtain ⟨symbol, price⟩ := entry
      have hreached := hstep (symbol, price) List.mem_cons_self w e h
      rw [steps]
      cases hmade : w.step draw refuses now e symbol price with
      | mk walked outcome =>
          obtain ⟨reached, result⟩ := outcome
          rw [hmade] at hreached
          cases result with
          | error fault => exact hreached
          | ok t =>
              exact ih (fun other hother ↦ hstep other (List.mem_cons_of_mem _ hother)) hreached

/-- A round leaves the walk with its symbols, and the engine has taken in ticks of them only. -/
theorem keys_round_and_leadsTo (draw : σ → Double × σ) (now : Int) (w : Walk σ) (e : Engine) :
    (w.round draw .none now e).1.prices.keys = w.prices.keys ∧
      Engine.LeadsTo (fun t ↦ t.symbol ∈ w.prices.keys) e (w.round draw .none now e).2.1 := by
  refine steps_invariant (motive := fun walked reached ↦ walked.prices.keys = w.prices.keys ∧
    Engine.LeadsTo (fun t ↦ t.symbol ∈ w.prices.keys) e reached) ?_ ⟨rfl, .refl _ e⟩
  rintro entry hentry walked reached ⟨hkeys, hleads⟩
  have hsymbol : entry.1 ∈ w.prices.keys := List.mem_map_of_mem hentry
  constructor
  · rw [keys_step .none walked reached (hkeys ▸ hsymbol), hkeys]
  · refine hleads.trans ((leadsTo_step walked reached entry.1 entry.2).mono ?_)
    intro t ht
    rw [ht]
    exact hsymbol

theorem exists_of_map_eq_ok {ε α β : Type} {result : Except ε α} {f : α → β} {b : β}
    (h : result.map f = .ok b) : ∃ a, result = .ok a ∧ f a = b := by
  cases result with
  | error fault => cases h
  | ok a => exact ⟨a, rfl, Except.ok.inj h⟩

theorem isOk_iff_exists {ε α : Type} {result : Except ε α} :
    result.isOk = true ↔ ∃ a, result = .ok a := by
  cases result with
  | error fault => exact iff_of_false Bool.false_ne_true fun h ↦ nomatch h
  | ok a => exact iff_of_true rfl ⟨a, rfl⟩

/-- A round that returns has taken in one tick for each symbol, in order. -/
theorem engine_steps_of_ok {refuses : Refusals} {entries : List (String × Double)} {w : Walk σ}
    {e : Engine} {ticks : List Tick} (h : (w.steps draw refuses now entries e).2.2 = .ok ticks) :
    ticks.map Tick.symbol = entries.map Prod.fst ∧ (∀ t ∈ ticks, t.timestamp = now) ∧
      (w.steps draw refuses now entries e).2.1 = e.run refuses (ticks.map .ingest) := by
  induction entries generalizing w e ticks with
  | nil =>
      cases h
      exact ⟨rfl, List.forall_mem_nil _, rfl⟩
  | cons entry rest ih =>
      obtain ⟨symbol, price⟩ := entry
      obtain ⟨size, noise, _, ⟨fault, _, hstep⟩ | ⟨t, htick, ⟨fault, _, hstep⟩ | ⟨_, hstep⟩⟩⟩ :=
        step_cases draw refuses now w e symbol price
      · rw [steps, hstep] at h
        cases h
      · rw [steps, hstep] at h
        cases h
      · rw [steps, hstep] at h ⊢
        dsimp only at h ⊢
        obtain ⟨later, hlater, rfl⟩ := exists_of_map_eq_ok h
        obtain ⟨hsymbols, htimes, hreached⟩ := ih hlater
        obtain ⟨hsymbol, _, _, htime⟩ := Tick.make_eq_ok_iff.mp htick
        refine ⟨?_, List.forall_mem_cons.mpr ⟨htime, htimes⟩, ?_⟩
        · rw [List.map_cons, hsymbol, hsymbols, List.map_cons]
        · rw [hreached, List.map_cons, Engine.run_cons]
          rfl

theorem keys_start_and_leadsTo (draw : σ → Double × σ) (now : Int) (w : Walk σ) (e : Engine) :
    (w.start draw .none now e).1.prices.keys = w.prices.keys ∧
      Engine.LeadsTo (fun t ↦ t.symbol ∈ w.prices.keys) e (w.start draw .none now e).2 := by
  rw [start]
  split
  · exact ⟨rfl, .refl _ e⟩
  · exact keys_round_and_leadsTo draw now w e

theorem mem_keys_ofSymbols {period : Int} {symbols : List String} {noise : σ} {symbol : String} :
    symbol ∈ (ofSymbols period symbols noise).prices.keys ↔ symbol ∈ symbols := by
  have hfold : ∀ prices : Keyed String Double, symbol ∈ (symbols.foldl (fun prices symbol ↦
      prices.put symbol (basePrice symbol)) prices).keys ↔
        symbol ∈ symbols ∨ symbol ∈ prices.keys := by
    induction symbols with
    | nil => exact fun prices ↦ (or_iff_right List.not_mem_nil).symm
    | cons first rest ih =>
        intro prices
        rw [List.foldl_cons, ih, Keyed.mem_keys_put, List.mem_cons, or_assoc, or_left_comm]
  exact (hfold .empty).trans (or_iff_left List.not_mem_nil)

/-- A walk has each of its symbols once, in the order in which they are first given. -/
theorem keys_ofSymbols (period : Int) (symbols : List String) (noise : σ) :
    (ofSymbols period symbols noise).prices.keys = symbols.eraseDups := by
  induction symbols using List.reverseRecOn with
  | nil => rfl
  | append_singleton earlier symbol ih =>
      have hput : (ofSymbols period (earlier ++ [symbol]) noise).prices =
          (ofSymbols period earlier noise).prices.put symbol (basePrice symbol) := by
        rw [ofSymbols, List.foldl_append]
        rfl
      rw [hput, Keyed.keys_put, List.eraseDups_append, ← ih]
      by_cases hmem : symbol ∈ earlier
      · rw [if_pos (mem_keys_ofSymbols.mpr hmem)]
        simp [List.removeAll, hmem]
      · rw [if_neg fun hkey ↦ hmem (mem_keys_ofSymbols.mp hkey)]
        simp [List.removeAll, hmem, List.eraseDups_cons]

end Candlestick.Walk
