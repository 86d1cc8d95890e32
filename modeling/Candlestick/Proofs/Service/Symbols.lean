import Candlestick.Proofs.Engine.Timeframes
import Candlestick.Proofs.Service.Run

/-!
# Listed symbols

A service lists the symbols that it has candles for. Each of them is in canonical form, or it is one
of those that the settings give to the walk; a query looks under its canonical form in either case
(`listed_of_run`). So candles are out of reach exactly where the settings give a symbol in another
form, and there they are: such a symbol is listed after the first round of the walk
(`listed_of_first_round`).
-/

namespace Candlestick.Service

variable {settings : Settings} {entropy : Int} {conduct : Broker.Conduct} {s : Service}

/-- The symbols are those that a client is told. It is told none of them if there is one that cannot
be given as bytes. -/
def Lists (s : Service) (symbols : List String) : Prop :=
  ∀ r : Http.Request, r.method = "GET" → r.path = "/symbols" →
    (Http.respond s r).2 =
      if symbols.all Text.Utf8.isEncodable then .json 200 (.list (symbols.map .text))
      else .unsendable

theorem areFinite_map_text (texts : List String) : Json.areFinite (texts.map .text) = true := by
  induction texts with
  | nil => rfl
  | cons first rest ih => exact ih

theorem areEncodable_map_text (texts : List String) :
    Json.areEncodable (texts.map .text) = texts.all Text.Utf8.isEncodable := by
  induction texts with
  | nil => rfl
  | cons first rest ih => exact congrArg (Text.Utf8.isEncodable first && ·) ih

theorem lists_symbols (s : Service) : s.Lists s.engine.store.symbols := by
  intro r hmethod hpath
  have hroute : Http.Route.ofPath? r.path = some .symbols := by
    rw [hpath]
    decide
  have hfinite : (Json.list (s.engine.store.symbols.map .text)).isFinite = true :=
    areFinite_map_text _
  have hencodable : (Json.list (s.engine.store.symbols.map .text)).isEncodable =
      s.engine.store.symbols.all Text.Utf8.isEncodable :=
    areEncodable_map_text _
  rw [Http.respond_eq_serve hroute hmethod, Http.serve, Http.Reply.ok, Http.Reply.send, hfinite,
    if_pos rfl, Http.Reply.encode, hencodable]

/-- Every symbol that a service lists has candles. It is canonical, or the settings give it to the
walk as it is spelled. Whoever asks for it gets what is stored under its canonical form. -/
theorem listed_of_run (h : ofSettings? entropy settings conduct = some s) (events : List Event) :
    ∃ symbols, (s.run events).Lists symbols ∧
      (∀ symbol, symbol ∈ symbols ↔ ∃ label start c,
        (s.run events).engine.store.get? ⟨symbol, label, start⟩ = some c) ∧
      ∀ symbol ∈ symbols,
        (Symbol.normalize symbol = symbol ∨
          settings.generator.enabled = true ∧ symbol ∈ settings.generator.symbols) ∧
        Http.FoundAs (s.run events) symbol (Symbol.normalize symbol) := by
  obtain ⟨calls, hcalls, hadmits⟩ := exists_calls_run h events
  refine ⟨_, lists_symbols _, fun symbol ↦ Store.mem_symbols_iff, ?_⟩
  intro symbol hsymbol
  have hknows : (s.run events).engine.Knows
      fun symbol ↦ ∃ t ∈ calls.filterMap Engine.Call.tick?, t.symbol = symbol := by
    rw [hcalls]
    exact (Engine.knows_fresh _ _).run .none fun t ht ↦ ⟨t, ht, rfl⟩
  obtain ⟨label, start, c, hstored⟩ := Store.mem_symbols_iff.mp hsymbol
  obtain ⟨t, ht, rfl⟩ := hknows.store _ (Keyed.mem_keys_iff.mpr ⟨c, hstored⟩)
  exact ⟨hadmits t ht, Http.foundAs_normalize t.symbol_not_blank _⟩

/-- Settings that give the walk a symbol in lower case. -/
def lowerCase : Settings :=
  { Settings.standard with
    generator := { Settings.Generator.standard with symbols := ["btc-usd"] } }

/-- A tick is posted under another symbol in lower case. -/
def lowerCaseRun : List Event :=
  [.request ⟨"POST", "/ticks", [],
      "\x7b\"symbol\": \"sol-usd \", \"bid\": 149.5, \"ask\": 150, \"timestamp\": 10700\x7d",
      some "application/json"⟩,
    .stop .none]

theorem listed_of_run_lowerCase :
    ∃ s symbols, ofSettings? 0 lowerCase = some s ∧ (s.run lowerCaseRun).Lists symbols ∧
      "SOL-USD" ∈ symbols ∧ Symbol.normalize "SOL-USD" = "SOL-USD" ∧
      Http.FoundAs (s.run lowerCaseRun) "SOL-USD" "SOL-USD" := by
  have hstored : (ofSettings? 0 lowerCase).map (fun s ↦
      ((s.run lowerCaseRun).engine.store.get? ⟨"SOL-USD", "1m", 0⟩).isSome) = some true := by
    decide +kernel
  obtain ⟨s, hs, hsome⟩ := Option.map_eq_some_iff.mp hstored
  obtain ⟨c, hc⟩ := Option.isSome_iff_exists.mp hsome
  obtain ⟨symbols, hlists, hmem, hfound⟩ := listed_of_run hs lowerCaseRun
  have hlisted : "SOL-USD" ∈ symbols := (hmem "SOL-USD").mpr ⟨"1m", 0, c, hc⟩
  have hcanonical : Symbol.normalize "SOL-USD" = "SOL-USD" := by decide +kernel
  have hanswer := (hfound "SOL-USD" hlisted).2
  rw [hcanonical] at hanswer
  exact ⟨s, symbols, hs, hlists, hlisted, hcanonical, hanswer⟩

/-! ## Symbols in another form -/

/-- Where a first round returns, all symbols of the walk have candles after a shutdown. -/
theorem mem_symbols_of_round {σ : Type} {draw : σ → Double × σ} {now : Int} {w : Walk σ}
    {ticks : List Tick}
    (h : (w.round draw .none now (.fresh Interval.catalog)).2.2 = .ok ticks) {symbol : String}
    (hsymbol : symbol ∈ w.prices.keys) :
    symbol ∈
      ((w.round draw .none now (.fresh Interval.catalog)).2.1.shutdown .none).1.store.symbols := by
  obtain ⟨hsymbols, htimes, hreached⟩ := Walk.engine_steps_of_ok h
  have horderly : Engine.Orderly (ticks.map .ingest) := by
    constructor
    · intro call hcall
      obtain ⟨t, _, rfl⟩ := List.mem_map.mp hcall
      rfl
    · refine List.pairwise_map.mpr (List.pairwise_of_forall_mem_list ?_)
      intro t ht u hu _
      rw [htimes t ht, htimes u hu]
  have hstore : ((w.round draw .none now (.fresh Interval.catalog)).2.1.shutdown .none).1.store =
      Engine.closingStore (ticks.map .ingest) := by
    rw [Walk.round, hreached, Engine.closingStore, Engine.run, Engine.run, List.foldl_append]
    rfl
  have hgiven : symbol ∈ ticks.map Tick.symbol := hsymbols.symm ▸ hsymbol
  obtain ⟨t, ht, rfl⟩ := List.mem_map.mp hgiven
  have hmem : t ∈ Engine.ticksOf t.symbol (ticks.map .ingest) := by
    rw [Engine.ticksOf, List.filterMap_map]
    exact List.mem_filter.mpr ⟨List.mem_filterMap.mpr ⟨t, ht, rfl⟩, decide_eq_true rfl⟩
  obtain ⟨c, hc⟩ := horderly.exists_stored hmem .oneMinute
  rw [hstore]
  exact Store.mem_symbols_iff.mpr ⟨_, _, c, hc⟩

/-- A service that is started and stopped has made one round of its walk and drained the engine. -/
theorem engine_start_stop {w : Walk Normal} (hwalk : s.walk = some w) (hstill : w.running = false)
    (hidle : s.sweeper.running = false) (outages : Outages) (now : Int) (later : Outages) :
    (s.run [.start outages now, .stop later]).engine =
      ((w.round Walk.drawNormal .none now s.engine).2.1.shutdown .none).1 := by
  set begun := startWalk now { s with sweeper := s.sweeper.start } with hbegun
  have hengine : begun.engine = (w.round Walk.drawNormal .none now s.engine).2.1 := by
    simp only [hbegun, startWalk, hwalk, Walk.start, hstill, Bool.false_eq_true, if_false]
  have hsweeper : begun.sweeper.drained = false := by
    simp only [hbegun, startWalk, hwalk, Sweeper.start, hidle, Bool.false_eq_true, if_false]
  obtain ⟨_, hstarted, hrunning⟩ := startConsumer_parts outages begun
  obtain ⟨_, hstopped, hsame⟩ := stopConsumer_parts later (begun.startConsumer outages).stopWalk
  change ((begun.startConsumer outages).stopWalk.stopConsumer later).drain.engine = _
  change (Sweeper.stop .none ((begun.startConsumer outages).stopWalk.stopConsumer later).sweeper
    ((begun.startConsumer outages).stopWalk.stopConsumer later).engine).2.1 = _
  rw [hsame, hstopped]
  change (Sweeper.stop .none (begun.startConsumer outages).sweeper
    (begun.startConsumer outages).engine).2.1 = _
  rw [hrunning, hstarted, hengine, Sweeper.stop, hsweeper]
  rfl

/-- If the first round of the walk returns, each symbol that the settings give is listed once the
service has been stopped, in whatever form it was given. -/
theorem listed_of_first_round (h : ofSettings? entropy settings conduct = some s)
    (henabled : settings.generator.enabled = true) {symbol : String}
    (hsymbol : symbol ∈ settings.generator.symbols) {now : Int}
    (hround : ∀ w ∈ s.walk, (w.round Walk.drawNormal .none now s.engine).2.2.isOk = true)
    (outages later : Outages) :
    symbol ∈ (s.run [.start outages now, .stop later]).engine.store.symbols := by
  obtain ⟨hwalk, hengine, hidle⟩ := parts_ofSettings? h
  rw [walkOf, if_pos henabled] at hwalk
  have hok := hround _ hwalk
  rw [engine_start_stop hwalk rfl hidle outages now later]
  rw [hengine] at hok ⊢
  cases hresult : (Walk.round Walk.drawNormal .none now _ (.fresh Interval.catalog)).2.2 with
  | ok ticks => exact mem_symbols_of_round hresult (Walk.mem_keys_ofSymbols.mpr hsymbol)
  | error fault =>
      rw [hresult] at hok
      cases hok

end Candlestick.Service
