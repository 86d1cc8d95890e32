import Candlestick.Proofs.Bus.Reading
import Candlestick.Proofs.Http.Ticks
import Candlestick.Proofs.Walk

/-!
# Runs of a service

Whatever a service goes through, its engine goes through ingests, sweeps and shutdowns, and none of
their saves is refused (`exists_calls_run`). Posts and messages bring ticks under canonical symbols.
The ticks of the walk come under the symbols that the settings give, as they are spelled there.
-/

namespace Candlestick

/-- What every receiver keeps, a message keeps. -/
theorem Broker.deliver_invariant {ρ σ ε : Type} {receive : ρ → σ → σ × Except ε Unit}
    {motive : σ → Prop} (hreceive : ∀ receiver s, motive s → motive (receive receiver s).1)
    {b : Broker ρ} {s : σ} (h : motive s) : motive (b.deliver receive s).1 := by
  change motive (deliverTo receive (b.live.map Prod.snd) s).1
  generalize b.live.map Prod.snd = receivers
  induction receivers generalizing s with
  | nil => exact h
  | cons receiver rest ih =>
      have hnow := hreceive receiver s h
      rw [deliverTo]
      split
      · next heq =>
          rw [heq] at hnow
          exact hnow
      · next heq =>
          rw [heq] at hnow
          exact ih hnow

namespace Http

theorem postTick_cases (s : Service) (r : Request) :
    (postTick s r).1 = s ∨
      ∃ t, Symbol.normalize t.symbol = t.symbol ∧ (postTick s r).1 = (s.ingest t).1 := by
  rw [fst_postTick]
  cases htick : r.tick? with
  | none => exact Or.inl rfl
  | some t =>
      obtain ⟨_, _, _, _, hsymbol, _⟩ := Request.tick?_eq_some_iff.mp htick
      refine Or.inr ⟨t, ?_, rfl⟩
      rw [hsymbol, Symbol.normalize_normalize]

/-- All that a request can do to a service. -/
theorem respond_cases (s : Service) (r : Request) :
    (respond s r).1 = s ∨
      ∃ t, Symbol.normalize t.symbol = t.symbol ∧ (respond s r).1 = (s.ingest t).1 := by
  unfold respond
  split
  · next route _ =>
      split
      · cases route
        case ticks => exact postTick_cases s r
        all_goals exact Or.inl rfl
      · exact Or.inl rfl
  · split <;> exact Or.inl rfl

end Http

namespace Service

/-- What a service goes through. -/
inductive Event where
  | start (outages : Outages) (now : Int)
  | request (r : Http.Request)
  | message (bytes : List UInt8)
  | link (up : Bool)
  | round (now : Int)
  | sweep (now : Int)
  | stop (outages : Outages)

def perform (s : Service) : Event → Service
  | .start outages now => s.start outages now
  | .request r => (Http.respond s r).1
  | .message bytes => (s.deliver bytes).1
  | .link up => { s with broker := s.broker.setLink up }
  | .round now => s.continueWalk now
  | .sweep now => (s.sweepNow now).1
  | .stop outages => s.stop outages

/-- The service after several events. -/
def run (s : Service) (events : List Event) : Service :=
  events.foldl perform s

/-- A tick under a canonical symbol, or under one of the given symbols. -/
def Admits (given : String → Prop) (t : Tick) : Prop :=
  Symbol.normalize t.symbol = t.symbol ∨ given t.symbol

/-- The symbols of the walk are among the given ones. -/
def Walks (given : String → Prop) (s : Service) : Prop :=
  ∀ w ∈ s.walk, ∀ symbol ∈ w.prices.keys, given symbol

/-- From one state a service gets to another by ticks that are admitted, and keeps its walk. -/
def Follows (given : String → Prop) (s reached : Service) : Prop :=
  s.Walks given → reached.Walks given ∧ Engine.LeadsTo (Admits given) s.engine reached.engine

variable {given : String → Prop} {s middle reached : Service}

theorem Follows.of_eq (hwalk : reached.walk = s.walk) (hengine : reached.engine = s.engine) :
    Follows given s reached := by
  intro h
  rw [hengine]
  exact ⟨fun w hw ↦ h w (hwalk ▸ hw), .refl _ _⟩

theorem Follows.trans (h : Follows given s middle) (hlater : Follows given middle reached) :
    Follows given s reached := by
  intro hwalks
  obtain ⟨hmiddle, hleads⟩ := h hwalks
  obtain ⟨hreached, hon⟩ := hlater hmiddle
  exact ⟨hreached, hleads.trans hon⟩

theorem Follows.of_leadsTo (hwalk : reached.walk = s.walk)
    (hengine : Engine.LeadsTo (Admits given) s.engine reached.engine) :
    Follows given s reached :=
  fun h ↦ ⟨fun w hw ↦ h w (hwalk ▸ hw), hengine⟩

theorem follows_ingest {t : Tick} (ht : Symbol.normalize t.symbol = t.symbol) (s : Service) :
    Follows given s (s.ingest t).1 :=
  .of_leadsTo rfl (.ingest (Or.inl ht) s.engine)

theorem follows_startWalk (now : Int) (s : Service) : Follows given s (s.startWalk now) := by
  unfold startWalk
  split
  · exact .of_eq rfl rfl
  · next w hw =>
      intro h
      obtain ⟨hkeys, hleads⟩ := w.keys_start_and_leadsTo Walk.drawNormal now s.engine
      refine ⟨?_, hleads.mono fun t ht ↦ Or.inr (h w hw t.symbol ht)⟩
      rintro _ ⟨⟩ symbol hsymbol
      exact h w hw symbol (hkeys ▸ hsymbol)

theorem follows_continueWalk (now : Int) (s : Service) : Follows given s (s.continueWalk now) := by
  unfold continueWalk
  split
  · exact .of_eq rfl rfl
  · next w hw =>
      split
      · intro h
        obtain ⟨hkeys, hleads⟩ := w.keys_round_and_leadsTo Walk.drawNormal now s.engine
        refine ⟨?_, hleads.mono fun t ht ↦ Or.inr (h w hw t.symbol ht)⟩
        rintro _ ⟨⟩ symbol hsymbol
        exact h w hw symbol (hkeys ▸ hsymbol)
      · exact .of_eq rfl rfl

theorem startConsumer_parts (outages : Outages) (s : Service) :
    (s.startConsumer outages).walk = s.walk ∧ (s.startConsumer outages).engine = s.engine ∧
      (s.startConsumer outages).sweeper = s.sweeper := by
  unfold startConsumer
  split <;> exact ⟨rfl, rfl, rfl⟩

theorem stopConsumer_parts (outages : Outages) (s : Service) :
    (s.stopConsumer outages).walk = s.walk ∧ (s.stopConsumer outages).engine = s.engine ∧
      (s.stopConsumer outages).sweeper = s.sweeper := by
  unfold stopConsumer
  split <;> exact ⟨rfl, rfl, rfl⟩

theorem follows_stopWalk (s : Service) : Follows given s s.stopWalk := by
  intro h
  refine ⟨?_, .refl _ _⟩
  rintro _ hw symbol hsymbol
  obtain ⟨w, hwalk, rfl⟩ := Option.map_eq_some_iff.mp hw
  exact h w hwalk symbol hsymbol

theorem follows_drain (s : Service) : Follows given s s.drain := by
  have hengine : s.drain.engine = (s.sweeper.stop .none s.engine).2.1 := rfl
  refine .of_leadsTo rfl ?_
  rw [hengine, Sweeper.stop]
  split
  · exact .refl _ _
  · exact .shutdown _ _

theorem follows_sweepNow (now : Int) (s : Service) : Follows given s (s.sweepNow now).1 := by
  have hengine : (s.sweepNow now).1.engine = (s.engine.sweep .none now).1 := by
    change (s.sweeper.sweepNow .none s.engine now).2.1 = _
    unfold Sweeper.sweepNow
    split
    · next heq => rw [heq]
    · next heq => rw [heq]
  refine .of_leadsTo rfl ?_
  rw [hengine]
  exact .sweep _ _ now

theorem follows_receive (bytes : List UInt8) (receiver : Unit) (s : Service) :
    Follows given s (receive bytes receiver s).1 := by
  unfold receive
  split
  · exact .of_eq rfl rfl
  · next consumer _ =>
      refine .of_leadsTo rfl ?_
      change Engine.LeadsTo _ s.engine (consumer.handle .none s.engine bytes).2.1
      rw [consumer.engine_handle]
      cases htick : Consumer.tickOf bytes with
      | error rejection => exact .refl _ _
      | ok t =>
          have hsymbol := (Consumer.tickOf_eq_ok_iff.mp htick).normalize_symbol
          exact .ingest (Or.inl hsymbol) s.engine

theorem follows_deliver (bytes : List UInt8) (s : Service) :
    Follows given s (s.deliver bytes).1 := by
  refine Broker.deliver_invariant (motive := Follows given s) ?_ (.of_eq rfl rfl)
  intro receiver reached h
  exact h.trans (follows_receive bytes receiver reached)

theorem follows_perform (event : Event) (s : Service) : Follows given s (s.perform event) := by
  cases event with
  | start outages now =>
      have hsweeper : Follows given s { s with sweeper := s.sweeper.start } := .of_eq rfl rfl
      obtain ⟨hwalk, hengine, _⟩ :=
        startConsumer_parts outages (startWalk now { s with sweeper := s.sweeper.start })
      exact (hsweeper.trans (follows_startWalk now _)).trans (.of_eq hwalk hengine)
  | request r =>
      rcases Http.respond_cases s r with h | ⟨t, ht, h⟩
      · exact .of_eq (congrArg walk h) (congrArg engine h)
      · rw [perform, h]
        exact follows_ingest ht s
  | message bytes => exact follows_deliver bytes s
  | link up => exact .of_eq rfl rfl
  | round now => exact follows_continueWalk now s
  | sweep now => exact follows_sweepNow now s
  | stop outages =>
      obtain ⟨hwalk, hengine, _⟩ := stopConsumer_parts outages s.stopWalk
      exact ((follows_stopWalk s).trans (.of_eq hwalk hengine)).trans (follows_drain _)

theorem follows_run (events : List Event) (s : Service) : Follows given s (s.run events) := by
  induction events generalizing s with
  | nil => exact .of_eq rfl rfl
  | cons event rest ih => exact (follows_perform event s).trans (ih _)

/-! ## The service that the settings ask for -/

variable {settings : Settings} {entropy : Int} {conduct : Broker.Conduct}

theorem parts_ofSettings? (h : ofSettings? entropy settings conduct = some s) :
    s.walk = walkOf entropy settings.generator ∧ s.engine = .fresh Interval.catalog ∧
      s.sweeper.running = false := by
  unfold ofSettings? at h
  cases hperiod : Period.seconds? settings.flush.interval.val with
  | none =>
      rw [hperiod] at h
      cases h
  | some period =>
      rw [hperiod] at h
      cases h
      exact ⟨rfl, rfl, rfl⟩

theorem walks_ofSettings? (h : ofSettings? entropy settings conduct = some s) :
    s.Walks fun symbol ↦ settings.generator.enabled = true ∧
      symbol ∈ settings.generator.symbols := by
  intro w hw symbol hsymbol
  rw [(parts_ofSettings? h).1, walkOf] at hw
  split at hw
  · next henabled =>
      cases hw
      exact ⟨henabled, Walk.mem_keys_ofSymbols.mp hsymbol⟩
  · cases hw

/-- The engine of a service has gone through a run of its own. A tick of that run is under a
canonical symbol, or it is one of the walk, under a symbol that the settings give. -/
theorem exists_calls_run (h : ofSettings? entropy settings conduct = some s) (events : List Event) :
    ∃ calls, (s.run events).engine = (Engine.fresh Interval.catalog).run .none calls ∧
      ∀ t ∈ calls.filterMap Engine.Call.tick?, Symbol.normalize t.symbol = t.symbol ∨
        settings.generator.enabled = true ∧ t.symbol ∈ settings.generator.symbols := by
  obtain ⟨_, calls, hcalls, hadmits⟩ := follows_run events s (walks_ofSettings? h)
  rw [(parts_ofSettings? h).2.1] at hcalls
  exact ⟨calls, hcalls, hadmits⟩

end Service

end Candlestick
