import Candlestick.Proofs.Service.Lifespan
import Candlestick.Proofs.Service.Startup
import Candlestick.Proofs.Walk.Returns

/-!
# The walk of a service

Settings that have been loaded need not give a walk that lasts. Symbols that come from a variable
are not blank, but those of a file are taken as they stand; a blank one ends every round before the
symbols after it get a tick. And the period of the walk may have no length in seconds. A walk
without these two flaws makes a tick for each of its symbols in every round and runs on until it is
stopped, as long as its prices stay finite (`walk_of_loaded`).
-/

namespace Candlestick

namespace Settings

theorem not_blank_of_mem_items {text item : String} (h : item ∈ Text.items text) :
    Symbol.isBlank item = false := by
  have hempty : item ≠ "" := Text.ne_empty_of_mem_items h
  obtain ⟨part, _, rfl⟩ := List.mem_map.mp (List.mem_of_mem_filter h)
  have hstrip : Text.strip (String.ofList (Text.trimList Text.isBlank part)) =
      String.ofList (Text.trimList Text.isBlank part) := by
    rw [Text.strip, Text.trim, String.toList_ofList, (Text.tight_trimList _ part).trimList_eq_self]
  rw [Symbol.isBlank, hstrip]
  exact beq_eq_false_iff_ne.mpr hempty

/-- Symbols that a variable gives are not blank. -/
theorem not_blank_of_override {env : Environment} {base s : Settings} {text : String}
    (h : override env base = .valid s) (htext : env.get? "GENERATOR_SYMBOLS" = some text) :
    ∀ symbol ∈ s.generator.symbols, Symbol.isBlank symbol = false := by
  rw [(override_eq_valid_iff.mp h).symbols, Environment.readOr_of_some htext]
  exact fun _ ↦ not_blank_of_mem_items

end Settings

namespace Service

variable {s fresh : Service} {w : Walk Normal} {symbols : List String} {period : Int}

/-- The run of the walk goes on. -/
def isWalking (s : Service) : Bool :=
  (s.walk.map Walk.running).getD false

/-- The next round of the walk leads to finite prices only. -/
def StaysFinite (s : Service) : Prop :=
  ∀ w ∈ s.walk, w.StaysFinite Walk.drawNormal

/-- One more round of a walk, if it runs. -/
def walkFurther (now : Int) (e : Engine) (w : Walk Normal) : Walk Normal :=
  if w.running then
    { (w.round Walk.drawNormal .none now e).1 with
      running := (w.round Walk.drawNormal .none now e).2.2.isOk }
  else w

/-- What becomes of a walk beside the given engine. -/
def Incident.walkOn (e : Engine) (w : Walk Normal) : Incident → Walk Normal
  | .event (.start _ now) => (w.start Walk.drawNormal .none now e).1
  | .event (.round now) => walkFurther now e w
  | .event (.stop _) => w.stop
  | .crash => w.stop
  | _ => w

theorem walk_startWalk (now : Int) (s : Service) :
    (s.startWalk now).walk = s.walk.map fun w ↦ (w.start Walk.drawNormal .none now s.engine).1 := by
  unfold startWalk
  split
  · next h => exact h.trans (congrArg (Option.map _) h).symm
  · next w h =>
      rw [h]
      rfl

theorem walk_continueWalk (now : Int) (s : Service) :
    (s.continueWalk now).walk = s.walk.map (walkFurther now s.engine) := by
  unfold continueWalk
  split
  · next h => exact h.trans (congrArg (Option.map _) h).symm
  · next w h =>
      rw [h, Option.map_some, walkFurther]
      split
      · rfl
      · exact h

theorem walk_deliver (bytes : List UInt8) (s : Service) : (s.deliver bytes).1.walk = s.walk := by
  refine Broker.deliver_invariant
    (motive := fun reached : Service ↦ reached.walk = s.walk) ?_ rfl
  intro receiver reached h
  rw [← h]
  unfold receive
  split <;> rfl

/-- All that can happen to the walk of a service. -/
theorem walk_undergo (s : Service) (incident : Incident) :
    (s.undergo incident).walk = s.walk.map fun w ↦ incident.walkOn s.engine w := by
  cases incident with
  | event event =>
      cases event with
      | start outages now =>
          exact (startConsumer_parts outages _).1.trans (walk_startWalk now _)
      | request r =>
          rcases Http.respond_cases s r with h | ⟨t, _, h⟩
          · exact (congrArg walk h).trans Option.map_id'.symm
          · exact (congrArg walk h).trans Option.map_id'.symm
      | message bytes => exact (walk_deliver bytes s).trans Option.map_id'.symm
      | link up => exact Option.map_id'.symm
      | round now => exact walk_continueWalk now s
      | sweep now => exact Option.map_id'.symm
      | stop outages => exact (stopConsumer_parts outages s.stopWalk).1
  | notice up => exact Option.map_id'.symm
  | crash => rfl

theorem exists_run_undergo (s : Service) (incident : Incident) :
    ∃ calls, (s.undergo incident).engine = s.engine.run .none calls := by
  cases incident with
  | event event =>
      have hfollows : Follows (fun _ ↦ True) s (s.perform event) := follows_perform event s
      obtain ⟨_, calls, hcalls, _⟩ := hfollows fun _ _ _ _ ↦ trivial
      exact ⟨calls, hcalls⟩
  | notice up => exact ⟨[], rfl⟩
  | crash => exact ⟨[], rfl⟩

/-! ## What lasts -/

section WalkOn

variable {e : Engine}

/-- What no round changes, and what does not depend on whether the walk runs, lasts. -/
theorem walkOn_eq {α : Type} (part : Walk Normal → α)
    (hround : ∀ now, part (w.round Walk.drawNormal .none now e).1 = part w)
    (hrunning : ∀ (w : Walk Normal) running, part { w with running } = part w)
    (incident : Incident) : part (incident.walkOn e w) = part w := by
  cases incident with
  | event event =>
      cases event with
      | start outages now =>
          rw [Incident.walkOn, Walk.start]
          split
          · rfl
          · exact (hrunning _ _).trans (hround now)
      | round now =>
          rw [Incident.walkOn, walkFurther]
          split
          · exact (hrunning _ _).trans (hround now)
          · rfl
      | stop outages => exact hrunning w false
      | _ => rfl
  | notice up => rfl
  | crash => exact hrunning w false

theorem keys_walkOn (e : Engine) (w : Walk Normal) (incident : Incident) :
    (incident.walkOn e w).prices.keys = w.prices.keys :=
  walkOn_eq (fun w ↦ w.prices.keys)
    (fun now ↦ (w.keys_round_and_leadsTo Walk.drawNormal now e).1) (fun _ _ ↦ rfl) incident

theorem period_walkOn (e : Engine) (w : Walk Normal) (incident : Incident) :
    (incident.walkOn e w).period = w.period :=
  walkOn_eq Walk.period (fun now ↦ w.period_round Walk.drawNormal .none now e) (fun _ _ ↦ rfl)
    incident

theorem running_walkFurther_iff {now : Int} :
    (walkFurther now e w).running = true ↔ w.running = true ∧
      ∃ ticks, (w.round Walk.drawNormal .none now e).2.2 = .ok ticks := by
  rw [walkFurther]
  split
  · next h => exact Walk.isOk_iff_exists.trans (and_iff_right h).symm
  · next h => exact iff_of_false h fun hboth ↦ h hboth.1

/-- A walk that runs has no blank symbol and a period that can be waited for. -/
structure Lasting (w : Walk Normal) : Prop where
  not_blank : ∀ symbol ∈ w.prices.keys, Symbol.isBlank symbol = false
  period_lt : w.period < Period.bound

theorem lasting_walkOn (hpos : 0 < w.period) (h : w.running = true → Lasting w)
    (incident : Incident) (hrunning : (incident.walkOn e w).running = true) :
    Lasting (incident.walkOn e w) := by
  have hlasting : Lasting w := by
    cases incident with
    | event event =>
        cases event with
        | start outages now =>
            rcases (Walk.running_start_iff hpos).mp hrunning with hwas | ⟨⟨_, hticks⟩, hperiod⟩
            · exact h hwas
            · exact ⟨Walk.not_blank_of_returns hticks, hperiod⟩
        | round now => exact h (running_walkFurther_iff.mp hrunning).1
        | stop outages => cases hrunning
        | _ => exact h hrunning
    | notice up => exact h hrunning
    | crash => cases hrunning
  constructor
  · rw [keys_walkOn]
    exact hlasting.not_blank
  · rw [period_walkOn]
    exact hlasting.period_lt

/-- What does not end the run of a walk on purpose. Rounds are made at positive times. -/
def Incident.SparesWalk : Incident → Prop
  | .event (.stop _) => False
  | .event (.round now) => 0 < now
  | .crash => False
  | _ => True

theorem running_walkOn {incident : Incident} (hspares : incident.SparesWalk) (hsound : e.Sound)
    (hpos : 0 < w.period) (hlasting : Lasting w) (hfinite : w.StaysFinite Walk.drawNormal)
    (hrunning : w.running = true) : (incident.walkOn e w).running = true := by
  cases incident with
  | event event =>
      cases event with
      | start outages now => exact (Walk.running_start_iff hpos).mpr (Or.inl hrunning)
      | round now =>
          have hreturns := (Walk.returns_round_iff hsound hspares).mpr ⟨hlasting.not_blank, hfinite⟩
          exact running_walkFurther_iff.mpr ⟨hrunning, hreturns⟩
      | stop outages => cases hspares
      | _ => exact hrunning
  | notice up => exact hrunning
  | crash => cases hspares

end WalkOn

/-- The walk of a service, beside an engine that has been fed since it was fresh. -/
structure Holds (symbols : List String) (period : Int) (s : Service) (w : Walk Normal) : Prop where
  walk_eq : s.walk = some w
  keys_eq : w.prices.keys = symbols
  period_eq : w.period = period
  lasting : w.running = true → Lasting w
  fed : ∃ calls, s.engine = (Engine.fresh Interval.catalog).run .none calls

theorem Holds.sound (h : Holds symbols period s w) : s.engine.Sound := by
  obtain ⟨calls, hcalls⟩ := h.fed
  rw [hcalls]
  exact (Engine.sound_fresh Interval.catalog).run .none calls

theorem Holds.isWalking_eq (h : Holds symbols period s w) : s.isWalking = w.running := by
  rw [isWalking, h.walk_eq]
  rfl

theorem Holds.undergo (h : Holds symbols period s w) (hpos : 0 < period) (incident : Incident) :
    Holds symbols period (s.undergo incident) (incident.walkOn s.engine w) where
  walk_eq := by
    rw [walk_undergo, h.walk_eq]
    rfl
  keys_eq := (keys_walkOn s.engine w incident).trans h.keys_eq
  period_eq := (period_walkOn s.engine w incident).trans h.period_eq
  lasting := lasting_walkOn (h.period_eq ▸ hpos) h.lasting incident
  fed := by
    obtain ⟨calls, hcalls⟩ := h.fed
    obtain ⟨later, hlater⟩ := exists_run_undergo s incident
    exact ⟨calls ++ later, by rw [hlater, hcalls, Engine.run_append]⟩

theorem Holds.undergoAll (h : Holds symbols period s w) (hpos : 0 < period)
    (incidents : List Incident) :
    ∃ walked, Holds symbols period (s.undergoAll incidents) walked := by
  induction incidents generalizing s w with
  | nil => exact ⟨w, h⟩
  | cons incident rest ih => exact ih (h.undergo hpos incident)

/-- The run of a walk goes on for as long as nothing ends it and the prices stay finite. -/
theorem Holds.isWalking_undergoAll (h : Holds symbols period s w) (hpos : 0 < period)
    (hrunning : w.running = true) {during : List Incident}
    (hspares : ∀ incident ∈ during, incident.SparesWalk)
    (hfinite : ∀ earlier, earlier <+: during → (s.undergoAll earlier).StaysFinite) :
    (s.undergoAll during).isWalking = true := by
  induction during generalizing s w with
  | nil => exact h.isWalking_eq.trans hrunning
  | cons incident rest ih =>
      obtain ⟨hfirst, hrest⟩ := List.forall_mem_cons.mp hspares
      have hnow : w.StaysFinite Walk.drawNormal := hfinite [] List.nil_prefix w h.walk_eq
      refine ih (h.undergo hpos incident) ?_ hrest ?_
      · exact running_walkOn hfirst h.sound (h.period_eq ▸ hpos) (h.lasting hrunning) hnow hrunning
      · intro earlier hearlier
        exact hfinite (incident :: earlier) ((List.prefix_cons_inj incident).mpr hearlier)

/-! ## The walk that the settings ask for -/

variable {settings : Settings} {entropy : Int} {conduct : Broker.Conduct}

theorem holds_ofSettings? (h : ofSettings? entropy settings conduct = some fresh)
    (henabled : settings.generator.enabled = true) :
    ∃ w, w.running = false ∧ Holds settings.generator.symbols.eraseDups
      settings.generator.interval.val fresh w := by
  obtain ⟨hwalk, hengine, _⟩ := parts_ofSettings? h
  rw [walkOf, if_pos henabled] at hwalk
  refine ⟨_, rfl, hwalk, Walk.keys_ofSymbols _ _ _, rfl, ?_, [], hengine⟩
  intro hrunning
  cases hrunning

/-- Symbols that can be walked, and a period that can be waited for. -/
structure Walkable (g : Settings.Generator) : Prop where
  not_blank : ∀ symbol ∈ g.symbols, Symbol.isBlank symbol = false
  interval_lt : g.interval.val < Period.bound

/-- The walk of a service that has been put together from loaded settings, whatever the service has
been through and whatever rounds are made besides. A round at a positive time returns unless a
symbol is blank or a price becomes infinite, and then it has made one tick for each distinct symbol
and all symbols are active. The run of the walk goes on only if no symbol is blank and the period
has a length in seconds; once started, it then goes on until it is ended on purpose, as long as the
prices stay finite. No symbol that comes from a variable is blank. -/
theorem walk_of_loaded {contents : String → Option String} {env : Environment}
    (hload : Settings.ofEnvironment contents env = .ok settings)
    (henabled : settings.generator.enabled = true)
    (hfresh : ofSettings? entropy settings conduct = some fresh) (incidents : List Incident) :
    let s := fresh.undergoAll incidents
    (∃ w, s.walk = some w ∧ w.prices.keys = settings.generator.symbols.eraseDups ∧
      ∀ (moments : List Int) (now : Int), 0 < now →
      let c := (Walk.Course.fresh w s.engine).rounds Walk.drawNormal .none moments
      Walk.RoundLaw Walk.drawNormal settings.generator.symbols c.walk c.engine now) ∧
    (s.isWalking = true → Walkable settings.generator) ∧
    (∀ (outages : Outages) (now : Int) (during : List Incident), 0 < now →
      Walkable settings.generator → (∀ incident ∈ during, incident.SparesWalk) →
      (∀ earlier, earlier <+: .event (.start outages now) :: during →
        (s.undergoAll earlier).StaysFinite) →
      (s.undergoAll (.event (.start outages now) :: during)).isWalking = true) ∧
    ∀ text, env.get? "GENERATOR_SYMBOLS" = some text →
      ∀ symbol ∈ settings.generator.symbols, Symbol.isBlank symbol = false := by
  intro s
  have hpos : 0 < settings.generator.interval.val := settings.generator.interval.property
  obtain ⟨_, _, hstart⟩ := holds_ofSettings? hfresh henabled
  obtain ⟨w, hw⟩ := hstart.undergoAll hpos incidents
  have hsymbols : (∀ symbol ∈ w.prices.keys, Symbol.isBlank symbol = false) ↔
      ∀ symbol ∈ settings.generator.symbols, Symbol.isBlank symbol = false := by
    simp only [hw.keys_eq, List.mem_eraseDups]
  refine ⟨⟨w, hw.walk_eq, hw.keys_eq, ?_⟩, ?_, ?_, ?_⟩
  · intro moments now hnow c
    obtain ⟨calls, hcalls⟩ := hw.fed
    obtain ⟨hkeys, later, hlater⟩ :=
      Walk.keys_rounds_and_run Walk.drawNormal (Walk.Course.fresh w s.engine) moments
    have hengine : c.engine = (Engine.fresh Interval.catalog).run .none (calls ++ later) := by
      rw [Engine.run_append, ← hcalls]
      exact hlater
    exact Walk.roundLaw_of_keys _ (hkeys.trans hw.keys_eq) (List.cons_ne_nil _ _) hengine hnow
  · intro hwalking
    rw [hw.isWalking_eq] at hwalking
    obtain ⟨hnotBlank, hperiod⟩ := hw.lasting hwalking
    exact ⟨hsymbols.mp hnotBlank, hw.period_eq ▸ hperiod⟩
  · rintro outages now during hnow ⟨hnotBlank, hperiod⟩ hspares hfinite
    have hbegun := hw.undergo hpos (.event (.start outages now))
    have hnext : w.StaysFinite Walk.drawNormal := hfinite [] List.nil_prefix w hw.walk_eq
    have hreturns := (Walk.returns_round_iff hw.sound hnow).mpr ⟨hsymbols.mpr hnotBlank, hnext⟩
    refine hbegun.isWalking_undergoAll hpos ?_ hspares ?_
    · refine (Walk.running_start_iff (hw.period_eq ▸ hpos)).mpr (Or.inr ⟨hreturns, ?_⟩)
      rw [hw.period_eq]
      exact hperiod
    · intro earlier hearlier
      exact hfinite (.event (.start outages now) :: earlier)
        ((List.prefix_cons_inj _).mpr hearlier)
  · intro text htext
    obtain ⟨base, _, hoverride⟩ := Settings.ofEnvironment_eq_ok_iff.mp hload
    exact Settings.not_blank_of_override hoverride htext

/-- A file with a blank symbol between two others. -/
def blankBetween : String → Option String :=
  fun _ ↦ some "generator:\n  symbols: [BTC-USD, \" \", ETH-USD]\n"

def walksBlank : Settings :=
  { Settings.standard with
    generator := { Settings.Generator.standard with symbols := ["BTC-USD", " ", "ETH-USD"] } }

/-- The settings of this file are accepted, and their walk makes no round to the end. -/
theorem walk_of_loaded_blankBetween :
    Settings.ofEnvironment blankBetween Startup.fileOnly = .ok walksBlank ∧
      walksBlank.generator.enabled = true ∧
      ∃ fresh w, ofSettings? 0 walksBlank = some fresh ∧
        (fresh.undergo (.event (.start .none 1000))).walk = some w ∧
        w.prices.keys = ["BTC-USD", " ", "ETH-USD"] ∧
        (fresh.undergo (.event (.start .none 1000))).isWalking = false ∧
        ¬ ∃ ticks, (w.round Walk.drawNormal .none 1000
          (fresh.undergo (.event (.start .none 1000))).engine).2.2 = .ok ticks := by
  have hload : Settings.ofEnvironment blankBetween Startup.fileOnly = .ok walksBlank :=
    eq_ok_of_toOption (by decide +kernel)
  have hbound : walksBlank.flush.interval.val < Period.bound := by decide +kernel
  obtain ⟨_, hlength, _⟩ := Period.exists_seconds? walksBlank.flush.interval.property hbound
  obtain ⟨fresh, hfresh, _⟩ := exists_ofSettings? 0 .shared hlength
  obtain ⟨⟨w, hw, hkeys, hrounds⟩, hwalking, _⟩ :=
    walk_of_loaded hload rfl hfresh [.event (.start .none 1000)]
  have hblank : ¬ ∀ symbol ∈ walksBlank.generator.symbols, Symbol.isBlank symbol = false := by
    decide +kernel
  refine ⟨hload, rfl, fresh, w, hfresh, hw, hkeys, ?_, ?_⟩
  · exact Bool.eq_false_iff.mpr fun h ↦ hblank (hwalking h).not_blank
  · exact fun h ↦ hblank ((hrounds [] 1000 (by decide)).returns_iff.mp h).1

end Service

end Candlestick
