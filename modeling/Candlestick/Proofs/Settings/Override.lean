import Candlestick.Proofs.Data.Checked
import Candlestick.Settings.Message

/-!
# Overrides touch what they name

Settings that are written out pass the check and come back as they were, so a check of settings some
of whose entries have been replaced finds fault with nothing but the replacements (`override_eq`).
What passes is described setting by setting (`Overrides`), and what an environment changes follows
from that description alone (`applyEnvironment_overrides_named`).
-/

namespace Candlestick.Settings

variable {env : Environment} {name : String}

theorem checkTexts_ofTexts (texts : List String) : checkTexts (.ofTexts texts) = .valid texts := by
  have hlist : ∀ index, Checked.list (fun item ↦ .ofExcept item.string) index
      (texts.map Data.text) = .valid texts := by
    induction texts with
    | nil => exact fun _ ↦ rfl
    | cons text rest ih =>
        intro index
        rw [List.map_cons, Checked.list, ih]
        rfl
  exact hlist 0

theorem checkOptional_ofOption {α : Type} (write : α → Data) {check : Data → Except Problem α}
    (hnull : ∀ a, write a ≠ .null) (hcheck : ∀ a, check (write a) = .ok a) (value : Option α) :
    checkOptional check (.ofOption write value) = .ok value := by
  cases value with
  | none => rfl
  | some a =>
      rw [Data.ofOption, Option.map_some, Option.getD_some, checkOptional, hcheck]
      · rfl
      · exact hnull a

/-- The check passes the whole numbers of a range, and nothing else. -/
def ChecksRange {P : Int → Prop} (check : Data → Except Problem { n : Int // P n }) : Prop :=
  ∀ value n, check value = .ok n ↔ value.integer = .ok n.val

theorem checksRange_milliseconds : ChecksRange checkMilliseconds := by
  intro value n
  rw [checkMilliseconds, bind_eq_ok_iff]
  constructor
  · rintro ⟨m, hm, hcheck⟩
    split at hcheck
    · cases hcheck
      exact hm
    · cases hcheck
  · intro h
    exact ⟨n.val, h, dif_pos n.property⟩

theorem checksRange_port : ChecksRange checkPort := by
  intro value n
  rw [checkPort, bind_eq_ok_iff]
  constructor
  · rintro ⟨m, hm, hcheck⟩
    split at hcheck
    · split at hcheck
      · cases hcheck
        exact hm
      · cases hcheck
    · cases hcheck
  · intro h
    refine ⟨n.val, h, ?_⟩
    rw [dif_pos n.property.1, dif_pos n.property.2]
    rfl

/-! ## Values of settings and of variables -/

theorem string_readOr (read : String → String) (before : String) :
    Data.string (env.readOr name (fun text ↦ .text (read text)) (.text before)) =
      .ok (env.readOr name read before) := by
  rw [env.map_readOr name Data.string, env.map_readOr name Except.ok]
  rfl

theorem boolean_readOr (read : String → Bool) (before : Bool) :
    Data.boolean (env.readOr name (fun text ↦ .bool (read text)) (.bool before)) =
      .ok (env.readOr name read before) := by
  rw [env.map_readOr name Data.boolean, env.map_readOr name Except.ok]
  rfl

theorem checkTexts_readOr (read : String → List String) (before : List String) :
    checkTexts (env.readOr name (fun text ↦ .ofTexts (read text)) (.ofTexts before)) =
      .valid (env.readOr name read before) := by
  rw [env.map_readOr name checkTexts, env.map_readOr name Checked.valid]
  simp only [checkTexts_ofTexts]

/-- The outcome of a check of a number that a variable may replace. The number itself passes. -/
def numberOr {α : Type} (env : Environment) (name : String) (check : Data → Except Problem α)
    (before : α) : Except Problem α :=
  env.readOr name (fun text ↦ check (.text text)) (.ok before)

theorem check_readOr_int {α : Type} {check : Data → Except Problem α} {n : Int} {before : α}
    (hbefore : check (.int n) = .ok before) :
    check (env.readOr name .text (.int n)) = numberOr env name check before := by
  rw [env.map_readOr name check, hbefore]
  rfl

/-! ## The check of replaced settings -/

theorem overridden_eq (env : Environment) (s : Settings) :
    overridden env s = .mapping
      [(.text "log_level",
          env.readOr "LOG_LEVEL" (fun text ↦ .text (Text.upper text)) (.text s.logLevel)),
        (.text "flush", .mapping
          [(.text "interval_ms",
            env.readOr "FLUSH_INTERVAL_MS" .text (.int s.flush.interval.val))]),
        (.text "generator", .mapping
          [(.text "enabled", env.readOr "GENERATOR_ENABLED" (fun text ↦ .bool (isEnabling text))
              (.bool s.generator.enabled)),
            (.text "symbols", env.readOr "GENERATOR_SYMBOLS"
              (fun text ↦ .ofTexts (Text.items text)) (.ofTexts s.generator.symbols)),
            (.text "interval_ms",
              env.readOr "GENERATOR_INTERVAL_MS" .text (.int s.generator.interval.val)),
            (.text "seed", .ofOption .int s.generator.seed)]),
        (.text "nats", .mapping
          [(.text "enabled", env.readOr "NATS_ENABLED" (fun text ↦ .bool (isEnabling text))
              (.bool s.bus.enabled)),
            (.text "servers", env.readOr "NATS_SERVERS"
              (fun text ↦ .ofTexts (Text.items text)) (.ofTexts s.bus.servers)),
            (.text "client_name", .text s.bus.clientName),
            (.text "queue", .ofOption .text s.bus.queue)]),
        (.text "api", .mapping
          [(.text "host", env.readOr "HOST" .text (.text s.api.host)),
            (.text "port", env.readOr "PORT" .text (.int s.api.port.val))])] :=
  rfl

/-- The settings with the overrides of an environment, given the numbers that come of it. -/
def withNumbers (env : Environment) (s : Settings) (flushInterval walkInterval : Milliseconds)
    (port : Port) : Settings where
  logLevel := env.readOr "LOG_LEVEL" Text.upper s.logLevel
  flush := ⟨flushInterval⟩
  generator :=
    ⟨env.readOr "GENERATOR_ENABLED" isEnabling s.generator.enabled,
      env.readOr "GENERATOR_SYMBOLS" Text.items s.generator.symbols, walkInterval,
      s.generator.seed⟩
  bus :=
    ⟨env.readOr "NATS_ENABLED" isEnabling s.bus.enabled,
      env.readOr "NATS_SERVERS" Text.items s.bus.servers, s.bus.clientName, s.bus.queue⟩
  api := ⟨env.readOr "HOST" id s.api.host, port⟩

/-- The check of a number that a variable may replace, reported at its place. -/
def placed {α : Type} (part field : String) (result : Except Problem α) : Checked α :=
  ((Checked.ofExcept result).under (.field field)).under (.field part)

theorem checkFlush_overridden (env : Environment) (s : Flush) :
    checkFlush [(.text "interval_ms",
        env.readOr "FLUSH_INTERVAL_MS" .text (.int s.interval.val))] =
      Flush.mk <$> (Checked.ofExcept
        (numberOr env "FLUSH_INTERVAL_MS" checkMilliseconds s.interval)).under
          (.field "interval_ms") := by
  rw [← check_readOr_int ((checksRange_milliseconds _ s.interval).mpr rfl)]
  rfl

theorem checkGenerator_entries (enabled symbols interval seed : Data) :
    checkGenerator [(.text "enabled", enabled), (.text "symbols", symbols),
        (.text "interval_ms", interval), (.text "seed", seed)] =
      Generator.mk <$> (Checked.ofExcept enabled.boolean).under (.field "enabled")
        <*> (checkTexts symbols).under (.field "symbols")
        <*> (Checked.ofExcept (checkMilliseconds interval)).under (.field "interval_ms")
        <*> (Checked.ofExcept (checkOptional Data.integer seed)).under (.field "seed") :=
  rfl

/-- Of what the check of a section finds out, only the number is open. -/
theorem checkGenerator_overridden (env : Environment) (s : Generator) :
    checkGenerator
        [(.text "enabled", env.readOr "GENERATOR_ENABLED" (fun text ↦ .bool (isEnabling text))
            (.bool s.enabled)),
          (.text "symbols", env.readOr "GENERATOR_SYMBOLS"
            (fun text ↦ .ofTexts (Text.items text)) (.ofTexts s.symbols)),
          (.text "interval_ms",
            env.readOr "GENERATOR_INTERVAL_MS" .text (.int s.interval.val)),
          (.text "seed", .ofOption .int s.seed)] =
      (fun interval ↦
        { s with
          enabled := env.readOr "GENERATOR_ENABLED" isEnabling s.enabled
          symbols := env.readOr "GENERATOR_SYMBOLS" Text.items s.symbols
          interval }) <$>
        (Checked.ofExcept
          (numberOr env "GENERATOR_INTERVAL_MS" checkMilliseconds s.interval)).under
            (.field "interval_ms") := by
  have hseed : checkOptional Data.integer (.ofOption .int s.seed) = .ok s.seed :=
    checkOptional_ofOption .int (fun _ ↦ nofun) (fun _ ↦ rfl) s.seed
  rw [checkGenerator_entries, boolean_readOr, checkTexts_readOr, hseed,
    check_readOr_int ((checksRange_milliseconds _ s.interval).mpr rfl)]
  cases numberOr env "GENERATOR_INTERVAL_MS" checkMilliseconds s.interval <;> rfl

theorem checkBus_entries (enabled servers clientName queue : Data) :
    checkBus [(.text "enabled", enabled), (.text "servers", servers),
        (.text "client_name", clientName), (.text "queue", queue)] =
      Bus.mk <$> (Checked.ofExcept enabled.boolean).under (.field "enabled")
        <*> (checkTexts servers).under (.field "servers")
        <*> (Checked.ofExcept clientName.string).under (.field "client_name")
        <*> (Checked.ofExcept (checkOptional Data.string queue)).under (.field "queue") :=
  rfl

theorem checkBus_overridden (env : Environment) (s : Bus) :
    checkBus
        [(.text "enabled", env.readOr "NATS_ENABLED" (fun text ↦ .bool (isEnabling text))
            (.bool s.enabled)),
          (.text "servers", env.readOr "NATS_SERVERS"
            (fun text ↦ .ofTexts (Text.items text)) (.ofTexts s.servers)),
          (.text "client_name", .text s.clientName),
          (.text "queue", .ofOption .text s.queue)] =
      .valid { s with
        enabled := env.readOr "NATS_ENABLED" isEnabling s.enabled
        servers := env.readOr "NATS_SERVERS" Text.items s.servers } := by
  have hqueue : checkOptional Data.string (.ofOption .text s.queue) = .ok s.queue :=
    checkOptional_ofOption .text (fun _ ↦ nofun) (fun _ ↦ rfl) s.queue
  rw [checkBus_entries, boolean_readOr, checkTexts_readOr, hqueue]
  rfl

theorem checkApi_entries (host port : Data) :
    checkApi [(.text "host", host), (.text "port", port)] =
      Api.mk <$> (Checked.ofExcept host.string).under (.field "host")
        <*> (Checked.ofExcept (checkPort port)).under (.field "port") :=
  rfl

theorem checkApi_overridden (env : Environment) (s : Api) :
    checkApi [(.text "host", env.readOr "HOST" .text (.text s.host)),
        (.text "port", env.readOr "PORT" .text (.int s.port.val))] =
      Api.mk (env.readOr "HOST" id s.host) <$>
        (Checked.ofExcept (numberOr env "PORT" checkPort s.port)).under (.field "port") := by
  have hhost : Data.string (env.readOr "HOST" .text (.text s.host)) =
      .ok (env.readOr "HOST" id s.host) := string_readOr id s.host
  rw [checkApi_entries, hhost, check_readOr_int ((checksRange_port _ s.port).mpr rfl)]
  exact Checked.valid_seq _ _

theorem check_entries (logLevel : Data) (flush generator bus api : List (Data × Data)) :
    check [(.text "log_level", logLevel), (.text "flush", .mapping flush),
        (.text "generator", .mapping generator), (.text "nats", .mapping bus),
        (.text "api", .mapping api)] =
      Settings.mk <$> (Checked.ofExcept logLevel.string).under (.field "log_level")
        <*> (checkFlush flush).under (.field "flush")
        <*> (checkGenerator generator).under (.field "generator")
        <*> (checkBus bus).under (.field "nats")
        <*> (checkApi api).under (.field "api") :=
  rfl

/-- What the check of settings with overrides finds out depends on three numbers, and these on
nothing but their own variables. -/
theorem override_eq (env : Environment) (s : Settings) :
    override env s = withNumbers env s <$>
      placed "flush" "interval_ms"
        (numberOr env "FLUSH_INTERVAL_MS" checkMilliseconds s.flush.interval) <*>
      placed "generator" "interval_ms"
        (numberOr env "GENERATOR_INTERVAL_MS" checkMilliseconds s.generator.interval) <*>
      placed "api" "port" (numberOr env "PORT" checkPort s.api.port) := by
  rw [override, overridden_eq, checkSection, check_entries, string_readOr, checkFlush_overridden,
    checkGenerator_overridden, checkBus_overridden, checkApi_overridden]
  -- Each number is refused or not, and issues keep the order of the sections.
  cases numberOr env "FLUSH_INTERVAL_MS" checkMilliseconds s.flush.interval <;>
    cases numberOr env "GENERATOR_INTERVAL_MS" checkMilliseconds s.generator.interval <;>
    cases numberOr env "PORT" checkPort s.api.port <;> rfl

/-! ## What becomes of each setting -/

/-- The variable is set, and not to a whole number of the range. -/
def Refuses (env : Environment) (name : String) (P : Int → Prop) : Prop :=
  ∃ text, env.get? name = some text ∧ ∀ n, Data.integerOfText text = .ok n → ¬ P n

theorem not_refuses_of_none {P : Int → Prop} (h : env.get? name = none) :
    ¬ Refuses env name P := by
  rintro ⟨text, hsome, _⟩
  rw [h] at hsome
  cases hsome

/-- Nine settings are what their variables say, or as they were; the other three are as they
were. -/
structure Overrides (env : Environment) (s t : Settings) : Prop where
  logLevel : t.logLevel = env.readOr "LOG_LEVEL" Text.upper s.logLevel
  flushInterval : env.readOr "FLUSH_INTERVAL_MS" Data.integerOfText (.ok s.flush.interval.val) =
    .ok t.flush.interval.val
  walks : t.generator.enabled = env.readOr "GENERATOR_ENABLED" isEnabling s.generator.enabled
  symbols : t.generator.symbols = env.readOr "GENERATOR_SYMBOLS" Text.items s.generator.symbols
  walkInterval : env.readOr "GENERATOR_INTERVAL_MS" Data.integerOfText
    (.ok s.generator.interval.val) = .ok t.generator.interval.val
  seed : t.generator.seed = s.generator.seed
  listens : t.bus.enabled = env.readOr "NATS_ENABLED" isEnabling s.bus.enabled
  servers : t.bus.servers = env.readOr "NATS_SERVERS" Text.items s.bus.servers
  clientName : t.bus.clientName = s.bus.clientName
  queue : t.bus.queue = s.bus.queue
  host : t.api.host = env.readOr "HOST" id s.api.host
  port : env.readOr "PORT" Data.integerOfText (.ok s.api.port.val) = .ok t.api.port.val

section Numbers

variable {P : Int → Prop} {check : Data → Except Problem { n : Int // P n }}
  {before n : { n : Int // P n }}

theorem numberOr_eq_ok_iff (hcheck : ChecksRange check) :
    numberOr env name check before = .ok n ↔
      env.readOr name Data.integerOfText (.ok before.val) = .ok n.val := by
  rw [numberOr]
  cases h : env.get? name with
  | none =>
      rw [Environment.readOr_of_none h, Environment.readOr_of_none h, Except.ok.injEq,
        Except.ok.injEq, Subtype.ext_iff]
  | some text =>
      rw [Environment.readOr_of_some h, Environment.readOr_of_some h]
      exact hcheck (.text text) n

theorem exists_numberOr_eq_error_iff (hcheck : ChecksRange check) :
    (∃ problem, numberOr env name check before = .error problem) ↔ Refuses env name P := by
  rw [numberOr, Refuses]
  cases h : env.get? name with
  | none =>
      rw [Environment.readOr_of_none h]
      refine iff_of_false ?_ ?_
      · rintro ⟨_, hok⟩
        cases hok
      · rintro ⟨_, hsome, _⟩
        cases hsome
  | some text =>
      rw [Environment.readOr_of_some h]
      constructor
      · rintro ⟨problem, herror⟩
        refine ⟨text, rfl, fun m hm hP ↦ ?_⟩
        rw [(hcheck (.text text) ⟨m, hP⟩).mpr hm] at herror
        cases herror
      · rintro ⟨_, ⟨⟩, hnone⟩
        cases hresult : check (.text text) with
        | error problem => exact ⟨problem, rfl⟩
        | ok m => exact absurd m.property (hnone m.val ((hcheck (.text text) m).mp hresult))

end Numbers

variable {s t : Settings}

theorem placed_eq_valid_iff {α : Type} {part field : String} {result : Except Problem α} {a : α} :
    placed part field result = .valid a ↔ result = .ok a := by
  rw [placed, Checked.under_eq_valid_iff, Checked.under_eq_valid_iff,
    Checked.ofExcept_eq_valid_iff]

theorem override_eq_valid_iff : override env s = .valid t ↔ Overrides env s t := by
  rw [override_eq]
  constructor
  · intro h
    obtain ⟨_, port, hnumbers, hport, rfl⟩ := Checked.seq_eq_valid_iff.mp h
    obtain ⟨_, walk, hfirst, hwalk, rfl⟩ := Checked.seq_eq_valid_iff.mp hnumbers
    obtain ⟨flush, hflush, rfl⟩ := Checked.map_eq_valid_iff.mp hfirst
    rw [placed_eq_valid_iff] at hport hwalk hflush
    exact ⟨rfl, (numberOr_eq_ok_iff checksRange_milliseconds).mp hflush, rfl, rfl,
      (numberOr_eq_ok_iff checksRange_milliseconds).mp hwalk, rfl, rfl, rfl, rfl, rfl, rfl,
      (numberOr_eq_ok_iff checksRange_port).mp hport⟩
  · intro h
    have hflush := (numberOr_eq_ok_iff checksRange_milliseconds).mpr h.flushInterval
    have hwalk := (numberOr_eq_ok_iff checksRange_milliseconds).mpr h.walkInterval
    have hport := (numberOr_eq_ok_iff checksRange_port).mpr h.port
    -- The other nine settings are determined by the environment and `s`.
    have ht : withNumbers env s t.flush.interval t.generator.interval t.api.port = t := by
      rw [withNumbers, ← h.logLevel, ← h.walks, ← h.symbols, ← h.seed, ← h.listens, ← h.servers,
        ← h.clientName, ← h.queue, ← h.host]
    rw [hflush, hwalk, hport]
    exact congrArg Checked.valid ht

/-! ## Refused overrides -/

/-- The issue with the number in a variable, if it is refused. -/
def numberIssues {α : Type} (env : Environment) (name part field : String)
    (check : Data → Except Problem α) : List Issue :=
  env.readOr name (fun text ↦ (placed part field (check (.text text))).found) []

/-- The issues with the numbers in an environment. -/
def overrideIssues (env : Environment) : List Issue :=
  numberIssues env "FLUSH_INTERVAL_MS" "flush" "interval_ms" checkMilliseconds ++
    numberIssues env "GENERATOR_INTERVAL_MS" "generator" "interval_ms" checkMilliseconds ++
    numberIssues env "PORT" "api" "port" checkPort

theorem found_placed_numberOr {α : Type} (env : Environment) (name part field : String)
    (check : Data → Except Problem α) (before : α) :
    (placed part field (numberOr env name check before)).found =
      numberIssues env name part field check :=
  env.map_readOr name (fun result ↦ (placed part field result).found) _ _

theorem found_override (env : Environment) (s : Settings) :
    (override env s).found = overrideIssues env := by
  rw [override_eq, Checked.found_seq, Checked.found_seq, Checked.found_map,
    found_placed_numberOr, found_placed_numberOr, found_placed_numberOr, overrideIssues]

theorem placed_invalid_iff {α : Type} {part field : String} {result : Except Problem α} :
    (∃ issues, placed part field result = .invalid issues) ↔
      ∃ problem, result = .error problem := by
  cases result with
  | ok a => exact iff_of_false (fun ⟨_, h⟩ ↦ nomatch h) fun ⟨_, h⟩ ↦ nomatch h
  | error problem => exact iff_of_true ⟨_, rfl⟩ ⟨problem, rfl⟩

theorem override_invalid_iff (env : Environment) (s : Settings) :
    (∃ issues, override env s = .invalid issues) ↔
      Refuses env "FLUSH_INTERVAL_MS" (0 < ·) ∨ Refuses env "GENERATOR_INTERVAL_MS" (0 < ·) ∨
        Refuses env "PORT" fun n ↦ 0 < n ∧ n < 65536 := by
  rw [override_eq, Checked.seq_invalid_iff, Checked.seq_invalid_iff, Checked.map_invalid_iff,
    placed_invalid_iff, placed_invalid_iff, placed_invalid_iff,
    exists_numberOr_eq_error_iff checksRange_milliseconds,
    exists_numberOr_eq_error_iff checksRange_milliseconds,
    exists_numberOr_eq_error_iff checksRange_port, or_assoc]

theorem applyEnvironment_eq_ok_iff : applyEnvironment env s = .ok t ↔ Overrides env s t := by
  rw [applyEnvironment, mapError_eq_ok_iff, Checked.toExcept_eq_ok_iff, override_eq_valid_iff]

theorem applyEnvironment_eq_error_iff {fault : Fault} :
    applyEnvironment env s = .error fault ↔
      (∃ issues, override env s = .invalid issues) ∧
        fault = .invalidOverride (overrideIssues env) := by
  have hfound := found_override env s
  rw [applyEnvironment]
  cases h : override env s with
  | valid t => exact iff_of_false (fun h ↦ nomatch h) fun ⟨⟨_, h⟩, _⟩ ↦ nomatch h
  | invalid issues =>
      rw [h] at hfound
      obtain rfl : issues = overrideIssues env := hfound
      constructor
      · rintro ⟨⟩
        exact ⟨⟨_, rfl⟩, rfl⟩
      · rintro ⟨_, rfl⟩
        rfl

/-! ## Overrides again, and elsewhere -/

/-- The settings are the same, but for those that a variable overrides. -/
structure AgreesOutside (env : Environment) (s other : Settings) : Prop where
  logLevel : env.get? "LOG_LEVEL" = none → other.logLevel = s.logLevel
  flushInterval : env.get? "FLUSH_INTERVAL_MS" = none → other.flush.interval = s.flush.interval
  walks : env.get? "GENERATOR_ENABLED" = none → other.generator.enabled = s.generator.enabled
  symbols : env.get? "GENERATOR_SYMBOLS" = none → other.generator.symbols = s.generator.symbols
  walkInterval : env.get? "GENERATOR_INTERVAL_MS" = none →
    other.generator.interval = s.generator.interval
  seed : other.generator.seed = s.generator.seed
  listens : env.get? "NATS_ENABLED" = none → other.bus.enabled = s.bus.enabled
  servers : env.get? "NATS_SERVERS" = none → other.bus.servers = s.bus.servers
  clientName : other.bus.clientName = s.bus.clientName
  queue : other.bus.queue = s.bus.queue
  host : env.get? "HOST" = none → other.api.host = s.api.host
  port : env.get? "PORT" = none → other.api.port = s.api.port

theorem Overrides.again (h : Overrides env s t) : Overrides env t t where
  logLevel := (Environment.readOr_again h.logLevel.symm).symm
  flushInterval := Environment.readOr_again h.flushInterval
  walks := (Environment.readOr_again h.walks.symm).symm
  symbols := (Environment.readOr_again h.symbols.symm).symm
  walkInterval := Environment.readOr_again h.walkInterval
  seed := rfl
  listens := (Environment.readOr_again h.listens.symm).symm
  servers := (Environment.readOr_again h.servers.symm).symm
  clientName := rfl
  queue := rfl
  host := (Environment.readOr_again h.host.symm).symm
  port := Environment.readOr_again h.port

theorem overrides_empty (s : Settings) : Overrides .empty s s :=
  ⟨rfl, rfl, rfl, rfl, rfl, rfl, rfl, rfl, rfl, rfl, rfl, rfl⟩

/-- Settings that are written out pass the check and come back as they were. -/
theorem check_toData (s : Settings) : checkSection "AppConfig" check s.toData = .valid s := by
  have hwritten : overridden .empty s = s.toData := rfl
  rw [← hwritten]
  exact override_eq_valid_iff.mpr (overrides_empty s)

theorem numberOr_congr {α : Type} {check : Data → Except Problem α} {a b : α}
    (h : env.get? name = none → a = b) : numberOr env name check a = numberOr env name check b :=
  Environment.readOr_congr fun hname ↦ congrArg Except.ok (h hname)

theorem AgreesOutside.withNumbers_eq {other : Settings} (h : AgreesOutside env s other) :
    withNumbers env other = withNumbers env s := by
  funext flush walk port
  rw [withNumbers, withNumbers, Environment.readOr_congr h.logLevel,
    Environment.readOr_congr h.walks, Environment.readOr_congr h.symbols, h.seed,
    Environment.readOr_congr h.listens, Environment.readOr_congr h.servers, h.clientName, h.queue,
    Environment.readOr_congr h.host]

theorem AgreesOutside.override_eq {other : Settings} (h : AgreesOutside env s other) :
    override env other = override env s := by
  rw [Settings.override_eq, Settings.override_eq, h.withNumbers_eq,
    numberOr_congr h.flushInterval, numberOr_congr h.walkInterval, numberOr_congr h.port]

/-- Overrides touch what they name. They are refused exactly if one of three variables is set and
not to a whole number within the bounds of its setting, and each such variable is then reported.
Otherwise each of nine settings is what its variable says, or as it was, and the others are as they
were. So an environment without variables changes nothing, overrides that are made twice are made
once, and what they replace does not matter. -/
theorem applyEnvironment_overrides_named (env : Environment) (s : Settings) :
    ((∃ fault, applyEnvironment env s = .error fault) ↔
      Refuses env "FLUSH_INTERVAL_MS" (0 < ·) ∨ Refuses env "GENERATOR_INTERVAL_MS" (0 < ·) ∨
        Refuses env "PORT" fun n ↦ 0 < n ∧ n < 65536) ∧
    (∀ fault, applyEnvironment env s = .error fault →
      fault = .invalidOverride (overrideIssues env) ∧
        ∀ path, fault.message path =
          invalidOverrideText ++ ": " ++ issuesText (overrideIssues env)) ∧
    (∀ t, applyEnvironment env s = .ok t ↔ Overrides env s t) ∧
    applyEnvironment .empty s = .ok s ∧
    (∀ t, applyEnvironment env s = .ok t → applyEnvironment env t = .ok t) ∧
    ∀ other, AgreesOutside env s other →
      applyEnvironment env other = applyEnvironment env s := by
  refine ⟨?_, ?_, fun t ↦ applyEnvironment_eq_ok_iff, ?_, ?_, ?_⟩
  · rw [← override_invalid_iff env s]
    constructor
    · rintro ⟨fault, h⟩
      exact (applyEnvironment_eq_error_iff.mp h).1
    · intro h
      exact ⟨_, applyEnvironment_eq_error_iff.mpr ⟨h, rfl⟩⟩
  · intro fault h
    obtain ⟨_, rfl⟩ := applyEnvironment_eq_error_iff.mp h
    exact ⟨rfl, fun _ ↦ rfl⟩
  · exact applyEnvironment_eq_ok_iff.mpr (overrides_empty s)
  · intro t h
    exact applyEnvironment_eq_ok_iff.mpr (applyEnvironment_eq_ok_iff.mp h).again
  · intro other h
    rw [applyEnvironment, applyEnvironment, h.override_eq]

def portAndServers : Environment :=
  ⟨[("PORT", " +08_081.0 "), ("NATS_SERVERS", " nats://a:4222 ,, nats://b:4222,"),
    ("LOG_LEVEL", "straße"), ("GENERATOR_ENABLED", " Yes ")]⟩

/-- Settings none of which is the standard one. -/
def unusual : Settings :=
  ⟨"DEBUG", ⟨⟨250, by decide⟩⟩, ⟨false, [], ⟨50, by decide⟩, some (-7)⟩,
    ⟨true, ["nats://c:4222"], "agg-1", some "workers"⟩, ⟨"::1", ⟨1, by decide⟩⟩⟩

/-- What the overrides make of the unusual settings, and of others that differ in the port. -/
theorem applyEnvironment_overrides_named_portAndServers :
    applyEnvironment portAndServers unusual =
        .ok ⟨"STRASSE", unusual.flush, { unusual.generator with enabled := true },
          { unusual.bus with servers := ["nats://a:4222", "nats://b:4222"] },
          ⟨"::1", ⟨8081, by decide⟩⟩⟩ ∧
      applyEnvironment portAndServers { unusual with api := ⟨"::1", ⟨80, by decide⟩⟩ } =
        applyEnvironment portAndServers unusual ∧
      (applyEnvironment ⟨[("PORT", "65536")]⟩ unusual).toOption = none ∧
      ∀ t, applyEnvironment portAndServers unusual = .ok t →
        t.generator.seed = some (-7) ∧ applyEnvironment portAndServers t = .ok t := by
  obtain ⟨_, _, hvalues, _, hagain, hreplaced⟩ :=
    applyEnvironment_overrides_named portAndServers unusual
  obtain ⟨hrefused, _⟩ := applyEnvironment_overrides_named ⟨[("PORT", "65536")]⟩ unusual
  refine ⟨eq_ok_of_toOption (by decide +kernel), ?_, ?_, ?_⟩
  · apply hreplaced
    exact ⟨fun _ ↦ rfl, fun _ ↦ rfl, fun _ ↦ rfl, fun _ ↦ rfl, fun _ ↦ rfl, rfl, fun _ ↦ rfl,
      fun _ ↦ rfl, rfl, rfl, fun _ ↦ rfl, fun h ↦ absurd h (by decide)⟩
  · have hnumber : Data.integerOfText "65536" = .ok 65536 :=
      eq_ok_of_toOption (by decide +kernel)
    obtain ⟨fault, hfault⟩ := hrefused.mpr (Or.inr (Or.inr ⟨"65536", by decide, fun n hn ↦ by
      rw [hnumber] at hn
      cases hn
      decide⟩))
    rw [hfault]
    rfl
  · intro t ht
    exact ⟨((hvalues t).mp ht).seed, hagain t ht⟩

end Candlestick.Settings
