import Candlestick.Proofs.Double.Overflow
import Candlestick.Proofs.Settings.Override
import Candlestick.Service.Startup

/-!
# Which settings can be served

Loading checks the settings, but it does not check all that starting up relies on. The log level may
be any text. One that comes from a variable is put into upper case and one from a file is not, so
`info` is served from the environment and refused from a file. And the period of the sweep may be so
long that it has no length in seconds. Settings without these two flaws are served
(`ofEnvironment_of_loaded`).
-/

namespace Candlestick

namespace Settings

variable {env : Environment} {base s : Settings}

/-- A variable gives the log level in upper case, a file as it stands there. -/
theorem logLevel_of_override (h : override env base = .valid s) :
    s.logLevel = ((env.get? "LOG_LEVEL").map Text.upper).getD base.logLevel :=
  (override_eq_valid_iff.mp h).logLevel

theorem ofEnvironment_eq_ok_iff {contents : String → Option String} :
    ofEnvironment contents env = .ok s ↔
      ∃ base, load ((fileNamed env).map contents) = .ok base ∧ override env base = .valid s := by
  simp only [ofEnvironment, applyEnvironment, bind_eq_ok_iff, mapError_eq_ok_iff,
    Checked.toExcept_eq_ok_iff]

end Settings

namespace LogLevel

theorem number?_eq_none_iff {name : String} : number? name = none ↔ name ∉ named.map Prod.fst := by
  rw [number?, List.lookup_eq_none_iff, List.mem_map]
  constructor
  · rintro h ⟨⟨_, number⟩, hmem, rfl⟩
    exact absurd (h _ hmem) (by simp)
  · intro h entry hmem
    exact bne_iff_ne.mpr fun heq ↦ h ⟨entry, hmem, heq.symm⟩

end LogLevel

namespace Service

variable {s : Settings}

theorem exists_ofSettings? (entropy : Int) (conduct : Broker.Conduct) {length : Double}
    (hlength : Period.seconds? s.flush.interval.val = some length) :
    ∃ service, ofSettings? entropy s conduct = some service ∧
      service.sweeper.period = length := by
  unfold ofSettings?
  rewrite [hlength]
  exact ⟨_, rfl, rfl⟩

theorem ofSettings?_eq_none (entropy : Int) (conduct : Broker.Conduct)
    (hlength : Period.seconds? s.flush.interval.val = none) :
    ofSettings? entropy s conduct = none := by
  unfold ofSettings?
  rewrite [hlength]
  rfl

end Service

namespace Startup

variable {contents : String → Option String} {env : Environment} {s : Settings}

theorem ofEnvironment_eq_ofSettings (entropy : Int)
    (h : Settings.ofEnvironment contents env = .ok s) :
    ofEnvironment entropy contents env = ofSettings entropy s := by
  rw [ofEnvironment, h]
  rfl

theorem ofSettings_of_seconds? (entropy : Int) (hlevel : s.logLevel ∈ LogLevel.named.map Prod.fst)
    {length : Double} (hlength : Period.seconds? s.flush.interval.val = some length) :
    ∃ startup, ofSettings entropy s = .ok startup ∧ startup.settings = s ∧
      LogLevel.number? s.logLevel = some startup.logNumber ∧
      startup.service.sweeper.period = length := by
  obtain ⟨service, hservice, hperiod⟩ := Service.exists_ofSettings? entropy .separate hlength
  cases hnumber : LogLevel.number? s.logLevel with
  | none => exact absurd hlevel (LogLevel.number?_eq_none_iff.mp hnumber)
  | some number =>
      refine ⟨⟨s, number, service⟩, ?_, rfl, rfl, hperiod⟩
      rw [ofSettings, hnumber, hservice, assemble]

theorem ofSettings_of_unknown (entropy : Int)
    (hlevel : s.logLevel ∉ LogLevel.named.map Prod.fst) :
    ofSettings entropy s = .error (.unknownLevel s.logLevel) := by
  rw [ofSettings, LogLevel.number?_eq_none_iff.mpr hlevel, assemble]

theorem ofSettings_of_no_seconds (entropy : Int)
    (hlevel : s.logLevel ∈ LogLevel.named.map Prod.fst)
    (hlength : Period.seconds? s.flush.interval.val = none) :
    ofSettings entropy s = .error .periodTooLong := by
  cases hnumber : LogLevel.number? s.logLevel with
  | none => exact absurd hlevel (LogLevel.number?_eq_none_iff.mp hnumber)
  | some number =>
      rw [ofSettings, hnumber, Service.ofSettings?_eq_none entropy .separate hlength, assemble]

/-- Settings that have been loaded are served, at the address and under the level that they name, if
the level has a number and the period of the sweep a length in seconds, which is then above zero.
Otherwise starting up ends with a fault, and these are the two ways in which it can. The level is
that of the file, as it stands there, unless a variable gives it, then in upper case. -/
theorem ofEnvironment_of_loaded (entropy : Int) (h : Settings.ofEnvironment contents env = .ok s) :
    (s.logLevel ∈ LogLevel.named.map Prod.fst → s.flush.interval.val < Period.bound →
      ∃ startup, ofEnvironment entropy contents env = .ok startup ∧ startup.settings = s ∧
        LogLevel.number? s.logLevel = some startup.logNumber ∧
        Period.seconds? s.flush.interval.val = some startup.service.sweeper.period ∧
        Double.zero < startup.service.sweeper.period) ∧
    (s.logLevel ∉ LogLevel.named.map Prod.fst →
      ofEnvironment entropy contents env = .error (.unknownLevel s.logLevel)) ∧
    (s.logLevel ∈ LogLevel.named.map Prod.fst → Period.bound ≤ s.flush.interval.val →
      ofEnvironment entropy contents env = .error .periodTooLong) ∧
    ∃ base, Settings.load ((Settings.fileNamed env).map contents) = .ok base ∧
      s.logLevel = ((env.get? "LOG_LEVEL").map Text.upper).getD base.logLevel := by
  rw [ofEnvironment_eq_ofSettings entropy h]
  obtain ⟨base, hbase, hoverride⟩ := Settings.ofEnvironment_eq_ok_iff.mp h
  refine ⟨?_, ofSettings_of_unknown entropy, ?_, base, hbase,
    Settings.logLevel_of_override hoverride⟩
  · intro hlevel hperiod
    obtain ⟨length, hlength, hpos⟩ := Period.exists_seconds? s.flush.interval.property hperiod
    obtain ⟨startup, hstartup, hsettings, hnumber, rfl⟩ :=
      ofSettings_of_seconds? entropy hlevel hlength
    exact ⟨startup, hstartup, hsettings, hnumber, hlength, hpos⟩
  · intro hlevel hperiod
    exact ofSettings_of_no_seconds entropy hlevel (Period.seconds?_eq_none hperiod)

/-- The text of a file that gives the log level in lower case, and nothing else. -/
def lowerCaseFile : String → Option String :=
  fun _ ↦ some "log_level: info\n"

def fileOnly : Environment :=
  ⟨[("CONFIG_FILE", "config.yaml")]⟩

def fileAndLevel : Environment :=
  ⟨[("CONFIG_FILE", "config.yaml"), ("LOG_LEVEL", "info")]⟩

/-- A level in lower case is served when a variable gives it, and refused when a file does. -/
theorem ofEnvironment_of_loaded_lowerCase :
    Settings.ofEnvironment lowerCaseFile fileOnly =
        .ok { Settings.standard with logLevel := "info" } ∧
      ofEnvironment 0 lowerCaseFile fileOnly = .error (.unknownLevel "info") ∧
      Settings.ofEnvironment lowerCaseFile fileAndLevel = .ok .standard ∧
      ∃ startup, ofEnvironment 0 lowerCaseFile fileAndLevel = .ok startup ∧
        startup.settings = .standard ∧ startup.logNumber = LogLevel.info := by
  have hfile : Settings.ofEnvironment lowerCaseFile fileOnly =
      .ok { Settings.standard with logLevel := "info" } :=
    eq_ok_of_toOption (by decide +kernel)
  have hboth : Settings.ofEnvironment lowerCaseFile fileAndLevel = .ok .standard :=
    eq_ok_of_toOption (by decide +kernel)
  have hrefused := (ofEnvironment_of_loaded 0 hfile).2.1 (by decide)
  have hbound : (1000 : Int) < Period.bound := by decide +kernel
  obtain ⟨startup, hstartup, hsettings, hnumber, _⟩ :=
    (ofEnvironment_of_loaded 0 hboth).1 (by decide) hbound
  have hinfo : LogLevel.number? Settings.standard.logLevel = some LogLevel.info := by decide
  exact ⟨hfile, hrefused, hboth, startup, hstartup, hsettings,
    Option.some.inj (hnumber.symm.trans hinfo)⟩

end Startup

end Candlestick
