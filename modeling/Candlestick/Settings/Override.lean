import Candlestick.Environment
import Candlestick.Settings.Check
import Candlestick.Settings.Data
import Candlestick.Text.Uppercase

/-!
# Overrides from the environment

Nine settings can be overridden by a variable each (`overrides`). The settings are written out, the
variables that are set replace what they stand for, and the outcome is checked like the content of a
file. A variable that is absent leaves its setting alone. A number that is out of bounds or badly
spelled is an issue; all other texts are taken.
-/

namespace Candlestick.Settings

/-- The words that mean yes in a variable, in lower case. -/
def enablingWords : List String :=
  ["1", "true", "yes", "on"]

/-- Whether the text of a variable means yes. Every other text means no. -/
def isEnabling (text : String) : Bool :=
  enablingWords.contains (Text.strip text).toLower

/-- A variable, the setting that it overrides, and what its text stands for. -/
structure Override where
  name : String
  path : List String
  read : String → Data

def overrides : List Override :=
  [⟨"LOG_LEVEL", ["log_level"], fun text ↦ .text (Text.upper text)⟩,
    ⟨"FLUSH_INTERVAL_MS", ["flush", "interval_ms"], .text⟩,
    ⟨"GENERATOR_ENABLED", ["generator", "enabled"], fun text ↦ .bool (isEnabling text)⟩,
    ⟨"GENERATOR_SYMBOLS", ["generator", "symbols"], fun text ↦ .ofTexts (Text.items text)⟩,
    ⟨"GENERATOR_INTERVAL_MS", ["generator", "interval_ms"], .text⟩,
    ⟨"NATS_ENABLED", ["nats", "enabled"], fun text ↦ .bool (isEnabling text)⟩,
    ⟨"NATS_SERVERS", ["nats", "servers"], fun text ↦ .ofTexts (Text.items text)⟩,
    ⟨"HOST", ["api", "host"], .text⟩,
    ⟨"PORT", ["api", "port"], .text⟩]

/-- Puts what the variable says in the place of the setting, if the variable is set. -/
def Override.apply (env : Environment) (settings : Data) (o : Override) : Data :=
  settings.update (env.readOr o.name o.read) o.path

/-- Settings written out, with the overrides of an environment. -/
def overridden (env : Environment) (s : Settings) : Data :=
  overrides.foldl (Override.apply env) s.toData

/-- All settings with the overrides of an environment, checked again. -/
def override (env : Environment) (s : Settings) : Checked Settings :=
  checkSection "AppConfig" check (overridden env s)

end Candlestick.Settings
