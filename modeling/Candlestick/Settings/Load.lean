import Candlestick.Settings.Override
import Candlestick.Yaml.Document.Value

/-!
# Loading settings

Settings come from a file, if one is named, and from the environment. The file holds a mapping;
nothing at all counts as an empty one. The environment is applied on top of what the file says,
and names the file in one of its variables.
-/

namespace Candlestick.Settings

/-- Why settings could not be loaded. -/
inductive Fault where
  | fileNotFound
  | unreadable (fault : Yaml.Fault)
  | notMapping
  /-- The file names a setting by something else than a text. -/
  | unnamedSetting
  | invalidFile (issues : List Issue)
  | invalidOverride (issues : List Issue)

def fileVariable : String :=
  "CONFIG_FILE"

def variableNames : List String :=
  [fileVariable, "LOG_LEVEL", "FLUSH_INTERVAL_MS", "GENERATOR_ENABLED", "GENERATOR_SYMBOLS",
    "GENERATOR_INTERVAL_MS", "NATS_ENABLED", "NATS_SERVERS", "HOST", "PORT"]

/-- How many levels of a file are looked at: sections, settings, and the items of lists. -/
def fileDepth : Nat := 4

def fileNamed (env : Environment) : Option String :=
  (env.get? fileVariable).filter (· ≠ "")

def isNamed : Data × Data → Bool
  | (.text _, _) => true
  | _ => false

def ofData (value : Data) : Except Fault Settings :=
  if value.isVoid then .ok .standard
  else
    match value with
    | .mapping entries =>
      if entries.all isNamed then (check entries).toExcept.mapError .invalidFile
      else .error .unnamedSetting
    | _ => .error .notMapping

def ofText (text : String) : Except Fault Settings := do
  ofData (← (Yaml.read fileDepth text).mapError .unreadable)

/-- The settings of a file that may be named and may then be absent. -/
def load : Option (Option String) → Except Fault Settings
  | none => .ok .standard
  | some none => .error .fileNotFound
  | some (some text) => ofText text

/-- The settings with the overrides of an environment. -/
def applyEnvironment (env : Environment) (s : Settings) : Except Fault Settings :=
  (override env s).toExcept.mapError .invalidOverride

/-- The settings that an environment asks for. `contents` gives the text of a file, if there is a
file of that name. -/
def ofEnvironment (contents : String → Option String) (env : Environment) :
    Except Fault Settings := do
  applyEnvironment env (← load ((fileNamed env).map contents))

end Candlestick.Settings
