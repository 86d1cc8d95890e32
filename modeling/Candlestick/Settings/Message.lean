import Candlestick.Settings.Load
import Candlestick.Text.Quoted

/-!
# Messages about settings

The wording of the faults that can come up while settings are loaded. A fault in a file names the
file; some faults of a file's values are reported bare.
-/

namespace Candlestick

def Yaml.Fault.message : Yaml.Fault → String
  | .malformed => "malformed document"
  | .noSuchCharacter => "chr() arg not in range(0x110000)"
  | .oversizedCharacter => "escape names a number above every character"
  | .emptyNumber => "string index out of range"
  | .malformedInteger base text => Numeral.malformedIntegerMessage base text
  | .tooManyDigits digits => Numeral.excessMessage digits
  | .malformedDecimal text => "could not convert string to float: " ++ Text.quoted text
  | .unknownBoolean word => Text.quoted word
  | .notMoment => "'NoneType' object has no attribute 'groupdict'"
  | .noSuchMoment reason => reason

/-- Whether a fault in a document is reported without the name of the file. -/
def Yaml.Fault.isBare : Yaml.Fault → Bool
  | .oversizedCharacter | .emptyNumber | .unknownBoolean _ | .notMoment => true
  | _ => false

namespace Settings

/-- The wording for a path that leads through a value. -/
def pathText (path : List Step) : String :=
  ".".intercalate (path.map fun
    | .field name => name
    | .item index => toString index)

def issuesText (issues : List Issue) : String :=
  "; ".intercalate (issues.map fun issue ↦ pathText issue.path ++ ": " ++ issue.problem.message)

def failedToLoad (path : String) : String :=
  "Failed to load " ++ path

/-- The beginning of a message about the environment. -/
def invalidOverrideText : String :=
  "Invalid environment override"

/-- The wording of a fault, with the path of the file. -/
def Fault.message (path : String) : Fault → String
  | .fileNotFound => "Config file not found: " ++ path
  | .unreadable fault =>
    if fault.isBare then fault.message else failedToLoad path ++ ": " ++ fault.message
  | .notMapping => failedToLoad path ++ ": top-level YAML value must be a mapping"
  | .unnamedSetting => "keywords must be strings"
  | .invalidFile issues => failedToLoad path ++ ": " ++ issuesText issues
  | .invalidOverride issues => invalidOverrideText ++ ": " ++ issuesText issues

end Settings

end Candlestick
