import Candlestick.Service.Basic
import Candlestick.Service.LogLevel
import Candlestick.Settings.Message

/-!
# Starting up

What is done between the start of the program and the moment when it serves: the settings are
loaded, the level of the log is looked up, and the service is put together.
-/

namespace Candlestick

/-- Why the program does not get to serve. -/
inductive Startup.Fault where
  | settings (fault : Settings.Fault)
  | unknownLevel (name : String)
  /-- The period of the sweep has no length in seconds. -/
  | periodTooLong

/-- What the program serves, and how it logs. -/
structure Startup where
  settings : Settings
  logNumber : Nat
  service : Service

namespace Startup

/-- The wording of a fault, with the path of the settings file. -/
def Fault.message (path : String) : Fault → String
  | .settings fault => fault.message path
  | .unknownLevel name => "Unknown level: " ++ Text.quoted name
  | .periodTooLong => Period.tooLongMessage

/-- What starting up comes to, given the number of the log level and the service, as far as there
are such. The level is looked up first. -/
def assemble (s : Settings) : Option Nat → Option Service → Except Fault Startup
  | none, _ => .error (.unknownLevel s.logLevel)
  | some _, none => .error .periodTooLong
  | some logNumber, some service => .ok ⟨s, logNumber, service⟩

def ofSettings (entropy : Int) (s : Settings) : Except Fault Startup :=
  assemble s (LogLevel.number? s.logLevel) (Service.ofSettings? entropy s .separate)

def ofEnvironment (entropy : Int) (contents : String → Option String) (env : Environment) :
    Except Fault Startup := do
  ofSettings entropy (← (Settings.ofEnvironment contents env).mapError .settings)

/-- The name of the level as the server is told: in lower case. -/
def serverLogLevel (s : Startup) : String :=
  s.settings.logLevel.toLower

end Startup

end Candlestick
