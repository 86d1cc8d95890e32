import Candlestick.Bus.Connection

/-!
# Settings

What can be set about the service: its log level, the period of the sweep, the generated ticks,
the message bus, and the address it serves. Periods and ports are within their bounds by their
types.
-/

namespace Candlestick

abbrev Milliseconds := { n : Int // 0 < n }

abbrev Port := { n : Int // 0 < n ∧ n < 65536 }

namespace Settings

/-- The settings of the sweep. -/
structure Flush where
  interval : Milliseconds
deriving DecidableEq

/-- The settings of the generated ticks. -/
structure Generator where
  enabled : Bool
  symbols : List String
  interval : Milliseconds
  seed : Option Int
deriving DecidableEq

/-- The settings of the message bus. -/
structure Bus where
  enabled : Bool
  servers : List String
  clientName : String
  queue : Option String
deriving DecidableEq

/-- The settings of the served address. -/
structure Api where
  host : String
  port : Port
deriving DecidableEq

/-- The settings of the sweep unless they are changed. -/
def Flush.standard : Flush :=
  ⟨⟨1000, by decide⟩⟩

/-- The settings of the generated ticks unless they are changed. -/
def Generator.standard : Generator :=
  ⟨true, ["BTC-USD", "ETH-USD"], ⟨200, by decide⟩, none⟩

/-- The settings of the message bus unless they are changed. -/
def Bus.standard : Bus :=
  ⟨false, Connection.defaultServers, Connection.defaultName, none⟩

/-- The settings of the served address unless they are changed. -/
def Api.standard : Api :=
  ⟨"0.0.0.0", ⟨8080, by decide⟩⟩

/-- The connection that the settings of the message bus ask for. -/
def Bus.connection (b : Bus) : Connection :=
  .ofServers b.servers b.clientName

end Settings

/-- All settings. -/
structure Settings where
  logLevel : String
  flush : Settings.Flush
  generator : Settings.Generator
  bus : Settings.Bus
  api : Settings.Api
deriving DecidableEq

def Settings.standard : Settings :=
  ⟨"INFO", .standard, .standard, .standard, .standard⟩

instance : Inhabited Settings := ⟨.standard⟩

end Candlestick
