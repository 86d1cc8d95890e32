import Candlestick.Double.Rounding
import Candlestick.Environment
import Candlestick.Text.Items

/-!
# Connection settings of the message bus

Where the broker is found, under which name the client presents itself, and how it tries to
come back after the link was lost.
-/

namespace Candlestick

/-- How a client connects. The wait between two attempts is in seconds; a negative number of
attempts means that they never end. -/
structure Connection where
  servers : List String
  name : String
  reconnectWait : Double
  maxReconnects : Int
deriving DecidableEq

namespace Connection

def defaultServers : List String :=
  ["nats://localhost:4222"]

def defaultName : String :=
  "candle-aggregator"

/-- A connection to the given servers under a name, with the usual way of coming back. -/
def ofServers (servers : List String) (name : String) : Connection where
  servers := servers
  name := name
  reconnectWait := .ofInt 2
  maxReconnects := -1

/-- The connection of a client that was told nothing. -/
def standard : Connection :=
  .ofServers defaultServers defaultName

/-- The connection that an environment asks for. The names of the variables start with a common
word. -/
def ofEnvironment (word : String) (env : Environment) : Connection :=
  .ofServers (((env.get? (word ++ "_SERVERS")).map Text.items).getD defaultServers)
    ((env.get? (word ++ "_CLIENT_NAME")).getD defaultName)

end Connection

end Candlestick
