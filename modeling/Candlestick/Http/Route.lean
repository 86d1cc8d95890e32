import Candlestick.History.Query
import Candlestick.Http.Ticks

/-!
# Routes

What the service offers under which path. A path that is known under another method is refused,
and a path that would be known with or without a slash at its end is redirected. All routes but
the one for posting ticks only look at the service.
-/

namespace Candlestick.Http

/-- What can be asked for. -/
inductive Route where
  | overview
  | health
  | ping
  | status
  | symbols
  | intervals
  | history
  | ticks
deriving DecidableEq, Repr

namespace Route

def all : List Route :=
  [overview, health, ping, status, symbols, intervals, history, ticks]

def path : Route → String
  | overview => "/"
  | health => "/health"
  | ping => "/ping"
  | status => "/status"
  | symbols => "/symbols"
  | intervals => "/intervals"
  | history => "/history"
  | ticks => "/ticks"

def method : Route → String
  | ticks => "POST"
  | _ => "GET"

/-- The route of a path. A line feed at its end does not count. -/
def ofPath? (path : String) : Option Route :=
  all.find? fun route ↦ route.path.toList == Text.withoutFinalBreak path.toList

/-- The path with the slashes at its end taken away, or with one added if there are none. -/
def otherPath (path : String) : String :=
  let cs := path.toList
  if cs.getLast? = some '/' then String.ofList (cs.reverse.dropWhile (· == '/')).reverse
  else path ++ "/"

end Route

def serviceName : String :=
  "candle-aggregation"

def healthJson (s : Service) : Json :=
  .object [("status", .text "healthy"), ("service", .text serviceName),
    ("sweep_running", .bool s.sweeper.running), ("generator_enabled", .bool s.walk.isSome),
    ("nats_connected", .bool s.isConnected)]

def statusJson (s : Service) : Json :=
  .object [("status", .text "ok"), ("aggregators", .int s.engine.aggregatorCount),
    ("activeSymbols", .list (s.engine.activeSymbols.map .text)),
    ("totalCandlesStored", .int s.engine.store.size),
    ("totalEventsGenerated", .int s.generatedTicks),
    ("lateTicksDropped", .int s.engine.droppedTicks),
    ("supportedIntervals", .list (Interval.labels.map .text))]

/-- A price in a reply; one that is not finite is left out. -/
def priceJson (x : Double) : Json :=
  if x.isFinite then .real x else .null

def historyJson (h : History) : Json :=
  h.toJsonWith priceJson

/-- The parameters of a query for a history. -/
structure HistoryQuery where
  symbol : String
  interval : String
  first : Int
  last : Int
deriving DecidableEq, Repr

def requiredParameter {α : Type} (query : List (String × String)) (name : String)
    (check : Data → Except Problem α) : Checked α :=
  match queryValue? query name with
  | none => .invalid [⟨[.field name], .missing⟩]
  | some text => (Checked.ofExcept (check (.text text))).under (.field name)

def HistoryQuery.check (query : List (String × String)) : Checked HistoryQuery :=
  HistoryQuery.mk <$> requiredParameter query "symbol" Data.string
    <*> requiredParameter query "interval" Data.string
    <*> requiredParameter query "from" Data.integer
    <*> requiredParameter query "to" Data.integer

/-- The value in which an issue was found: the text of the parameter, if there is one. -/
def parameterInput (query : List (String × String)) (issue : Issue) : Json :=
  match issue.path with
  | .field name :: _ => ((queryValue? query name).map Json.text).getD .null
  | _ => .null

def historyReply (s : Service) (r : Request) : Reply :=
  match HistoryQuery.check r.query with
  | .invalid issues =>
    .issues (issues.map fun issue ↦
      Reply.issueJson (issue.under (.field "query")) (parameterInput r.query issue))
  | .valid q =>
    match History.query s.engine.store q.symbol q.interval q.first q.last with
    | .ok history => .ok (historyJson history)
    | .error refusal => .send 400 (historyJson (.error refusal.message))

def serve (s : Service) (r : Request) : Route → Service × Reply
  | .overview =>
    (s, .ok (.object [("status", .text "running"), ("service", .text serviceName)]))
  | .health => (s, .ok (healthJson s))
  | .ping => (s, .ok (.object [("status", .text "ok")]))
  | .status => (s, (Reply.ok (statusJson s)).encode)
  | .symbols => (s, (Reply.ok (.list (s.engine.store.symbols.map .text))).encode)
  | .intervals => (s, .ok (.list (Interval.labels.map .text)))
  | .history => (s, historyReply s r)
  | .ticks =>
    let (s, reply) := postTick s r
    (s, reply.encode)

def respond (s : Service) (r : Request) : Service × Reply :=
  match Route.ofPath? r.path with
  | some route =>
    if r.method = route.method then serve s r route
    else (s, .detail 405 "Method Not Allowed")
  | none =>
    if (Route.ofPath? (Route.otherPath r.path)).isSome then (s, .bare 307)
    else (s, .detail 404 "Not Found")

end Candlestick.Http
