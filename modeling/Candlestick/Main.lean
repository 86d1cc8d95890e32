import Candlestick.Http.Route
import Candlestick.Json.Writer
import Candlestick.Service.Startup
import Std.Time.DateTime.Timestamp

/-!
# The program

Loads the settings that the environment asks for, starts the service, and answers requests from
standard input until it ends. A request is one line: a method, an address, and perhaps a body of
JSON, with a space between them. Its reply is one line too: the status and the body. Ahead of
each request the service makes one round of its walk and sweeps once.

The program has no message bus at hand, so its consumer, if it has one, cannot connect.
-/

namespace Candlestick.Program

def currentMilliseconds : IO Int := do
  return (← Std.Time.Timestamp.now).toMillisecondsSinceUnixEpoch.val

/-- The variables of the environment that are looked at. -/
def readEnvironment : IO Environment := do
  let found ← Settings.variableNames.filterMapM fun name ↦
    return (← IO.getEnv name).map (name, ·)
  return ⟨found⟩

/-- The text of the settings file that an environment names, if it can be read. -/
def readSettingsFile (env : Environment) : IO (Option String) := do
  match Settings.fileNamed env with
  | none => return none
  | some path =>
    try return some (← IO.FS.readFile path)
    catch _ => return none

def outages : Outages
  | .connect _ => some "no servers available"
  | _ => none

def requestOfLine (line : String) : Http.Request :=
  let word (cs : List Char) : List Char := cs.takeWhile (· != ' ')
  let behind (cs : List Char) : List Char := (cs.dropWhile (· != ' ')).drop 1
  let cs := (line.toList.reverse.dropWhile (· == '\n')).reverse
  .toAddress (String.ofList (word cs)) (String.ofList (word (behind cs)))
    (String.ofList (behind (behind cs))) (some "application/json")

def replyLine : Http.Reply → String
  | .json status body => toString status ++ " " ++ body.write
  | .bare status => toString status
  | .unsendable => Http.Reply.unsendableMessage

def attend (now : Int) (s : Service) : Service :=
  ((s.continueWalk now).sweepNow (now / 1000)).1

/-- Answers requests until there are no more. -/
partial def serve (input output : IO.FS.Stream) (s : Service) : IO Service := do
  let line ← input.getLine
  if line.isEmpty then return s
  let (s, reply) := Http.respond (attend (← currentMilliseconds) s) (requestOfLine line)
  output.putStrLn (replyLine reply)
  output.flush
  serve input output s

def run (startup : Startup) : IO Unit := do
  let api := startup.settings.api
  if startup.logNumber ≤ LogLevel.info then
    IO.eprintln (s!"Starting Query API on {api.host}:{api.port.val}")
  let started := startup.service.start outages (← currentMilliseconds)
  let ended ← serve (← IO.getStdin) (← IO.getStdout) started
  let stopped := ended.stop outages
  if startup.logNumber ≤ LogLevel.info then
    IO.eprintln (s!"Stopped with {stopped.engine.store.size} candles")

end Candlestick.Program

open Candlestick in
/-- Serves under the settings that the environment asks for, or says why it cannot. -/
def main : IO UInt32 := do
  let env ← Program.readEnvironment
  let contents ← Program.readSettingsFile env
  let entropy ← IO.rand 0 0x4000000000000000
  match Startup.ofEnvironment entropy (fun _ ↦ contents) env with
  | .ok startup =>
    Program.run startup
    return 0
  | .error fault =>
    IO.eprintln (fault.message ((Settings.fileNamed env).getD ""))
    return 1
