import Candlestick.Data.Checked
import Candlestick.Data.Scalar
import Candlestick.Http.Reply
import Candlestick.Http.Request
import Candlestick.Service.Basic

/-!
# Posting ticks

A client posts a tick as a JSON object. Its fields are checked first, and all issues are listed;
then the rules of ticks are checked under the canonical symbol, of which the first that is broken
is named. Only a tick that passes both checks is taken in.
-/

namespace Candlestick.Http

/-- The fields of a posted tick. -/
structure PostedTick where
  symbol : String
  bid : Double
  ask : Double
  timestamp : Int
deriving DecidableEq

namespace PostedTick

def required {α : Type} (fields : List (String × Json)) (name : String)
    (check : Data → Except Problem α) : Checked α :=
  match fields.lookup name with
  | none => .invalid [⟨[.field name], .missing⟩]
  | some value => (Checked.ofExcept (check (.ofJson value))).under (.field name)

def check : Json → Checked PostedTick
  | .object fields =>
    PostedTick.mk <$> required fields "symbol" Data.string <*> required fields "bid" Data.decimal
      <*> required fields "ask" Data.decimal <*> required fields "timestamp" Data.integer
  | _ => .invalid [⟨[], .notObject⟩]

/-- The value in which an issue was found: the field itself, or the whole body if it is absent. -/
def inputOf (body : Json) (issue : Issue) : Json :=
  match issue.problem, issue.path with
  | .missing, _ => body
  | _, .field name :: _ => (body.field? name).getD .null
  | _, _ => body

def tick (p : PostedTick) : Except Tick.Fault Tick :=
  Tick.make (Symbol.normalize p.symbol) p.bid p.ask p.timestamp

end PostedTick

def bodyStep : Step :=
  .field "body"

def acceptedReply (t : Tick) : Reply :=
  .ok (.object [("status", .text "accepted"), ("symbol", .text t.symbol), ("mid", .real t.mid)])

def postValue (s : Service) (body : Json) : Service × Reply :=
  match PostedTick.check body with
  | .invalid issues =>
    (s, .issues (issues.map fun issue ↦
      Reply.issueJson (issue.under bodyStep) (PostedTick.inputOf body issue)))
  | .valid posted =>
    match posted.tick with
    | .error fault => (s, .detail 400 fault.message)
    | .ok tick => ((s.ingest tick).1, acceptedReply tick)

def postTick (s : Service) (r : Request) : Service × Reply :=
  match r.content with
  | .none => (s, .issues [Reply.issueJson ⟨[bodyStep], .missing⟩ .null])
  | .malformed problem index =>
    (s, .issues [Reply.issueJson ⟨[bodyStep, .item index], .malformedJson⟩ (.object []) ++
      [("ctx", .object [("error", .text problem.message)])]])
  | .unreadable => (s, .detail 400 "There was an error parsing the body")
  | .json body => postValue s body

end Candlestick.Http
