import Candlestick.Data.Problem
import Candlestick.Json.Basic

/-!
# Replies

What a client gets: a status with a JSON value, or a status alone. A JSON value with a number that
is not finite cannot be sent, nor one with a text that cannot be given as bytes. Such a text comes
from JSON alone; the pairs of a query string have none.
-/

namespace Candlestick.Http

/-- A reply to a request. -/
inductive Reply where
  | json (status : Nat) (body : Json)
  | bare (status : Nat)
  /-- There is a reply, but it cannot be written down. -/
  | unsendable

namespace Reply

/-- The wording for a reply with a number that is not finite. -/
def unsendableMessage : String :=
  "Out of range float values are not JSON compliant"

def send (status : Nat) (body : Json) : Reply :=
  if body.isFinite then .json status body else .unsendable

/-- The reply, if its texts can be given as bytes. -/
def encode : Reply → Reply
  | .json status body => if body.isEncodable then .json status body else .unsendable
  | reply => reply

/-- The reply with a JSON value of the good status. -/
def ok (body : Json) : Reply :=
  send 200 body

/-- The reply that says in one sentence why a request was not served. -/
def detail (status : Nat) (message : String) : Reply :=
  send status (.object [("detail", .text message)])

/-- A step on the way to a part of a request, as JSON. -/
def stepJson : Step → Json
  | .field name => .text name
  | .item index => .int index

/-- An issue as JSON, with the value it was found in. -/
def issueJson (issue : Issue) (input : Json) : List (String × Json) :=
  [("type", .text issue.problem.code), ("loc", .list (issue.path.map stepJson)),
    ("msg", .text issue.problem.message), ("input", input)]

def issues (listed : List (List (String × Json))) : Reply :=
  send 422 (.object [("detail", .list (listed.map .object))])

end Reply

end Candlestick.Http
