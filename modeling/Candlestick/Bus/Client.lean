import Candlestick.Bus.Broker
import Candlestick.Keyed

/-!
# The client of the message bus

A client keeps what it believes about its link and the numbers of its subscriptions by subject.
It counts as connected only if its belief and the link agree. A further subscription to a
subject takes the place of the one before in the client's books; the broker keeps both.
-/

namespace Candlestick

/-- Why a call of a client fails. -/
inductive Client.Fault where
  | notConnected
  | outage (words : String)
deriving DecidableEq, Repr

def Client.Fault.message : Client.Fault → String
  | .notConnected => "NATS client not connected"
  | .outage words => words

/-- How to connect, whether the client believes that it is linked, whether a connection was ever
opened, and the subscriptions on the books. -/
structure Client where
  connection : Connection
  linked : Bool
  opened : Bool
  subscriptions : Keyed String Nat

namespace Client

variable {ρ : Type}

def fresh (connection : Connection) : Client :=
  ⟨connection, false, false, .empty⟩

def isConnected (c : Client) (b : Broker ρ) : Bool :=
  c.linked && c.opened && b.linkUp

/-- Opens a connection; a client that believes it is linked does not ask again. -/
def connect (outages : Outages) (c : Client) (b : Broker ρ) :
    Client × Broker ρ × Except Fault Unit :=
  if c.linked then (c, b, .ok ())
  else
    match b.connect outages c.connection with
    | (b, .ok ()) => ({ c with linked := true, opened := true }, b, .ok ())
    | (b, .error words) => (c, b, .error (.outage words))

/-- Drains the connection, if there ever was one, and clears the books. -/
def close (outages : Outages) (c : Client) (b : Broker ρ) :
    Client × Broker ρ × Except Fault Unit :=
  if c.opened then
    match b.drain outages with
    | (b, .ok ()) => ({ c with linked := false, subscriptions := .empty }, b, .ok ())
    | (b, .error words) => (c, b, .error (.outage words))
  else (c, b, .ok ())

/-- Subscribes to a subject, as a member of a queue if one is named. -/
def subscribe (outages : Outages) (c : Client) (b : Broker ρ) (subject : String)
    (queue : Option String) (receiver : ρ) : Client × Broker ρ × Except Fault Unit :=
  if c.isConnected b then
    match b.subscribe outages subject (queue.getD "") receiver with
    | (b, .ok number) =>
      ({ c with subscriptions := c.subscriptions.put subject number }, b, .ok ())
    | (b, .error words) => (c, b, .error (.outage words))
  else (c, b, .error .notConnected)

/-- Gives the subscription of a subject up, if there is one on the books. -/
def unsubscribe (outages : Outages) (c : Client) (b : Broker ρ) (subject : String) :
    Client × Broker ρ × Except Fault Unit :=
  match c.subscriptions.get? subject with
  | none => (c, b, .ok ())
  | some number =>
    let (b, result) := b.unsubscribe outages number
    ({ c with subscriptions := c.subscriptions.erase subject }, b, result.mapError .outage)

/-- What the client believes after its connection reports that the link was lost or is back. A
client without a connection hears of nothing. -/
def noticeLink (c : Client) (up : Bool) : Client :=
  if c.opened then { c with linked := up } else c

end Client

end Candlestick
