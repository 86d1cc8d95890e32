import Candlestick.Bus.Client
import Candlestick.Bus.Subject
import Candlestick.Engine.Basic
import Candlestick.Text.Utf8
import Candlestick.Tick.Message

/-!
# The consumer of tick messages

A consumer subscribes to the ticks of all symbols and offers each one to an engine under its
canonical symbol. A message that is no tick is rejected and changes nothing but the count of
rejected messages. A tick counts as accepted once the engine has taken it in.
-/

namespace Candlestick

/-- Why a message is rejected. -/
inductive Consumer.Rejection where
  | notText
  | notTick (error : Tick.ReadError)
  /-- The tick breaks a rule under its canonical symbol. -/
  | invalid (fault : Tick.Fault)

/-- A client, the queue to join, and the counts of accepted and rejected messages. -/
structure Consumer where
  client : Client
  queue : Option String
  accepted : Nat
  rejected : Nat

namespace Consumer

variable {ρ : Type}

def fresh (connection : Connection) (queue : Option String) : Consumer :=
  ⟨.fresh connection, queue, 0, 0⟩

/-- The tick in a message, under its canonical symbol. -/
def tickOf (bytes : List UInt8) : Except Rejection Tick :=
  match Text.Utf8.decode? bytes with
  | none => .error .notText
  | some text => do
    let tick ← (Tick.ofMessage text).mapError .notTick
    (Tick.make (Symbol.normalize tick.symbol) tick.bid tick.ask tick.timestamp).mapError .invalid

/-- Takes a message in. Only a refused save makes this fail. -/
def handle (refuses : Refusals) (c : Consumer) (e : Engine) (bytes : List UInt8) :
    Consumer × Engine × Except Engine.Fault Unit :=
  match tickOf bytes with
  | .error _ => ({ c with rejected := c.rejected + 1 }, e, .ok ())
  | .ok tick =>
    match e.ingest refuses tick with
    | (reached, .ok ()) => ({ c with accepted := c.accepted + 1 }, reached, .ok ())
    | (reached, .error fault) => (c, reached, .error fault)

def start (outages : Outages) (c : Consumer) (b : Broker ρ) (receiver : ρ) :
    Consumer × Broker ρ × Except Client.Fault Unit :=
  let (client, b, result) :=
    if c.client.isConnected b then (c.client, b, .ok ()) else c.client.connect outages b
  match result with
  | .error fault => ({ c with client }, b, .error fault)
  | .ok () =>
    let (client, b, result) := client.subscribe outages b Subject.all c.queue receiver
    ({ c with client }, b, result)

/-- Gives the subscription up and closes the connection. -/
def stop (outages : Outages) (c : Consumer) (b : Broker ρ) :
    Consumer × Broker ρ × Except Client.Fault Unit :=
  match c.client.unsubscribe outages b Subject.all with
  | (client, b, .error fault) => ({ c with client }, b, .error fault)
  | (client, b, .ok ()) =>
    let (client, b, result) := client.close outages b
    ({ c with client }, b, result)

end Consumer

end Candlestick
