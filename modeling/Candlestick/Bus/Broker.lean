import Candlestick.Bus.Connection

/-!
# The broker

The other side of the message bus, as far as a client can see it: whether the link is up, which
subscriptions are live, and what it has been asked for. Every request is on record, those that
were turned down too. Which requests are turned down, and in which words, is a parameter.

A published message goes to every live subscription, in the order in which they were made. What
a subscription does with it is the business of its receiver.

A subscription belongs to the connection on which it was made. Whether a further connection takes
the place of the one before, and what a drain ends, is for the library behind the client to say; it
is a parameter as well.
-/

namespace Candlestick

/-- What a client asks of a broker. Subscriptions are numbered from one. -/
inductive Broker.Request where
  | connect (connection : Connection)
  | subscribe (subject queue : String)
  | unsubscribe (number : Nat)
  | drain
deriving DecidableEq

/-- The words in which a request is turned down, if it is. -/
abbrev Outages := Broker.Request → Option String

def Outages.none : Outages :=
  fun _ ↦ Option.none

/-- What becomes of connections: whether each one that is granted has subscriptions of its own, and
whether a drain that is granted ends those of its connection. -/
structure Broker.Conduct where
  renews : Bool
  drainEnds : Bool
deriving DecidableEq

/-- Every connection has its own subscriptions, and a drain ends them. -/
def Broker.Conduct.separate : Conduct :=
  ⟨true, true⟩

/-- One connection is handed out time and again, and its subscriptions outlast a drain. -/
def Broker.Conduct.shared : Conduct :=
  ⟨false, false⟩

/-- The link of the current connection, the live subscriptions of all connections with their
receivers, the number of subscriptions made so far, how many of them were made on an `earlier`
connection, and the requests received so far. -/
structure Broker (ρ : Type) where
  conduct : Broker.Conduct
  linkUp : Bool
  live : List (Nat × ρ)
  issued : Nat
  earlier : Nat
  requests : List Broker.Request

namespace Broker

variable {ρ σ ε : Type}

def fresh (conduct : Conduct := .shared) : Broker ρ :=
  ⟨conduct, false, [], 0, 0, []⟩

instance : Inhabited (Broker ρ) := ⟨fresh⟩

/-- Puts a request on record and says whether it is granted. -/
def ask (outages : Outages) (b : Broker ρ) (request : Request) : Broker ρ × Except String Unit :=
  ({ b with requests := b.requests ++ [request] },
    match outages request with
    | some words => .error words
    | none => .ok ())

def setLink (b : Broker ρ) (up : Bool) : Broker ρ :=
  { b with linkUp := up }

/-- The link comes up when a connection is granted. If it is a connection of its own then all the
subscriptions so far belong to earlier ones. -/
def connect (outages : Outages) (b : Broker ρ) (connection : Connection) :
    Broker ρ × Except String Unit :=
  match b.ask outages (.connect connection) with
  | (b, .ok ()) =>
    ({ b with linkUp := true, earlier := if b.conduct.renews then b.issued else b.earlier },
      .ok ())
  | (b, .error words) => (b, .error words)

/-- A granted subscription is live and has the next number. -/
def subscribe (outages : Outages) (b : Broker ρ) (subject queue : String) (receiver : ρ) :
    Broker ρ × Except String Nat :=
  match b.ask outages (.subscribe subject queue) with
  | (b, .ok ()) =>
    let number := b.issued + 1
    ({ b with live := b.live ++ [(number, receiver)], issued := number }, .ok number)
  | (b, .error words) => (b, .error words)

/-- A subscription that is given up is no longer live, on whichever connection it was made. -/
def unsubscribe (outages : Outages) (b : Broker ρ) (number : Nat) :
    Broker ρ × Except String Unit :=
  match b.ask outages (.unsubscribe number) with
  | (b, .ok ()) => ({ b with live := b.live.filter fun entry ↦ entry.1 != number }, .ok ())
  | (b, .error words) => (b, .error words)

/-- The link goes down when a drain is granted. The subscriptions of earlier connections stay live,
those of the current one unless the drain ends them. -/
def drain (outages : Outages) (b : Broker ρ) : Broker ρ × Except String Unit :=
  match b.ask outages .drain with
  | (b, .ok ()) =>
    ({ b with
        linkUp := false
        live :=
          if b.conduct.drainEnds then b.live.filter fun entry ↦ decide (entry.1 ≤ b.earlier)
          else b.live }, .ok ())
  | (b, .error words) => (b, .error words)

/-- Hands a message to several receivers up to the first that fails. -/
def deliverTo (receive : ρ → σ → σ × Except ε Unit) : List ρ → σ → σ × Except ε Unit
  | [], s => (s, .ok ())
  | receiver :: rest, s =>
    match receive receiver s with
    | (s, .error fault) => (s, .error fault)
    | (s, .ok ()) => deliverTo receive rest s

/-- Hands a message to every live subscription and counts them. -/
def deliver (receive : ρ → σ → σ × Except ε Unit) (b : Broker ρ) (s : σ) : σ × Except ε Nat :=
  let (s, result) := deliverTo receive (b.live.map Prod.snd) s
  (s, result.map fun _ ↦ b.live.length)

end Broker

end Candlestick
