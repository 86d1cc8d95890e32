import Candlestick.Bus.Consumer
import Candlestick.Settings.Basic
import Candlestick.Sweeper
import Candlestick.Walk

/-!
# The service

An engine with a sweeper, and as its sources of ticks a random walk and a consumer of messages,
if the settings ask for them. Starting the service starts the sweeper first and the sources
after it. A consumer that cannot be started is given up; the service runs without it. Stopping
the service stops the sources first, whether they can be stopped cleanly or not, and then the
sweeper, which drains the engine.

Saves of the service are never refused.
-/

namespace Candlestick

/-- The parts of a service, and the broker that it talks to. A consumer that was given up is no
longer `attached`. -/
structure Service where
  sweeper : Sweeper
  engine : Engine
  walk : Option (Walk Normal)
  consumer : Option Consumer
  attached : Bool
  broker : Broker Unit

namespace Service

/-- The walk that the settings ask for. Without a seed in the settings `entropy` is the seed. -/
def walkOf (entropy : Int) (s : Settings.Generator) : Option (Walk Normal) :=
  if s.enabled then
    some (.ofSymbols s.interval.val s.symbols (.ofSeed (s.seed.getD entropy)))
  else none

def consumerOf (s : Settings.Bus) : Option Consumer :=
  if s.enabled then some (.fresh s.connection s.queue) else none

/-- The service that the settings ask for, not started, before a broker that was not used yet.
There is none if the period of the sweep has no length in seconds. -/
def ofSettings? (entropy : Int) (s : Settings) (conduct : Broker.Conduct := .shared) :
    Option Service := do
  let period ← Period.seconds? s.flush.interval.val
  let consumer := consumerOf s.bus
  return {
    sweeper := ⟨period, false, false, 0, 0⟩
    engine := .fresh Interval.catalog
    walk := walkOf entropy s.generator
    consumer
    attached := consumer.isSome
    broker := .fresh conduct }

def attachedConsumer? (s : Service) : Option Consumer :=
  if s.attached then s.consumer else none

def startWalk (now : Int) (s : Service) : Service :=
  match s.walk with
  | none => s
  | some walk =>
    let (walk, engine) := walk.start Walk.drawNormal .none now s.engine
    { s with walk := some walk, engine }

def startConsumer (outages : Outages) (s : Service) : Service :=
  match s.attachedConsumer? with
  | none => s
  | some consumer =>
    let (consumer, broker, result) := consumer.start outages s.broker ()
    { s with consumer := some consumer, broker, attached := result.isOk }

def start (outages : Outages) (now : Int) (s : Service) : Service :=
  (startWalk now { s with sweeper := s.sweeper.start }).startConsumer outages

def stopWalk (s : Service) : Service :=
  { s with walk := s.walk.map Walk.stop }

/-- Stops the consumer, if it is attached, as well as can be. -/
def stopConsumer (outages : Outages) (s : Service) : Service :=
  match s.attachedConsumer? with
  | none => s
  | some consumer =>
    let (consumer, broker, _) := consumer.stop outages s.broker
    { s with consumer := some consumer, broker }

def drain (s : Service) : Service :=
  let (sweeper, engine, _) := s.sweeper.stop .none s.engine
  { s with sweeper, engine }

def stop (outages : Outages) (s : Service) : Service :=
  (s.stopWalk.stopConsumer outages).drain

/-- Takes in a message on behalf of one subscription. -/
def receive (bytes : List UInt8) (_ : Unit) (s : Service) : Service × Except Engine.Fault Unit :=
  match s.consumer with
  | none => (s, .ok ())
  | some consumer =>
    let (consumer, engine, result) := consumer.handle .none s.engine bytes
    ({ s with consumer := some consumer, engine }, result)

/-- Hands a message to every live subscription and counts them. -/
def deliver (bytes : List UInt8) (s : Service) : Service × Except Engine.Fault Nat :=
  s.broker.deliver (receive bytes) s

def ingest (s : Service) (tick : Tick) : Service × Except Engine.Fault Unit :=
  let (engine, result) := s.engine.ingest .none tick
  ({ s with engine }, result)

def sweepNow (now : Int) (s : Service) : Service × Except Engine.Fault Nat :=
  let (sweeper, engine, result) := s.sweeper.sweepNow .none s.engine now
  ({ s with sweeper, engine }, result)

/-- One more round of the walk, if it runs. A round that is cut short ends its run. -/
def continueWalk (now : Int) (s : Service) : Service :=
  match s.walk with
  | none => s
  | some walk =>
    if walk.running then
      let (walk, engine, result) := walk.round Walk.drawNormal .none now s.engine
      { s with walk := some { walk with running := result.isOk }, engine }
    else s

def generatedTicks (s : Service) : Nat :=
  (s.walk.map Walk.events).getD 0

def isConnected (s : Service) : Bool :=
  (s.attachedConsumer?.map fun consumer ↦ consumer.client.isConnected s.broker).getD false

end Service

end Candlestick
