import Candlestick.Engine.Basic

/-!
# The sweeper

Drives an engine over time: while it runs it sweeps at a fixed period, and when it is stopped it
drains the engine once. A sweeper that is stopped counts as drained even when a refused save has
cut its drain short; only starting it again lets it drain again.
-/

namespace Candlestick

/-- The state of a sweeper and its counters. -/
structure Sweeper where
  period : Double
  running : Bool
  drained : Bool
  sweeps : Nat
  swept : Nat
deriving DecidableEq

namespace Sweeper

/-- The wording for a period that is zero or negative. -/
def badPeriodMessage : String :=
  "flush_interval must be positive"

/-- A sweeper that does not run yet; the period must not be zero or negative. -/
def make? (period : Double) : Option Sweeper :=
  if period ≤ Double.zero then none else some ⟨period, false, false, 0, 0⟩

/-- Starts the periodic sweep; a sweeper that runs goes on as it is. -/
def start (s : Sweeper) : Sweeper :=
  if s.running then s else { s with running := true, drained := false }

/-- Sweeps once. A sweep that is cut short is not counted. -/
def sweepNow (refuses : Refusals) (s : Sweeper) (e : Engine) (now : Int) :
    Sweeper × Engine × Except Engine.Fault Nat :=
  match e.sweep refuses now with
  | (reached, .ok count) =>
    ({ s with sweeps := s.sweeps + 1, swept := s.swept + count }, reached, .ok count)
  | (reached, .error fault) => (s, reached, .error fault)

/-- Stops the periodic sweep and drains the engine, unless that has been done. -/
def stop (refuses : Refusals) (s : Sweeper) (e : Engine) :
    Sweeper × Engine × Except Engine.Fault Unit :=
  let stopped := { s with running := false }
  if s.drained then (stopped, e, .ok ())
  else
    let (reached, result) := e.shutdown refuses
    ({ stopped with drained := true }, reached, result.map fun _ ↦ ())

end Sweeper

end Candlestick
