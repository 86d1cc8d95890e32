import Candlestick.Aggregator

/-!
# Runs of one aggregator

An aggregator is asked to take a tick in, to complete a candle that has ended, or to complete
whatever is open. A trace is what has come of such calls so far when every completed candle is
taken: the candles handed over, oldest first, and the state reached.
-/

namespace Candlestick.Aggregator

/-- What an aggregator is asked to do. -/
inductive Call where
  | process (t : Tick)
  | stale (now : Int)
  | flush
deriving DecidableEq

def Call.tick? : Call → Option Tick
  | .process t => some t
  | .stale _ => none
  | .flush => none

theorem Call.filterMap_tick?_cons (call : Call) (rest : List Call) :
    (call :: rest).filterMap Call.tick? = call.tick?.toList ++ rest.filterMap Call.tick? := by
  cases h : call.tick? <;> simp [h]

/-- The move with which an aggregator answers a call. -/
def answer (a : Aggregator) : Call → Except Candle.Fault Move
  | .process t => a.process t
  | .stale now => a.flushStale now
  | .flush => a.flush

def openTicks (a : Aggregator) : Nat :=
  (a.current.map OpenCandle.ticks).getD 0

/-- The candles handed over so far and the state reached. -/
structure Trace where
  emitted : List Candle
  state : Aggregator
deriving DecidableEq

namespace Trace

def fresh (i : Interval) : Trace :=
  ⟨[], .fresh i⟩

def step (tr : Trace) (call : Call) : Except Candle.Fault Trace := do
  let move ← tr.state.answer call
  return ⟨tr.emitted ++ move.completed.toList, move.next⟩

/-- Several calls, one after the other. A candle that breaks a rule ends the run. -/
def run (tr : Trace) : List Call → Except Candle.Fault Trace
  | [] => .ok tr
  | call :: rest => do (← tr.step call).run rest

@[simp] theorem run_nil (tr : Trace) : tr.run [] = .ok tr :=
  rfl

theorem step_of_answer {tr : Trace} {call : Call} {move : Move}
    (h : tr.state.answer call = .ok move) :
    tr.step call = .ok ⟨tr.emitted ++ move.completed.toList, move.next⟩ := by
  rw [step, h]
  rfl

theorem run_cons {tr next : Trace} {call : Call} (h : tr.step call = .ok next)
    (rest : List Call) : tr.run (call :: rest) = next.run rest := by
  rw [run, h]
  rfl

theorem run_append {tr middle : Trace} {calls : List Call} (h : tr.run calls = .ok middle)
    (rest : List Call) : tr.run (calls ++ rest) = middle.run rest := by
  induction calls generalizing tr with
  | nil =>
      rw [run_nil] at h
      cases h
      rfl
  | cons call calls ih =>
      cases hstep : tr.step call with
      | error fault =>
          rw [run, hstep] at h
          cases h
      | ok next =>
          rw [run_cons hstep] at h
          rw [List.cons_append, run_cons hstep]
          exact ih h

end Trace

end Candlestick.Aggregator
