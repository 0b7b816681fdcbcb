import TableFeed.Pool.Basic

/-!
# Draining a pool

A drain closes the pool and then waits, in short sleeps, until every call has finished or the time
is up.  After the last sleep the calls are counted once more, so that a call that finishes in the
very sleep that uses up the time counts as finished.

What the clock shows after a sleep is given from outside.  Left out is a user who interrupts a drain
in its sleep: the pool is closed by then, and the drain does not return.
-/

namespace TableFeed

/-- A loop, which takes steps while a condition holds. -/
structure Loop (ω : Type) where
  /-- Whether another step is taken. -/
  going : ω → Bool
  /-- One step. -/
  step : ω → ω

/-- The state in which a loop ends.  There is none if it goes on for ever. -/
def Loop.run {ω : Type} (l : Loop ω) (w : ω) : Option ω :=
  if l.going w then l |>.run (l.step w) else some w
partial_fixpoint

/-- Takes steps while a condition holds.  There is no last state if it holds for ever. -/
def stepWhile {ω : Type} (going : ω → Bool) (step : ω → ω) (w : ω) : Option ω :=
  Loop.run ⟨going, step⟩ w

/-- What a drain sees of the state that it waits in. -/
structure Waiting (ω κ α : Type) where
  /-- The pool. -/
  pool : ω → Pool κ α
  /-- The state with another pool. -/
  setPool : Pool κ α → ω → ω
  /-- How many calls there are to wait for. -/
  pending : ω → Nat
  /-- The time, in seconds. -/
  clock : ω → Float
  /-- One sleep, in which time passes and calls may finish. -/
  sleep : ω → ω

/-- How long a sleep is meant to take, in seconds. -/
def sleepSeconds : Float := 0.05

namespace Waiting

variable {ω κ α : Type}

/-- Whether a drain goes on waiting. -/
def going (v : Waiting ω κ α) (deadline : Float) (w : ω) : Bool :=
  v.clock w < deadline && 0 < v.pending w

/-- Closes the pool and waits for its calls.  The answer says whether all have finished; the events
are told to the operator after the last sleep.  A wait without an end leaves nothing, and the state
in which it begins stands for it. -/
def drain (v : Waiting ω κ α) (timeout : Option Float) (w : ω) : Bool × List Event × ω :=
  let w := v.setPool (v.pool w).close w
  if !(v.pool w).started then (true, [], w)
  else
    let seconds := timeout.getD (v.pool w).drainTimeout
    let deadline := v.clock w + seconds
    let w := (stepWhile (v.going deadline) v.sleep w).getD w
    let n := v.pending w
    if n = 0 then (true, [.poolDrained], w) else (false, [.poolAbandoned n seconds], w)

end Waiting

end TableFeed
