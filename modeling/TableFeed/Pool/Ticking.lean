import TableFeed.Action
import TableFeed.Pool.Drain

/-!
# A pool on a clock

A pool whose calls take a known number of ticks.  Each tick is a sleep, in which time passes and the
calls that are due finish.  A call may also be due at once, or never.

The pool keeps the calls that a drain has to wait for in a set of its own.  A call enters the set
after it was submitted, when it may have finished already, and leaves it when it finishes.
-/

namespace TableFeed

/-- What a call does: how it will end, and at which tick. -/
structure TimedJob (α : Type) where
  /-- How the call ends. -/
  ending : α
  /-- The number of the tick at which it ends, if it ever does. -/
  due : Option Nat

/-- A pool, a clock and a log. -/
structure Ticking (α : Type) where
  /-- The pool. -/
  pool : Pool (TimedJob α) α
  /-- The numbers of the calls that a drain waits for. -/
  awaited : List Nat := []
  /-- The numbers of the calls that have run, in the order in which they finished. -/
  ran : List Nat := []
  /-- The time, in seconds. -/
  clock : Float := 0
  /-- What the clock shows after a sleep of a drain, by the number of ticks that have passed before
  it and what the clock shows then. -/
  wake : Nat → Float → Float := fun _ now => now + sleepSeconds
  /-- How many ticks have passed. -/
  ticks : Nat := 0
  /-- What the operator was told, in order. -/
  log : List Event := []

namespace Ticking

variable {α : Type}

/-- The state in which a drain no longer waits for a call. -/
def release (n : Nat) (t : Ticking α) : Ticking α :=
  { t with awaited := t.awaited.filter (· ≠ n) }

/-- The state after a call ran and finished. -/
def finish (n : Nat) (ending : α) (t : Ticking α) : Ticking α :=
  { t with pool := t.pool.finish n ending, ran := t.ran ++ [n] }.release n

/-- The state after a call finished, if it is due and has not finished before. -/
def settleCall (t : Ticking α) (n : Nat) : Ticking α :=
  match t.pool.openJob? n with
  | some job => if job.due.any (· ≤ t.ticks) then t.finish n job.ending else t
  | none => t

/-- The state after the calls that are due have finished. -/
def settle (t : Ticking α) : Ticking α := t.pool.unfinished.foldl settleCall t

/-- The state in which a drain waits for a call that was submitted, unless it has finished. -/
def await (n : Nat) (t : Ticking α) : Ticking α :=
  let t := { t with awaited := t.awaited ++ [n] }
  if (t.pool.outcome? n).isSome then t.release n else t

/-- One tick, after which the clock shows a given time. -/
def pass (clock : Float) (t : Ticking α) : Ticking α :=
  { t with clock := clock, ticks := t.ticks + 1 }.settle

/-- One tick of a given length. -/
def tick (seconds : Float) (t : Ticking α) : Ticking α := t.pass (t.clock + seconds)

/-- The state with another pool and more events. -/
def update (t : Ticking α) (pool : Pool (TimedJob α) α) (events : List Event) : Ticking α :=
  { t with pool := pool, log := t.log ++ events }

/-- Starts the pool. -/
def start : Action (Ticking α) Unit := fun t =>
  match t.pool.start with
  | .error f => (.error f, t)
  | .ok (pool, events) => (.ok (), t.update pool events)

/-- Submits a call that ends in a given way after a number of ticks, or never.  The answer says
whether it has finished already. -/
def submit (ending : α) (after : Option Nat) : Action (Ticking α) Bool := fun t =>
  match t.pool.submit ⟨ending, after.map (t.ticks + ·)⟩ with
  | .error f => (.error f, t)
  | .ok (pool, events) =>
    let n := t.pool.size
    let t := ((t.update pool events).settle).await n
    (.ok (t.pool.outcome? n).isSome, t)

/-- What a drain of the pool sees and does. -/
def waiting : Waiting (Ticking α) (TimedJob α) α where
  pool := Ticking.pool
  setPool pool t := { t with pool := pool }
  pending t := t.awaited.length
  clock := Ticking.clock
  sleep t := t.pass (t.wake t.ticks t.clock)

/-- Drains the pool.  The answer says whether every call has finished. -/
def drain (timeout : Option Float) : Action (Ticking α) Bool := fun t =>
  let (done, events, t) := waiting.drain timeout t
  (.ok done, t.update t.pool events)

end Ticking

end TableFeed
