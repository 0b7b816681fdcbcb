import TableFeed.Pool.Drain
import TableFeed.Remote.Client

/-!
# The state of a load

A load acts on a remote store through a client, on a pool of calls and on a log.  When the calls of
the pool run, and when the user interrupts a wait for them, is not for the load to decide; a
`Schedule` says so for a whole run.
-/

namespace TableFeed

/-- The insert of a batch into a table. -/
structure Job where
  /-- The table. -/
  table : TableName
  /-- The batch. -/
  batch : Batch

/-- How the insert of a batch ended. -/
abbrev Ending := Except Failure (Option (List Rejection))

/-- What an insert has counted so far. -/
structure Tally where
  /-- How many rounds have begun. -/
  rounds : Nat := 0
  /-- How many batches were planned. -/
  batches : Nat := 0
  /-- How many rows were sent again. -/
  retried : Nat := 0

/-- The state of a load over a remote store whose state is a `σ`. -/
structure World (σ : Type) where
  /-- The remote store. -/
  remote : σ
  /-- The pool. -/
  pool : Pool Job Ending
  /-- What the operator was told, in order. -/
  log : List Event := []
  /-- The time, in seconds. -/
  clock : Float := 0
  /-- How many times a round has waited for its calls. -/
  waits : Nat := 0
  /-- What the insert under way has counted. -/
  tally : Tally := {}

instance {σ : Type} : Logged (World σ) where
  note e w := { w with log := w.log ++ [e] }

/-- When submitted calls run and which waits are interrupted.  Calls are given and chosen by their
numbers; one that is not unfinished is passed over. -/
structure Schedule where
  /-- The calls that run when a call of a given number was submitted. -/
  onSubmit : Nat → List Nat → List Nat
  /-- The calls that run at the start of a wait, whatever becomes of the wait. -/
  onWait : Nat → List Nat → List Nat
  /-- Whether the user interrupts a wait. -/
  interrupts : Nat → Bool
  /-- The calls that run in a wait that goes on. -/
  duringWait : Nat → List Nat → List Nat
  /-- The calls that run in a sleep of a drain. -/
  onSleep : List Nat → List Nat
  /-- What the clock shows after a sleep of a drain, by what it shows before. -/
  wake : Float → Float := fun now => now + sleepSeconds

namespace World

variable {σ α : Type}

/-- An action on the remote store. -/
def remotely (x : Action σ α) : Action (World σ) α :=
  x.on World.remote fun s w => { w with remote := s }

/-- Tells the operator of several events. -/
def tell (events : List Event) (w : World σ) : World σ := { w with log := w.log ++ events }

/-- Inserts a batch, and tells the operator of rejected rows if the client announces them. -/
def insert (c : Client σ) (table : TableName) (b : Batch) :
    Action (World σ) (Option (List Rejection)) := do
  let report ← remotely (c.insert table b)
  let rejected := (report.getD []).length
  if c.announces && 0 < rejected then
    note (.batchRejections table b.start b.rows.length rejected)
  return report

/-- Runs a call, if it has not finished. -/
def runCall (c : Client σ) (n : Nat) (w : World σ) : World σ :=
  match w.pool.openJob? n with
  | none => w
  | some job =>
    let (ending, w) := (insert c job.table job.batch).run w
    { w with pool := w.pool.finish n ending }

/-- Runs calls, one after the other. -/
def runCalls (c : Client σ) (calls : List Nat) (w : World σ) : World σ :=
  calls.foldl (fun w n => runCall c n w) w

/-- Starts the pool. -/
def start : Action (World σ) Unit := fun w =>
  match w.pool.start with
  | .error f => (.error f, w)
  | .ok (pool, events) => (.ok (), { w with pool := pool }.tell events)

/-- Submits the insert of a batch.  The answer is the number of the call. -/
def submit (c : Client σ) (s : Schedule) (job : Job) : Action (World σ) Nat := fun w =>
  match w.pool.submit job with
  | .error f => (.error f, w)
  | .ok (pool, events) =>
    let n := w.pool.size
    let w := { w with pool := pool }.tell events
    (.ok n, runCalls c (s.onSubmit n w.pool.unfinished) w)

/-- What a drain of the pool sees and does. -/
def waiting (c : Client σ) (s : Schedule) : Waiting (World σ) Job Ending where
  pool := World.pool
  setPool pool w := { w with pool := pool }
  pending w := w.pool.pending
  clock := World.clock
  sleep w := runCalls c (s.onSleep w.pool.unfinished) { w with clock := s.wake w.clock }

/-- Drains the pool.  The answer says whether every call has finished. -/
def drain (c : Client σ) (s : Schedule) : Action (World σ) Bool := fun w =>
  let (done, events, w) := (waiting c s).drain none w
  (.ok done, w.tell events)

end World

end TableFeed
