import TableFeed.Failure.Basic
import TableFeed.Log

/-!
# The pool

The calls of all inserts run on one pool of workers.  The pool starts when it is first needed, takes
calls until it is closed, and remembers for each call whether it has finished and how.  Calls are
numbered in the order in which they were submitted.
-/

namespace TableFeed

/-- A call that was submitted to a pool. -/
structure Call (κ α : Type) where
  /-- What there is to do. -/
  job : κ
  /-- How the call ended, once it has finished. -/
  outcome : Option α

/-- A pool whose calls do jobs of a type and end with values of another one. -/
structure Pool (κ α : Type) where
  /-- The number of workers. -/
  workers : Int
  /-- How long a drain takes at most, in seconds. -/
  drainTimeout : Float
  /-- Whether the pool was started. -/
  started : Bool := false
  /-- Whether the pool takes no more calls. -/
  closed : Bool := false
  /-- The calls, in the order in which they were submitted. -/
  calls : List (Call κ α) := []

namespace Pool

variable {κ α : Type}

/-- A pool that is not started yet. -/
def make (workers : Int) (drainTimeout : Float) : Except Failure (Pool κ α) :=
  if workers < 1 then .error (.workers workers)
  else .ok ⟨workers, drainTimeout, false, false, []⟩

/-- The pool after it was started, and what the operator is told of that.  A pool starts once. -/
def start (p : Pool κ α) : Except Failure (Pool κ α × List Event) :=
  if p.closed then .error .drained
  else if p.started then .ok (p, [])
  else .ok ({ p with started := true }, [.poolStarted p.workers])

/-- The pool after a call was submitted.  The first call starts it. -/
def submit (p : Pool κ α) (job : κ) : Except Failure (Pool κ α × List Event) := do
  let (p, events) ← p.start
  .ok ({ p with calls := p.calls ++ [⟨job, none⟩] }, events)

/-- The pool after a call finished.  A call finishes once. -/
def finish (p : Pool κ α) (n : Nat) (outcome : α) : Pool κ α :=
  { p with calls := p.calls.modify n fun c => { c with outcome := c.outcome.or (some outcome) } }

/-- The pool, closed. -/
def close (p : Pool κ α) : Pool κ α := { p with closed := true }

/-- The number of the next call. -/
def size (p : Pool κ α) : Nat := p.calls.length

/-- How a call ended, if it has finished. -/
def outcome? (p : Pool κ α) (n : Nat) : Option α := p.calls[n]?.bind Call.outcome

/-- The job of a call that has not finished. -/
def openJob? (p : Pool κ α) (n : Nat) : Option κ :=
  match p.calls[n]? with
  | some ⟨job, none⟩ => some job
  | _ => none

/-- The numbers of the calls that have not finished. -/
def unfinished (p : Pool κ α) : List Nat :=
  (p.calls.zipIdx.filter fun (c, _) => c.outcome.isNone).map Prod.snd

/-- How many calls have not finished. -/
def pending (p : Pool κ α) : Nat := p.calls.countP fun c => c.outcome.isNone

end Pool

end TableFeed
