import TableFeed.Insert.World

/-!
# Uploading a round

All batches of a round are submitted to the pool before any is waited for.  The reports come back
in the order of the batches, whatever the order in which their calls finish.  The first batch, in
that order, whose call has failed decides how a failed upload ends.
-/

namespace TableFeed.World

variable {σ : Type}

/-- Submits the batches of a round in order.  The answer pairs each with the number of its call. -/
def submitAll (c : Client σ) (s : Schedule) (table : TableName) :
    List Batch → Action (World σ) (List (Batch × Nat))
  | [] => pure []
  | b :: rest => do
    let n ← submit c s ⟨table, b⟩
    return (b, n) :: (← submitAll c s table rest)

/-- Whether a call has failed. -/
def failed (w : World σ) (n : Nat) : Bool :=
  match w.pool.outcome? n with
  | some (.error _) => true
  | _ => false

/-- Whether a call has not finished. -/
def isOpen (w : World σ) (n : Nat) : Bool := (w.pool.openJob? n).isSome

/-- Waits for calls until all have finished or one has failed.  The answer says whether the wait was
interrupted. -/
def await (c : Client σ) (s : Schedule) (calls : List Nat) : Action (World σ) Bool := fun w =>
  let k := w.waits
  let w := runCalls c (s.onWait k w.pool.unfinished) { w with waits := k + 1 }
  if s.interrupts k then (.ok true, w)
  else if calls.any w.failed then (.ok false, w)
  else
    let w := runCalls c (s.duringWait k w.pool.unfinished) w
    (.ok false, if calls.any w.failed then w else runCalls c calls w)

/-- The positions in the round of the rows whose batches are not finished. -/
def outstanding (w : World σ) (calls : List (Batch × Nat)) : List Int :=
  (calls.filter fun (_, n) => w.isOpen n).flatMap fun (b, _) => b.positions

/-- The first batch whose call has failed, with the failure. -/
def firstFailed? (w : World σ) (calls : List (Batch × Nat)) : Option (Batch × Failure) :=
  calls.findSome? fun (b, n) =>
    match w.pool.outcome? n with
    | some (.error f) => some (b, f)
    | _ => none

/-- The report on a batch whose call has ended well.  A missing report says nothing. -/
def reportOf (w : World σ) (n : Nat) : List Rejection :=
  match w.pool.outcome? n with
  | some (.ok report) => report.getD []
  | _ => []

/-- Inserts the batches of a round.  The answer has the report on each batch. -/
def upload (c : Client σ) (s : Schedule) (table : TableName) (batches : List Batch) :
    Action (World σ) (List (List Rejection)) := do
  let calls ← submitAll c s table batches
  let interrupted ← await c s (calls.map Prod.snd)
  let w ← get
  if interrupted then throw (.interrupted (.inserting table.spec) (w.outstanding calls))
  match w.firstFailed? calls with
  | some (b, f) =>
    let abandoned := calls.countP fun (_, n) => w.isOpen n
    note (.batchFailed table b.start b.rows.length f.message f.className abandoned)
    throw (.transport table b.start f)
  | none => return calls.map fun (_, n) => w.reportOf n

end TableFeed.World
