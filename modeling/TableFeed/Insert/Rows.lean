import TableFeed.Insert.Upload
import TableFeed.Retry.Loop

/-!
# Inserting rows

A round plans the batches of its rows, uploads them and finds the rejected rows in the reports;
only these go into the next round.  The whole is one operation with one answer: all rows were
accepted, or a failure says which ones were not.
-/

namespace TableFeed

/-- How rows are inserted. -/
structure InsertOptions where
  /-- When a batch is closed. -/
  limits : BatchLimits
  /-- When rejected rows are inserted again. -/
  policy : Policy

namespace InsertOptions

/-- The options with given limits, which have to be positive. -/
def make (limits : BatchLimits) (policy : Policy) : Except Misuse InsertOptions :=
  if limits.rows < 1 then .error (.rowLimit limits.rows)
  else if limits.size < 1 then .error (.sizeLimit limits.size)
  else .ok ⟨limits, policy⟩

end InsertOptions

/-- What an insert that succeeded amounts to. -/
structure Summary where
  /-- The table. -/
  table : TableName
  /-- How many rows were inserted. -/
  rows : Nat
  /-- How many rounds it took. -/
  attempts : Nat
  /-- How many batches were sent. -/
  batches : Nat
  /-- How many rows were sent again. -/
  retried : Nat
deriving DecidableEq, Repr

namespace World

variable {σ : Type}

/-- Counts a round of given rows and tells the operator of it. -/
def beginRound (table : TableName) (rows : Nat) (batches : List Batch) : Action (World σ) Unit := do
  let t := (← get).tally
  let again := 0 < t.rounds
  modify fun w => { w with tally :=
    ⟨t.rounds + 1, t.batches + batches.length, if again then t.retried + rows else t.retried⟩ }
  let size := Batch.sizeOf batches
  note (if again then .roundRetrying table size else .roundStarted table size)

/-- One round: plans, uploads and finds the rejected rows. -/
def round (c : Client σ) (s : Schedule) (limits : BatchLimits) (table : TableName) :
    Round (World σ) := fun rows tokens => do
  let batches ← Action.answer (liftFault (Batch.plan limits rows tokens).complete)
  beginRound table rows.length batches
  let reports ← upload c s table batches
  Action.answer (Outcome.ofReports rows tokens batches reports)

/-- Checks what is to be inserted: there is a table, and one token for each row if there are tokens
at all. -/
def checkRequest (table : Option TableName) (rows : List Row) (tokens : Option (List Writing)) :
    Except Misuse TableName :=
  match table with
  | none => .error .tableless
  | some table =>
    match tokens with
    | none => .ok table
    | some ts =>
      if ts.length = rows.length then .ok table
      else .error (.tokenCount ts.length rows.length)

/-- Inserts rows into a table, and those that are rejected again, as the options say. -/
def insertAll (c : Client σ) (s : Schedule) (pace : Pace) (options : InsertOptions)
    (table : Option TableName) (rows : List Row) (tokens : Option (List Writing)) :
    Action (Paced (World σ)) Summary := do
  let table ← Action.answer ((checkRequest table rows tokens).mapError .misuse)
  Retry.inner (modify fun w => { w with tally := {} })
  let attempts ← Retry.run options.policy pace table.spec (round c s options.limits table) rows
    tokens
  let tally := (← get).inner.tally
  note (.insertCompleted table rows.length attempts tally.batches)
  return ⟨table, rows.length, attempts, tally.batches, tally.retried⟩

end World

end TableFeed
