import TableFeed.Rehearsal.Script

/-!
# Rehearsed rounds

Rounds that end as a script says, whatever rows they are given.  The rows of each round are kept.
-/

namespace TableFeed.Rehearsal

/-- How a round ends. -/
inductive Turn where
  /-- The rows at some positions are rejected with messages. -/
  | reject (rows : List (Int × List Writing))
  /-- The user interrupts it while the rows at some positions are outstanding. -/
  | interrupt (positions : List Int)
  /-- It fails. -/
  | fail (failure : Failure)

/-- The rounds that have taken place, and the log. -/
structure Rounds where
  /-- The rows and the tokens that each round was given. -/
  given : List (List Row × Option (List Writing)) := []
  /-- What the operator was told, in order. -/
  log : List Event := []

instance : Logged Rounds where
  note e r := { r with log := r.log ++ [e] }

/-- The rejected row that a turn names. -/
def rejectAt (rows : List Row) (tokens : Option (List Writing)) (n : Int)
    (messages : List Writing) : Except Fault Reject := do
  let row ← Position.item rows n
  let token ← match tokens with
    | none => .ok none
    | some ts => (Position.item ts n).map some
  .ok ⟨n, row, token, messages⟩

/-- How a turn ends for given rows and tokens. -/
def Turn.ending (rows : List Row) (tokens : Option (List Writing)) :
    Turn → Except Failure Outcome
  | reject found => do
    let rejects ← liftFault (found.mapM fun (n, messages) => rejectAt rows tokens n messages)
    .ok ⟨rejects, tokens.isSome, []⟩
  | interrupt positions => .error (.interrupted (.inserting "") positions)
  | fail f => .error f

/-- The round that takes the next turn of a script.  After the last turn every row is accepted. -/
def round (turns : List Turn) : Round Rounds := fun rows tokens r =>
  let turn := (turns[r.given.length]?).getD (.reject [])
  (turn.ending rows tokens, { r with given := r.given ++ [(rows, tokens)] })

end TableFeed.Rehearsal
