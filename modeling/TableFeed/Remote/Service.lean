import TableFeed.Remote.Client
import TableFeed.Table.Response

/-!
# The hosted service

The service takes the rows of a batch, each a mapping, with a token for each of them or with none.
It answers with a response that `Rejection.ofResponse` reads.  Its schemas are fields.
-/

namespace TableFeed

/-- The requests of the hosted service, on a state of type `σ`. -/
structure Service (σ : Type) where
  /-- Inserts rows, with or without tokens; the answer is a response. -/
  insert : TableName → List Row → Option (List Writing) → Action σ Value
  /-- Fetches a table. -/
  get : TableName → Action σ Table
  /-- Deletes a table. -/
  delete : TableName → Action σ Unit
  /-- Creates a table. -/
  create : TableName → Schema → Action σ Table
  /-- Fetches the first row of a table, if it has one. -/
  first : TableName → Action σ (Option Row)

namespace Service

variable {σ : Type}

/-- A row of a table, which has to be a mapping. -/
def rowOf : Value → Except Fault Row
  | .mapping entries => .ok (.mapping entries)
  | v => .error (.itemless v.kind)

/-- The client of a service.  It sends rows as mappings, announces rejected rows, and creates no
table without fields. -/
def client (s : Service σ) : Client σ where
  insert table b := do
    let rows ← Action.answer (liftFault (b.rows.mapM Value.asMapping))
    let response ← s.insert table rows b.tokens
    return some (← Action.answer (liftFault (Rejection.ofResponse response)))
  get := s.get
  delete := s.delete
  create table schema :=
    match schema with
    | none => throw (.fault (.partless Value.null.kind))
    | some schema => s.create table schema
  first table := do
    match ← s.first table with
    | none => return none
    | some row => return some (← Action.answer (liftFault (rowOf row)))
  announces := true

end Service

end TableFeed
