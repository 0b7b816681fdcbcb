import TableFeed.Action
import TableFeed.Schema.Field
import TableFeed.Table.Batch

/-!
# Clients

The five requests that a load makes of a remote store of tables.  A client answers them on a state
of its own, about which nothing is known here.
-/

namespace TableFeed

/-- A table of a remote store. -/
structure Table where
  /-- The name. -/
  name : TableName
  /-- The columns, if the store knows them. -/
  schema : Option Schema
  /-- The rows. -/
  rows : List Row

/-- The requests that can be made of a remote store whose state is a `σ`. -/
structure Client (σ : Type) where
  /-- Inserts a batch; the answer is the report, which may be missing. -/
  insert : TableName → Batch → Action σ (Option (List Rejection))
  /-- Fetches a table. -/
  get : TableName → Action σ Table
  /-- Deletes a table. -/
  delete : TableName → Action σ Unit
  /-- Creates a table. -/
  create : TableName → Option Schema → Action σ Table
  /-- Fetches the first row of a table, if it has one. -/
  first : TableName → Action σ (Option Row)
  /-- Whether the operator is told of the rows that a batch had rejected. -/
  announces : Bool

end TableFeed
