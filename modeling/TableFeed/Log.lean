import TableFeed.Table.Name
import TableFeed.Text.Writing
import TableFeed.Value.Basic

/-!
# The log

What an operation tells its operator, in order.  An event has a level, a name and fields; the
program prints those at or above the level of its settings.
-/

namespace TableFeed

/-- How much an event matters. -/
inductive Level where
  /-- Of interest when a fault is looked for. -/
  | debug
  /-- The normal course of things. -/
  | info
  /-- Something was left unfinished. -/
  | warning
  /-- Something failed. -/
  | error
deriving DecidableEq, Repr

namespace Level

/-- The name of a level. -/
def name : Level → String
  | debug => "debug"
  | info => "info"
  | warning => "warning"
  | error => "error"

/-- The rank of a level among all levels of a log. -/
def rank : Level → Nat
  | debug => 10
  | info => 20
  | warning => 30
  | error => 40

/-- The ranks that have names in settings. -/
def namedRanks : List (String × Nat) := [
  ("CRITICAL", 50), ("FATAL", 50), ("ERROR", 40), ("WARN", 30), ("WARNING", 30), ("INFO", 20),
  ("DEBUG", 10), ("NOTSET", 0)]

/-- The least rank that is printed under a setting.  An unknown name stands for `INFO`. -/
def leastRank (setting : String) : Nat :=
  ((namedRanks.find? (·.1 == setting)).map Prod.snd).getD 20

end Level

/-- The size of a round: its batches, their rows and the estimated size of these. -/
structure RoundSize where
  /-- How many batches there are. -/
  batches : Nat
  /-- How many rows they hold. -/
  rows : Nat
  /-- The sum of their sizes. -/
  octets : Nat
deriving DecidableEq, Repr

/-- Something that is told to the operator. -/
inductive Event where
  /-- The service rejected rows of a batch. -/
  | batchRejections (table : TableName) (batchRow : Int) (rows rejected : Nat)
  /-- The pool was started. -/
  | poolStarted (workers : Int)
  /-- The pool was given up while calls were unfinished. -/
  | poolAbandoned (unfinished : Nat) (timeout : Float)
  /-- The pool was left with every call finished. -/
  | poolDrained
  /-- An insert did not complete. -/
  | batchFailed (table : TableName) (batchRow : Int) (rows : Nat) (error : Writing)
      (errorClass : String) (abandoned : Nat)
  /-- A table to be truncated has no rows. -/
  | emptyTableKept (table : TableName)
  /-- A table is about to be deleted in order to truncate it. -/
  | tableDeleting (table : TableName)
  /-- A table is about to be created. -/
  | tableCreating (table : TableName) (fields : Nat)
  /-- Another writer has created the table. -/
  | tableExists (table : TableName)
  /-- Rows are still rejected after the last attempt. -/
  | retriesExhausted (table : String) (attempts rows : Nat)
  /-- Rejected rows will be inserted again after a wait. -/
  | retryScheduled (table : String) (attempt rows : Nat) (seconds : Float)
  /-- Rejected rows are inserted again. -/
  | roundRetrying (table : TableName) (size : RoundSize)
  /-- All rows are inserted for the first time. -/
  | roundStarted (table : TableName) (size : RoundSize)
  /-- All rows were accepted. -/
  | insertCompleted (table : TableName) (rows attempts batches : Nat)
  /-- A load ended well. -/
  | loadCompleted (table : TableName) (rows attempts retried : Nat)
  /-- A load failed. -/
  | loadFailed (table : String) (error : Writing) (errorClass : String)

namespace Event

/-- The level of an event. -/
def level : Event → Level
  | batchRejections .. => .debug
  | poolAbandoned .. => .warning
  | batchFailed .. => .error
  | retriesExhausted .. => .error
  | roundStarted .. => .debug
  | loadFailed .. => .error
  | _ => .info

/-- The name of an event. -/
def name : Event → String
  | batchRejections .. => "insert_batch_rejections"
  | poolStarted .. => "inserter_runtime_started"
  | poolAbandoned .. => "inserter_runtime_drain_timeout"
  | poolDrained => "inserter_runtime_drained"
  | batchFailed .. => "insert_batch_failed"
  | emptyTableKept .. => "empty_table_not_removed"
  | tableDeleting .. => "table_deleting"
  | tableCreating .. => "table_create_attempt"
  | tableExists .. => "table_already_exists"
  | retriesExhausted .. => "insert_retries_exhausted"
  | retryScheduled .. => "insert_retry_scheduled"
  | roundRetrying .. => "insert_retrying_failed_rows"
  | roundStarted .. => "insert_round_started"
  | insertCompleted .. => "insert_completed"
  | loadCompleted .. => "load_completed"
  | loadFailed .. => "load_failed"

/-- The field that names a table. -/
def tableField (t : TableName) : String × Value := ("table", .text t.spec)

/-- A field with a count. -/
def countField (name : String) (n : Nat) : String × Value := (name, .int n)

/-- The fields that give the size of a round. -/
def sizeFields (s : RoundSize) : List (String × Value) :=
  [countField "batches" s.batches, countField "rows" s.rows, countField "bytes" s.octets]

/-- The fields of an event. -/
def fields : Event → List (String × Value)
  | batchRejections t row rows rejected => [tableField t, ("stride", .int row),
      countField "rows" rows, countField "rejected" rejected]
  | poolStarted workers => [("workers", .int workers)]
  | poolAbandoned n timeout => [countField "remaining" n, ("timeout", .float timeout)]
  | poolDrained => []
  | batchFailed t row rows error errorClass abandoned => [tableField t, ("stride", .int row),
      countField "rows" rows, ("error", .ofGlyphs error.glyphs), ("error_type", .text errorClass),
      countField "abandoned_batches" abandoned]
  | emptyTableKept t => [tableField t]
  | tableDeleting t => [tableField t, ("reason", .text "truncate")]
  | tableCreating t n => [tableField t, countField "fields" n]
  | tableExists t => [tableField t]
  | retriesExhausted t attempts rows => [("table", .text t), countField "attempts" attempts,
      countField "failed_rows" rows]
  | retryScheduled t attempt rows seconds => [("table", .text t), countField "attempt" attempt,
      countField "failed_rows" rows, ("backoff_seconds", .float seconds)]
  | roundRetrying t size => tableField t :: sizeFields size
  | roundStarted t size => tableField t :: sizeFields size
  | insertCompleted t rows attempts batches => [tableField t, countField "rows" rows,
      countField "attempts" attempts, countField "batches" batches]
  | loadCompleted t rows attempts retried => [tableField t, countField "rows" rows,
      countField "attempts" attempts, countField "retried_rows" retried]
  | loadFailed t error errorClass => [("table", .text t), ("error", .ofGlyphs error.glyphs),
      ("error_type", .text errorClass)]

/-- The entries of the line that is printed for an event. -/
def line (e : Event) : List (Value × Value) :=
  (e.fields ++ [("event", Value.text e.name), ("level", .text e.level.name)]).map fun (k, v) =>
    (Value.text k, v)

end Event

end TableFeed
