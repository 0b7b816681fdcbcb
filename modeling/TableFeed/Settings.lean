import TableFeed.Insert.Rows
import TableFeed.Number.Reader
import TableFeed.Text.Upper

/-!
# Settings

A load is set up by the variables of its environment.  Each has a value that holds where it is not
given, and numbers have a least value below which they are refused.
-/

namespace TableFeed

open Number

/-- The variables of an environment.  Their values are texts; octets that are no text, which a
system may hold in a variable, are left out. -/
abbrev Environment := String → Option String

/-- How a load is set up. -/
structure Settings where
  /-- The project that pays for the requests. -/
  project : Option String
  /-- Where the requests are processed. -/
  location : String
  /-- The size from which on a batch is closed. -/
  batchSize : Int
  /-- The number of rows from which on a batch is closed. -/
  batchRows : Int
  /-- The number of attempts. -/
  attempts : Int
  /-- The base of the first wait, in milliseconds. -/
  firstWait : Int
  /-- The growth of the waits. -/
  growth : Float
  /-- The number of workers. -/
  workers : Int
  /-- How long a drain takes at most, in seconds. -/
  drainTimeout : Float
  /-- The least level of the events that are printed. -/
  logLevel : String

namespace Settings

/-- A setting with a default and a least value.  If its variable has a text, that is read, and must
not say less. -/
def taken {α ε : Type} [LT α] [DecidableLT α] (readText : String → Except ε α)
    (unreadable : String → SettingFault) (below : α → α → SettingFault) (env : Environment)
    (name : String) (default least : α) : Except Misuse α :=
  match env name with
  | none => .ok default
  | some text =>
    match readText text with
    | .error _ => .error (.setting name (unreadable text))
    | .ok x => if x < least then .error (.setting name (below least x)) else .ok x

/-- An integer setting with a default and a least value. -/
def integer : Environment → String → Int → Int → Except Misuse Int :=
  taken readInt .notInteger .integerBelow

/-- A number setting with a default and a least value. -/
def number : Environment → String → Float → Float → Except Misuse Float :=
  taken readFloat .notNumber .numberBelow

/-- The variables that settings are read from. -/
def variableNames : List String := [
  "PROJECT_ID", "BQ_LOCATION", "INSERT_BATCH_SIZE_BYTES", "INSERT_MAX_ROWS_PER_BATCH",
  "INSERT_MAX_ATTEMPTS", "INSERT_INITIAL_BACKOFF_MS", "INSERT_BACKOFF_MULTIPLIER",
  "INSERT_WORKERS", "INSERT_DRAIN_TIMEOUT_SECONDS", "LOG_LEVEL"]

/-- Reads the settings from an environment. -/
def read (env : Environment) : Except Misuse Settings := do
  .ok {
    project := (env "PROJECT_ID").filter fun name => !name.isEmpty
    location := (env "BQ_LOCATION").getD "US"
    batchSize := ← integer env "INSERT_BATCH_SIZE_BYTES" (64 * 1024) 1
    batchRows := ← integer env "INSERT_MAX_ROWS_PER_BATCH" 500 1
    attempts := ← integer env "INSERT_MAX_ATTEMPTS" 5 1
    firstWait := ← integer env "INSERT_INITIAL_BACKOFF_MS" 200 0
    growth := ← number env "INSERT_BACKOFF_MULTIPLIER" 1.5 1
    workers := ← integer env "INSERT_WORKERS" 100 1
    drainTimeout := ← number env "INSERT_DRAIN_TIMEOUT_SECONDS" 10 0
    logLevel := Text.upper ((env "LOG_LEVEL").getD "INFO") }

/-- Milliseconds in seconds. -/
def seconds (milliseconds : Int) : Except Overflow Float :=
  (nearest? (milliseconds < 0) milliseconds.natAbs 1000).elim (.error .quotient) .ok

/-- When rejected rows are inserted again. -/
def policy (s : Settings) : Except Failure Policy := do
  let interval ← (seconds s.firstWait).mapError .overflow
  (Policy.make s.attempts interval s.growth 0.5).mapError .misuse

/-- When a batch is closed. -/
def limits (s : Settings) : BatchLimits := ⟨s.batchSize, s.batchRows⟩

end Settings

end TableFeed
